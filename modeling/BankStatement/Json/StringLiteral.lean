import BankStatement.Json.Fault
import BankStatement.Text.Surrogate

/-!
# Strings of documents

A string runs from one quote to the next.  Inside, a backslash starts an escape and control
characters are not allowed.  Reading a string gives its text; skipping it only finds its end, and
does not mind surrogates without their partner.
-/

namespace BankStatement.Json

/-! ## Escapes -/

/-- The characters with an escape of one letter, with that letter. -/
def shortEscapes : List (Char × Char) :=
  [('"', '"'), ('\\', '\\'), ('/', '/'), ('\x08', 'b'), ('\x0c', 'f'), ('\n', 'n'), ('\r', 'r'),
   ('\t', 't')]

/-- The character that an escape of one letter stands for. -/
def ofShortEscape? (letter : Char) : Option Char :=
  (shortEscapes.find? fun pair => pair.2 == letter).map (·.1)

/-- The value of a hexadecimal digit. -/
def hexValue? (c : Char) : Option Nat :=
  if '0' ≤ c ∧ c ≤ '9' then some (c.toNat - '0'.toNat)
  else if 'a' ≤ c ∧ c ≤ 'f' then some (c.toNat - 'a'.toNat + 10)
  else if 'A' ≤ c ∧ c ≤ 'F' then some (c.toNat - 'A'.toNat + 10)
  else none

/-- The number that four hexadecimal digits write. -/
def hexQuad? (text : List Char) : Option Nat :=
  match text.take 4 with
  | [a, b, c, d] =>
      match hexValue? a, hexValue? b, hexValue? c, hexValue? d with
      | some a, some b, some c, some d => some (((a * 16 + b) * 16 + c) * 16 + d)
      | _, _, _, _ => none
  | _ => none

/-- The 16-bit unit that a text begins with, as four digits.  Fewer than four bytes are the end of
the text, whatever they are. -/
def hexUnit (text : List Char) : Except Fault Nat :=
  match hexQuad? text with
  | some unit => .ok unit
  | none =>
      if Utf8.size text < 4 then .error ⟨.endInString, .atEnd⟩
      else .error ⟨.invalidEscape, ⟨text, 4⟩⟩

/-- The low surrogate that has to follow a high one, as an escape. -/
def lowSurrogate (text : List Char) : Except Fault Nat :=
  match text with
  | [] => .error ⟨.endInString, .atEnd⟩
  | '\\' :: after =>
      match after with
      | [] => .error ⟨.endInString, .atEnd⟩
      | 'u' :: digits =>
          match hexUnit digits with
          | .error fault => .error fault
          | .ok unit =>
              if Text.isLowSurrogate unit then .ok unit else .error ⟨.loneSurrogate, ⟨digits, 4⟩⟩
      | other => .error ⟨.unfinishedSurrogates, .at other⟩
  | other => .error ⟨.unfinishedSurrogates, .at other⟩

/-! ## Reading and skipping -/

/-- The text of a string, of which the opening quote is behind. -/
def readString (text : List Char) : Except Fault (List Char) :=
  match text with
  | [] => .error ⟨.endInString, .atEnd⟩
  | '"' :: _ => .ok []
  | '\\' :: [] => .error ⟨.endInString, .atEnd⟩
  | '\\' :: letter :: after =>
      match ofShortEscape? letter with
      | some c => (readString after).map (c :: ·)
      | none =>
          if letter = 'u' then
            match hexUnit after with
            | .error fault => .error fault
            | .ok unit =>
                if Text.isLowSurrogate unit then .error ⟨.loneSurrogate, ⟨after, 4⟩⟩
                else if Text.isHighSurrogate unit then
                  match lowSurrogate (after.drop 4) with
                  | .error fault => .error fault
                  | .ok low => (readString (after.drop 10)).map (Text.ofSurrogates unit low :: ·)
                else (readString (after.drop 4)).map (Char.ofNat unit :: ·)
          else .error ⟨.invalidEscape, .at (letter :: after)⟩
  | c :: rest =>
      if c < ' ' then .error ⟨.controlCharacter, .at (c :: rest)⟩
      else (readString rest).map (c :: ·)
termination_by text.length
decreasing_by all_goals simp only [List.length_cons, List.length_drop]; omega

/-- What follows a string, of which the opening quote is behind. -/
def skipString (text : List Char) : Except Fault (List Char) :=
  match text with
  | [] => .error ⟨.endInString, .atEnd⟩
  | '"' :: rest => .ok rest
  | '\\' :: [] => .error ⟨.endInString, .atEnd⟩
  | '\\' :: letter :: after =>
      match ofShortEscape? letter with
      | some _ => skipString after
      | none =>
          if letter = 'u' then
            match hexUnit after with
            | .error fault => .error fault
            | .ok _ => skipString (after.drop 4)
          else .error ⟨.invalidEscape, .at (letter :: after)⟩
  | c :: rest =>
      if c < ' ' then .error ⟨.controlCharacter, .at (c :: rest)⟩ else skipString rest
termination_by text.length
decreasing_by all_goals simp only [List.length_cons, List.length_drop]; omega

end BankStatement.Json

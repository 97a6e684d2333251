import BankStatement.Json.NumberLiteral
import BankStatement.Json.StringLiteral

/-!
# Document trees

A tree is the structure of a document's text up to the first place at which it cannot be followed
any further.  Such a tear carries the fault that one who reads the text meets there and the one that
is met by skipping, since the two do not always agree.  Strings and numbers that can be skipped but
not read carry the fault in place of their value.  So a text is scanned once, and whoever reads the
tree meets its faults in the order of the text, among whatever else is wrong with it.
-/

namespace BankStatement.Json

mutual

/-- The structure of a value.  Containers carry the text from their bracket on, for the fault of
being nested too deep. -/
inductive Tree where
  | null
  | bool (b : Bool)
  | number (value : Except Fault Number)
  | string (text : Except Fault (List Char))
  | array (start : List Char) (items : Items)
  | object (start : List Char) (members : Members)
  | torn (read skip : Fault)

/-- The items of an array.  A tear also carries the fault met by one who has read all the items that
are wanted and expects the end; `item` carries the text from the item on, which is where such a
reader meets an item too many. -/
inductive Items where
  | close
  | item (start : List Char) (value : Tree) (rest : Items)
  | torn (read skip surplus : Fault)

/-- The members of an object.  A tear may come where a key should begin or inside it, or after a
key, where a colon should be. -/
inductive Members where
  | close
  | member (key : Except Fault (List Char)) (value : Tree) (rest : Members)
  | torn (read skip : Fault)
  | noColon (key : Except Fault (List Char)) (fault : Fault)

end

namespace Tree

/-! ## Scanning -/

/-- The blanks between the parts of a document. -/
def isBlank (c : Char) : Bool :=
  c == ' ' || c == '\n' || c == '\t' || c == '\r'

def skipBlanks (text : List Char) : List Char :=
  text.dropWhile isBlank

/-- A tear that is the same for reading and skipping. -/
def fault (cause : Cause) (place : Place) : Tree :=
  torn ⟨cause, place⟩ ⟨cause, place⟩

/-- A name such as `null`, of which the first letter is behind. -/
def scanName (value : Tree) (name text : List Char) : Tree × Option (List Char) :=
  match name, text with
  | [], rest => (value, some rest)
  | _ :: _, [] => (fault .endInValue .atEnd, none)
  | expected :: name, c :: rest =>
      if c = expected then scanName value name rest
      else (fault .expectedName (.at (c :: rest)), none)

/-- The fault met by reading a string that cannot be skipped. -/
def readFault (text : List Char) (skip : Fault) : Fault :=
  match readString text with
  | .error fault => fault
  | .ok _ => skip

/-- A string, of which the opening quote is behind. -/
def scanString (text : List Char) : Tree × Option (List Char) :=
  match skipString text with
  | .ok rest => (string (readString text), some rest)
  | .error skip => (torn (readFault text skip) skip, none)

/-- A number. -/
def scanNumberTree (text : List Char) : Tree × Option (List Char) :=
  match scanNumber text with
  | .number value rest => (number value, some rest)
  | .torn read skip => (torn read skip, none)

mutual

/-- The value at the start of a text without leading blanks, and what follows it unless it is torn.
`fuel` bounds the parts of the text, of which each has at least one character. -/
def scanValue (fuel : Nat) (text : List Char) : Tree × Option (List Char) :=
  match fuel, text with
  | 0, _ => (fault .endInValue .atEnd, none)
  | _ + 1, [] => (fault .endInValue .atEnd, none)
  | fuel + 1, c :: rest =>
      match c with
      | 'n' => scanName .null ['u', 'l', 'l'] rest
      | 't' => scanName (.bool true) ['r', 'u', 'e'] rest
      | 'f' => scanName (.bool false) ['a', 'l', 's', 'e'] rest
      | '"' => scanString rest
      | '[' =>
          match skipBlanks rest with
          | [] =>
              let ended : Fault := ⟨.endInList, .atEnd⟩
              (.array text (.torn ended ended ended), none)
          | ']' :: after => (.array text .close, some after)
          | first =>
              let (items, after) := scanItems fuel first
              (.array text items, after)
      | '\x7b' =>
          match skipBlanks rest with
          | [] => (.object text (.torn ⟨.endInObject, .atEnd⟩ ⟨.endInObject, .atEnd⟩), none)
          | '\x7d' :: after => (.object text .close, some after)
          | first =>
              let (members, after) := scanMembers fuel first
              (.object text members, after)
      | _ =>
          if c = '-' ∨ Decimal.isDigit c then scanNumberTree (c :: rest)
          else (fault .expectedValue (.at (c :: rest)), none)

/-- The items of an array from one of them on, and what follows the array unless it is torn. -/
def scanItems (fuel : Nat) (text : List Char) : Items × Option (List Char) :=
  match fuel with
  | 0 =>
      let ended : Fault := ⟨.endInList, .atEnd⟩
      (.torn ended ended ended, none)
  | fuel + 1 =>
      match scanValue fuel text with
      | (value, none) => (.item text value .close, none)
      | (value, some rest) =>
          match skipBlanks rest with
          | [] =>
              let ended : Fault := ⟨.endInList, .atEnd⟩
              (.item text value (.torn ended ended ended), none)
          | ']' :: after => (.item text value .close, some after)
          | ',' :: after =>
              match skipBlanks after with
              | [] =>
                  (.item text value (.torn ⟨.endInValue, .atEnd⟩ ⟨.endInValue, .atEnd⟩
                    ⟨.trailingCharacters, .atEnd⟩), none)
              | ']' :: more =>
                  let place := Place.at (']' :: more)
                  (.item text value (.torn ⟨.trailingComma, place⟩ ⟨.expectedValue, place⟩
                    ⟨.trailingComma, place⟩), none)
              | next =>
                  let (items, last) := scanItems fuel next
                  (.item text value items, last)
          | other =>
              let separator : Fault := ⟨.expectedListSeparator, .at other⟩
              (.item text value (.torn separator separator ⟨.trailingCharacters, .at other⟩), none)

/-- The members of an object from one of them on, and what follows the object unless it is torn. -/
def scanMembers (fuel : Nat) (text : List Char) : Members × Option (List Char) :=
  match fuel, text with
  | 0, _ => (.torn ⟨.endInObject, .atEnd⟩ ⟨.endInObject, .atEnd⟩, none)
  | fuel + 1, '"' :: content =>
      match skipString content with
      | .error skip => (.torn (readFault content skip) skip, none)
      | .ok afterKey =>
          let key := readString content
          match skipBlanks afterKey with
          | [] => (.noColon key ⟨.endInObject, .atEnd⟩, none)
          | ':' :: afterColon =>
              match scanValue fuel (skipBlanks afterColon) with
              | (value, none) => (.member key value .close, none)
              | (value, some rest) =>
                  match skipBlanks rest with
                  | [] =>
                      (.member key value (.torn ⟨.endInObject, .atEnd⟩ ⟨.endInObject, .atEnd⟩),
                        none)
                  | '\x7d' :: after => (.member key value .close, some after)
                  | ',' :: after =>
                      match skipBlanks after with
                      | [] =>
                          (.member key value (.torn ⟨.endInValue, .atEnd⟩ ⟨.endInObject, .atEnd⟩),
                            none)
                      | '\x7d' :: more =>
                          let place := Place.at ('\x7d' :: more)
                          (.member key value
                            (.torn ⟨.trailingComma, place⟩ ⟨.keyNotString, place⟩), none)
                      | next =>
                          let (members, last) := scanMembers fuel next
                          (.member key value members, last)
                  | other =>
                      let separator : Fault := ⟨.expectedObjectSeparator, .at other⟩
                      (.member key value (.torn separator separator), none)
          | other => (.noColon key ⟨.expectedColon, .at other⟩, none)
  | _ + 1, other =>
      (.torn ⟨.keyNotString, .at other⟩ ⟨.keyNotString, .at other⟩, none)

end

end Tree

/-! ## Documents -/

/-- A document: one value, and the fault of whatever follows it. -/
structure Document where
  tree : Tree
  surplus? : Option Fault

/-- The document that a text writes. -/
def Document.ofText (text : List Char) : Document :=
  let (tree, rest) := Tree.scanValue (2 * text.length + 1) (Tree.skipBlanks text)
  match rest.map Tree.skipBlanks with
  | none | some [] => ⟨tree, none⟩
  | some after => ⟨tree, some ⟨.trailingCharacters, .at after⟩⟩

/-- What a reader makes of a document. -/
def Document.read {α : Type} (reader : Tree → Result α) (document : Document) : Result α :=
  match reader document.tree, document.surplus? with
  | .error e, _ => .error e
  | .ok _, some fault => .error (.fault fault)
  | .ok value, none => .ok value

end BankStatement.Json

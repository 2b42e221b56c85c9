import CardLedger.Value.Toml.Scalar
import CardLedger.Value.Toml.Table
import CardLedger.Value.Toml.Text

/-!
# Reading TOML texts

The record that a TOML text stands for: headers of tables and of lists of tables, dotted keys, inline
tables and arrays over several lines. Keys and nested values have less than eighty levels. A text
outside this grammar, or one that defines a key twice, has no value.
-/

namespace CardLedger.Value

namespace Toml

/-- Whether a character may stand in a key without quotes. -/
def isBareKeyChar (c : Char) : Bool :=
  c.isAlphanum || c = '_' || c = '-'

/-- Read one part of a dotted key. -/
def readKeyPart? : List Char → Option (String × List Char)
  | '"' :: rest => readBasic? (rest.length + 1) [] rest
  | '\'' :: rest => readRaw? rest
  | cs =>
      let bare := cs.takeWhile isBareKeyChar
      if bare.isEmpty then none else some (String.ofList bare, cs.drop bare.length)

/-- The number of levels that a key or a nested value does not reach. -/
def depthLimit : Nat := 80

/-- Read a dotted key of at most so many parts: the parts in front, the last part, and what
follows. -/
def readParts? : Nat → List Char → Option (List String × String × List Char)
  | 0, _ => none
  | count + 1, cs => do
      let (part, rest) ← readKeyPart? (skipSpace cs)
      match skipSpace rest with
      | '.' :: rest => do
          let (path, last, rest) ← readParts? count rest
          some (part :: path, last, rest)
      | rest => some ([], part, rest)

/-- Read a dotted key. -/
def readKey? (cs : List Char) : Option (List String × String × List Char) :=
  readParts? (depthLimit - 1) cs

mutual

/-- Read a value that lies within so many arrays and inline tables. -/
def readItem? (depth : Nat) : Nat → List Char → Option (Value × List Char)
  | 0, _ => none
  | fuel + 1, cs =>
      match cs with
      | '"' :: _ => (readText? cs).map fun (s, rest) => (.text s, rest)
      | '\'' :: _ => (readText? cs).map fun (s, rest) => (.text s, rest)
      | '[' :: rest =>
          if depth + 1 < depthLimit then
            (readArray? (depth + 1) fuel [] rest).map fun (items, rest) => (.list items, rest)
          else none
      | '\x7b' :: rest =>
          if depth + 1 < depthLimit then
            match skipSpace rest with
            | '\x7d' :: rest => some (.record [], rest)
            | rest => readInline? (depth + 1) fuel [] rest
          else none
      | cs => readScalar? cs

/-- Read the items of an array up to its bracket; a comma may stand behind the last. -/
def readArray? (depth : Nat) : Nat → List Value → List Char → Option (List Value × List Char)
  | 0, _, _ => none
  | fuel + 1, done, cs =>
      match skipLines (cs.length + 1) cs with
      | ']' :: rest => some (done.reverse, rest)
      | rest => do
          let (v, rest) ← readItem? depth fuel rest
          match skipLines (rest.length + 1) rest with
          | ',' :: rest => readArray? depth fuel (v :: done) rest
          | ']' :: rest => some ((v :: done).reverse, rest)
          | _ => none

/-- Read the fields of an inline table up to its brace. -/
def readInline? (depth : Nat) : Nat → Fields → List Char → Option (Value × List Char)
  | 0, _, _ => none
  | fuel + 1, done, cs => do
      let (path, name, rest) ← readKey? cs
      match rest with
      | '=' :: rest =>
          let (v, rest) ← readItem? depth fuel (skipSpace rest)
          let fields ← assign? path name v done
          match skipSpace rest with
          | ',' :: rest => readInline? depth fuel fields rest
          | '\x7d' :: rest => some (.record (fieldValues fields), rest)
          | _ => none
      | _ => none

end

/-- A text as far as it has been read: the tables so far and the path of the one opened last. -/
structure Progress where
  root : Fields
  opened : List String

/-- Read one line without its end. -/
def readLine? (p : Progress) (cs : List Char) : Option (Progress × List Char) :=
  match skipSpace cs with
  | '[' :: '[' :: rest => do
      let (path, name, rest) ← readKey? rest
      match rest with
      | ']' :: ']' :: rest =>
          let root ← openElement? path name p.root
          some (⟨root, path ++ [name]⟩, rest)
      | _ => none
  | '[' :: rest => do
      let (path, name, rest) ← readKey? rest
      match rest with
      | ']' :: rest =>
          let root ← openTable? path name p.root
          some (⟨root, path ++ [name]⟩, rest)
      | _ => none
  | rest =>
      match rest with
      | [] => some (p, [])
      | '#' :: _ => some (p, rest)
      | '\n' :: _ => some (p, rest)
      | '\r' :: _ => some (p, rest)
      | _ => do
          let (path, name, rest) ← readKey? rest
          match rest with
          | '=' :: rest =>
              let (v, rest) ← readItem? 0 (rest.length + 1) (skipSpace rest)
              let root ← assignUnder? p.opened path name v p.root
              some (⟨root, p.opened⟩, rest)
          | _ => none

/-- Read the lines up to the end of the text. -/
def readTables? : Nat → Progress → List Char → Option Fields
  | 0, _, _ => none
  | _ + 1, p, [] => some p.root
  | fuel + 1, p, cs => do
      let (p, rest) ← readLine? p cs
      let rest ← readLineEnd? (skipComment (skipSpace rest))
      readTables? fuel p rest

end Toml

/-- The record of a whole TOML text; a byte order mark in front is skipped. -/
def ofToml? (text : String) : Option Value :=
  let cs :=
    match text.toList with
    | '\uFEFF' :: rest => rest
    | cs => cs
  (Toml.readTables? (cs.length + 1) ⟨[], []⟩ cs).map fun fields => .record (Toml.fieldValues fields)

end CardLedger.Value

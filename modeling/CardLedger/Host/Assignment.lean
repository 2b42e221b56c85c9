import CardLedger.Text.Alphanumeric
import CardLedger.Text.Normal

/-!
# Assignments of variables

The text of a `.env` file: lines that give values to environment variables. A value may be quoted in
part, single quotes keeping everything as it is and double quotes keeping blanks; a backslash takes
the meaning from the next character; a dollar sign refers to a variable, which may stand in braces.
A quoted value may go over several lines. A number sign behind a blank begins a comment. Reading
stops at the first line that breaks these rules. Blanks around a line do not count.
-/

namespace CardLedger

/-- A piece of a value. -/
inductive Piece where
  | char (c : Char)
  /-- The value of a variable. -/
  | reference (name : String)
  deriving DecidableEq

/-- A variable and its value. -/
structure Assignment where
  name : String
  value : List Piece
  deriving DecidableEq

namespace Assignment

/-! ## Lines -/

/-- What the characters of a line so far make of the next one. -/
inductive Scan where
  | plain
  | blank
  | escaped
  | double
  | doubleEscaped
  | single
  | singleEscaped
  deriving DecidableEq

/-- What a character outside of quotes begins. -/
def Scan.opened (c : Char) : Scan :=
  if c = '\\' then .escaped else if c = '"' then .double else if c = '\'' then .single else .plain

/-- Go on by one character. -/
def Scan.next (c : Char) : Scan → Scan
  | .plain => if Text.isBlank c && c != '\n' && c != '\r' then .blank else .opened c
  | .blank => .opened c
  | .escaped => .plain
  | .double => if c = '\\' then .doubleEscaped else if c = '"' then .plain else .double
  | .doubleEscaped => .double
  | .single => if c = '\\' then .singleEscaped else if c = '\'' then .plain else .single
  | .singleEscaped => .single

/-- Drop the rest of a line. -/
def dropLine (cs : List Char) : List Char :=
  (cs.dropWhile (· != '\n')).drop 1

/-- Cut a line off a text; there is none if the text ends before the line does. -/
def cutLine (scan : Scan) : List Char → Option (List Char) × List Char
  | [] => (if scan = .plain then some [] else none, [])
  | c :: rest =>
      if scan = .blank ∧ c = '#' then (some [], dropLine rest)
      else if c = '\n' ∧ scan.next c = .plain then (some [], rest)
      else
        let (line, rest) := cutLine (scan.next c) rest
        (line.map (c :: ·), rest)

/-- The lines of a text, those that are comments being empty. -/
def lines : Nat → List Char → List (Option (List Char))
  | 0, _ => []
  | _ + 1, [] => []
  | fuel + 1, cs =>
      if ((cs.takeWhile (· != '\n')).dropWhile Text.isBlank).head? = some '#' then
        some [] :: lines fuel (dropLine cs)
      else
        let (line, rest) := cutLine .plain cs
        line :: lines fuel rest

/-! ## Values -/

/-- How the next character of a value is read. `quoted` says whether double quotes are open. -/
inductive Mode where
  | plain
  | double
  | single
  /-- Behind a blank; only a comment may follow. -/
  | ended
  | escape (quoted : Bool)
  | name (quoted : Bool) (done : List Char)
  | braced (quoted : Bool) (done : List Char)

/-- The mode in which plain characters are read. -/
def Mode.within (quoted : Bool) : Mode :=
  if quoted then .double else .plain

/-- The character that a backslash and a character stand for. -/
def escaped? (c : Char) : Option Char :=
  if c = 'n' then some '\n' else if "\\'\"$ ".toList.contains c then some c else none

/-- Read a value up to the end of its line. -/
def readValue? : Mode → List Char → Option (List Piece)
  | .plain, [] => some []
  | .ended, [] => some []
  | .escape false, [] => some []
  | .name false done, [] => some [.reference (String.ofList done.reverse)]
  | _, [] => none
  | .plain, c :: rest =>
      if c = '$' then readValue? (.name false []) rest
      else if c = '\'' then readValue? .single rest
      else if c = '"' then readValue? .double rest
      else if c = '\\' then readValue? (.escape false) rest
      else if c = ' ' ∨ c = '\t' then readValue? .ended rest
      else (readValue? .plain rest).map (.char c :: ·)
  | .double, c :: rest =>
      if c = '$' then readValue? (.name true []) rest
      else if c = '"' then readValue? .plain rest
      else if c = '\\' then readValue? (.escape true) rest
      else (readValue? .double rest).map (.char c :: ·)
  | .single, c :: rest =>
      if c = '\'' then readValue? .plain rest else (readValue? .single rest).map (.char c :: ·)
  | .ended, c :: rest =>
      if c = ' ' ∨ c = '\t' then readValue? .ended rest else if c = '#' then some [] else none
  | .escape quoted, c :: rest => do
      let d ← escaped? c
      (readValue? (.within quoted) rest).map (.char d :: ·)
  | .name quoted done, c :: rest =>
      let found := Piece.reference (String.ofList done.reverse)
      if Text.isAlphanumeric c then readValue? (.name quoted (c :: done)) rest
      else if c = '\x7b' ∧ done.isEmpty then readValue? (.braced quoted []) rest
      else if c = '$' then (readValue? (.name quoted []) rest).map (found :: ·)
      else (readValue? (.within quoted) rest).map fun more => found :: .char c :: more
  | .braced quoted done, c :: rest =>
      if c = '\x7d' then
        (readValue? (.within quoted) rest).map (.reference (String.ofList done.reverse) :: ·)
      else readValue? (.braced quoted (c :: done)) rest

/-! ## Names -/

/-- Whether a character may stand in the name of a variable. -/
def isNameChar (c : Char) : Bool :=
  c.isAlphanum || c = '_' || c = '.'

/-- Read the name of a variable and the blanks behind it. -/
def readName? (cs : List Char) : Option (List Char × List Char) :=
  match cs with
  | c :: _ =>
      if c.isAlpha || c = '_' then
        some (cs.takeWhile isNameChar, Text.trimFront (cs.dropWhile isNameChar))
      else none
  | [] => none

/-- Read what stands behind a name. -/
def readAssigned? (name : List Char) : List Char → Option Assignment
  | '=' :: rest => do
      let text := Text.trimFront rest
      let value ← if text.head? = some '#' then some [] else readValue? .plain text
      return ⟨String.ofList name, value⟩
  | _ => none

/-- Read a line without the blanks around it; it may hold no assignment. The word `export` may stand
in front. -/
def readLine? (line : List Char) : Option (Option Assignment) := do
  let cs := Text.trimChars line
  if cs.isEmpty || cs.head? = some '#' then return none
  else
    let (name, rest) ← readName? cs
    if name = "export".toList ∧ rest.head? ≠ some '=' then
      let (name, rest) ← readName? rest
      return some (← readAssigned? name rest)
    else return some (← readAssigned? name rest)

/-- The assignments of lines up to the first that cannot be read. -/
def ofLines : List (Option (List Char)) → List Assignment
  | [] => []
  | line :: rest =>
      match line >>= readLine? with
      | none => []
      | some none => ofLines rest
      | some (some assignment) => assignment :: ofLines rest

/-- The assignments of a text; a byte order mark in front is skipped. -/
def ofText (text : String) : List Assignment :=
  let cs :=
    match text.toList with
    | '\uFEFF' :: rest => rest
    | cs => cs
  ofLines (lines (cs.length + 1) cs)

end Assignment

end CardLedger

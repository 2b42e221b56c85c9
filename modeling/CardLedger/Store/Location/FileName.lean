import CardLedger.Number.Reading
import CardLedger.Text.Percent

/-!
# Names of store files

The name of a store's file may carry options. It then begins with `file:`, and the options stand
behind a question mark; bytes of the path and of the options may be written as a percent sign and two
digits. Every other name is a path as it stands.
-/

namespace CardLedger

/-- How the file of a store is opened. -/
inductive Access where
  | readOnly
  | readWrite
  /-- Made when it is missing. -/
  | create
  deriving DecidableEq

/-- Where a store is kept. -/
inductive Location where
  /-- In memory, for one run. -/
  | memory (access : Access)
  /-- In a file; one that is immutable is only read, whatever the access. -/
  | file (path : String) (access : Access) (immutable : Bool)
  deriving DecidableEq

/-- What an access allows, as a place in their order. -/
def Access.rank : Access → Nat
  | .readOnly => 0
  | .readWrite => 1
  | .create => 2

/-- A path and the options that stand behind it. -/
structure FileName where
  path : String
  options : List (String × String) := []
  deriving DecidableEq

namespace FileName

/-- What is in front of the first zero character. -/
def cutAtZero (text : String) : String :=
  String.ofList (text.toList.takeWhile (· != '\x00'))

/-- The text of written bytes in front of the first zero. -/
def decode (cs : List Char) : String :=
  Text.ofBytes ((Text.percentBytes cs).takeWhile (· != 0))

/-- The options that a text gives; those without a name are skipped. -/
def optionsOf (cs : List Char) : List (String × String) :=
  ((Text.pieces '&' cs).map fun piece =>
    let (name, text) := (Text.splitAtFirst? '=' piece).getD (piece, [])
    (decode name, decode text)).filter fun field => field.1 != ""

/-- What follows the host in a text that begins with two slashes; only the own host is known. -/
def dropHost? : List Char → Option (List Char)
  | '/' :: '/' :: rest =>
      let host := rest.takeWhile (· != '/')
      if host.isEmpty || host == "localhost".toList then some (rest.drop host.length) else none
  | cs => some cs

/-- The name of a file that a text gives. -/
def ofText? (text : String) : Option FileName :=
  let cs := text.toList
  if cs.contains '\x00' then none
  else if "file:".toList.isPrefixOf cs then do
    let shown := (← dropHost? (cs.drop 5)).takeWhile (· != '#')
    let (path, options) := (Text.splitAtFirst? '?' shown).getD (shown, [])
    return ⟨decode path, optionsOf options⟩
  else some ⟨text, []⟩

/-- Whether the text of an option means yes; a number means no if its last eight bits are zero. -/
def isYes (text : String) : Bool :=
  let cs := text.toList.map Char.toLower
  let digits := cs.takeWhile Char.isDigit
  if digits.isEmpty then ["on", "yes", "true"].contains (String.ofList cs)
  else Number.ofDigits digits % 256 != 0

/-- Whether a file is said to be immutable. The first option that says so or not counts. -/
def isImmutable (f : FileName) : Bool :=
  (f.options.lookup "immutable").any isYes

/-- The file system on which a file is kept, if it is named; the last such option counts. -/
def fileSystem? (f : FileName) : Option String :=
  f.options.reverse.lookup "vfs"

/-- The file systems that can be named. That of the last name is in memory. -/
def fileSystems : List String :=
  ["unix", "unix-none", "unix-dotfile", "unix-excl", "memdb"]

/-- What an option makes of whether a store is in memory and of the access to it. An option may not
allow more than was allowed before, save in memory. -/
def heed? (state : Bool × Access) (option : String × String) : Option (Bool × Access) :=
  let restrict (access : Access) : Option (Bool × Access) :=
    if state.1 || decide (access.rank ≤ state.2.rank) then some (false, access) else none
  match option with
  | ("mode", "ro") => restrict .readOnly
  | ("mode", "rw") => restrict .readWrite
  | ("mode", "rwc") => restrict .create
  | ("mode", "memory") => some (true, .readWrite)
  | ("mode", _) => none
  | ("cache", text) => if text == "shared" || text == "private" then some state else none
  | _ => some state

/-- Where a store is kept whose file has this name. A file without a path is kept in memory. -/
def location? (f : FileName) (inMemory : Bool) (access : Access) : Option Location := do
  let (inMemory, access) ← f.options.foldlM heed? (inMemory, access)
  let system := f.fileSystem?.getD "unix"
  if !fileSystems.contains system then none
  else if inMemory || f.path == "" || f.path == ":memory:" then some (.memory access)
  else if system == "memdb" then some (.memory (if f.isImmutable then .readOnly else access))
  else some (.file f.path access f.isImmutable)

end FileName

end CardLedger

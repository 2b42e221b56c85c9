import CardLedger.Host.Path
import CardLedger.Store.Location.FileName
import CardLedger.Store.Location.Url

/-!
# Locations of the store

A URL says where the store is kept: in memory for one run, or in a file that is opened for reading,
for writing, or made when it is missing. The name of the file stands behind the scheme; parameters
follow a question mark.
-/

namespace CardLedger

/-- What the parameters of a URL ask for. -/
structure UrlParameters where
  inMemory : Bool := false
  readOnly : Bool := false
  create : Bool := false
  immutable : Bool := false
  fileSystem? : Option String := none
  deriving DecidableEq

namespace UrlParameters

/-- Take in a parameter. What the mode asked for before stays asked for. -/
def add? (p : UrlParameters) (parameter : String × String) : Option UrlParameters :=
  match parameter with
  | ("mode", "ro") => some { p with readOnly := true }
  | ("mode", "rw") => some p
  | ("mode", "rwc") => some { p with create := true }
  | ("mode", "memory") => some { p with inMemory := true }
  | ("cache", text) => if text == "shared" || text == "private" then some p else none
  | ("immutable", text) =>
      if text == "true" || text == "1" then some { p with immutable := true }
      else if text == "false" || text == "0" then some { p with immutable := false }
      else none
  | ("vfs", text) => some { p with fileSystem? := some text }
  | _ => none

/-- The access that the mode asks for; reading wins. -/
def access (p : UrlParameters) : Access :=
  if p.readOnly then .readOnly else if p.create then .create else .readWrite

/-- The options that the parameters give to the name of the file. -/
def options (p : UrlParameters) : List (String × String) :=
  (if p.immutable then [("immutable", "true")] else []) ++
    p.fileSystem?.toList.map fun text => ("vfs", FileName.cutAtZero text)

/-- The name of the file. Next to options it is taken as it stands. -/
def fileName? (p : UrlParameters) (name : String) : Option FileName :=
  if p.inMemory then some ⟨"", p.options⟩
  else if p.options.isEmpty then FileName.ofText? name
  else some ⟨FileName.cutAtZero name, p.options⟩

end UrlParameters

namespace Location

/-- Whether a text occurs in another one. -/
def occursIn (part : List Char) : List Char → Bool
  | [] => part.isEmpty
  | c :: rest => part.isPrefixOf (c :: rest) || occursIn part rest

/-- The number of connections to a store; one in memory has a single connection. -/
def poolSize (url : String) (maxConnections : Nat) : Nat :=
  if occursIn ":memory:".toList url.toList || occursIn "mode=memory".toList url.toList then 1
  else max maxConnections 1

/-- The scheme and two slashes. -/
def mark : List Char := Url.scheme ++ ['/', '/']

/-- The directories that a store's file needs, the outermost first. -/
def directories (url : String) : List Path :=
  if mark.isPrefixOf url.toList then
    (Path.ofText (String.ofList ((url.toList.drop mark.length).takeWhile (· != '?')))).ancestors
  else []

/-- Drop a mark from the front as often as it stands there. -/
def dropMarks (mark : List Char) : Nat → List Char → List Char
  | 0, cs => cs
  | fuel + 1, cs =>
      if mark.isPrefixOf cs then dropMarks mark fuel (cs.drop mark.length) else cs

/-- The location that a URL names. -/
def ofUrl? (url : String) : Option Location := do
  let cs := url.toList
  if !Url.isValid cs then none
  else
    let rest := dropMarks Url.scheme cs.length (dropMarks mark cs.length cs)
    let (written, given) := (Text.splitAtFirst? '?' rest).getD (rest, [])
    let name ← Text.ofPercent? written
    let asked : UrlParameters := { inMemory := written == ":memory:".toList }
    let parameters ← (← Text.formFields? given).foldlM UrlParameters.add? asked
    (← parameters.fileName? name).location? parameters.inMemory parameters.access

end Location

end CardLedger

import CardLedger.Authorization
import CardLedger.Host.Assignment
import CardLedger.Host.Basic
import CardLedger.Onboarding
import CardLedger.Settings.Reader
import CardLedger.Store.Archive
import CardLedger.Store.Location

/-!
# Starting the ledger

A start sets variables, reads the settings, opens the store, onboards the companies of the settings and checks that
purchases can be authorized. What was onboarded before a failure stays in the store. Settings that
cannot be read stop the start before the store is touched; a missing file means the defaults.
-/

namespace CardLedger

/-- Start on a store that has been opened. -/
def Store.start (s : Store) (a : Nat → Ambient) (settings : Settings) : Except Error Unit × Store :=
  match s.onboardAll a settings.issuance settings.companies with
  | (.error e, s) => (.error e, s)
  | (.ok (), s) => (settings.authorization.authorizer.map fun _ => (), s)

namespace Host

variable {m : Type → Type} [Monad m]

/-- The value of a variable; the environment comes before what is known from elsewhere. -/
def lookup (host : Host m) (known : List (String × String)) (name : String) : m (Option String) := do
  match ← host.envVar? name with
  | some text => return some text
  | none => return known.lookup name

/-- Put the values of variables in the places of references. -/
def resolve (host : Host m) (known : List (String × String)) : List Piece → m String
  | [] => return ""
  | .char c :: rest => return String.singleton c ++ (← resolve host known rest)
  | .reference name :: rest => do
      let text := (← host.lookup known name).getD ""
      return text ++ (← resolve host known rest)

/-- Carry out assignments. The first one of a variable counts; a zero character in the value of a
variable that is to be set stops the start. -/
def assign (host : Host m) (known : List (String × String)) :
    List Assignment → ExceptT Error m (List (String × String))
  | [] => return known
  | assignment :: rest => do
      let text ← host.resolve known assignment.value
      if (← host.lookup known assignment.name).isSome then assign host known rest
      else if text.toList.contains '\x00' then throw (.io "a variable holds a zero character")
      else assign host (known ++ [(assignment.name, text)]) rest

/-- The variables that the file `.env` sets. -/
def assigned (host : Host m) : ExceptT Error m (List (String × String)) := do
  match ← host.entry (Path.ofText ".env") with
  | .file text => host.assign [] (Assignment.ofText text)
  | _ => return []

/-- The settings of a file, the defaults if there is none. -/
def loadSettings (host : Host m) (path : String) : ExceptT Error m Settings := do
  if path.isEmpty then return {}
  else
    match ← host.entry (Path.ofText path) with
    | .absent => return {}
    | entry => liftExcept (Settings.ofFile path entry.text)

/-- Make directories one after the other. -/
def makeDirectories (host : Host m) : List Path → ExceptT Error m Unit
  | [] => return ()
  | path :: rest => do
      host.makeDirectory path
      makeDirectories host rest

/-- Make the directories that the file of a store needs. -/
def prepare (host : Host m) (url : String) : ExceptT Error m Unit :=
  host.makeDirectories (Location.directories url)

/-! ## Files of stores -/

/-- The number of bytes of the longest path on which a step to a store's file may arrive. -/
def longestStep : Nat := 511

/-- The number of bytes of the longest path of a store's file. -/
def longestPlace : Nat := 504

/-- What is added to the name of a store's file to name the file of its journal. -/
def journalEnding : String := "-journal"

/-- The number of bytes of the path to a place. -/
def placeSize (place : List String) : Nat :=
  (Path.ofPlace place).toText.utf8ByteSize

/-- The place to which pieces lead from a place. Two dots take the last step back, whatever it led to;
a step may lead to where nothing is, but not below a file. -/
def locate (host : Host m) : List String → List String → ExceptT Error m (List String)
  | place, [] => return place
  | place, piece :: rest => do
      if piece = ".." then locate host place.dropLast rest
      else if !Path.isStep piece then locate host place rest
      else
        let next := place ++ [piece]
        let isLost :=
          match ← host.entry (Path.ofPlace place) with
          | .directory => !Path.isName piece
          | .absent => false
          | _ => true
        if isLost || longestStep < placeSize next then throw (.database "no place for a store")
        else locate host next rest

/-- The place of the file of a store. -/
def placeOf (host : Host m) (name : String) : ExceptT Error m (List String) := do
  let path := Path.ofText name
  let working ← host.workingDirectory
  let place ← host.locate (if path.isAbsolute then [] else working) path.pieces
  if placeSize place ≤ longestPlace then return place else throw (.database "no place for a store")

/-- Whether a journal can be kept beside the file of a store. -/
def hasJournal (place : List String) : Bool :=
  Path.isName (place.getLast?.getD "" ++ journalEnding)

/-- The store in a file that is there or may be made. One that has no tables yet gets them, which takes
a journal and the right to write; failing that, a file that was missing stays behind empty. -/
def openFile (host : Host m) (name : String) (access : Access) (immutable : Bool) :
    ExceptT Error m Store := do
  let place ← host.placeOf name
  let path := Path.ofPlace place
  let canWrite := access != .readOnly && !immutable && hasJournal place
  match ← host.entry path with
  | .file text =>
      if text.isEmpty && !canWrite then throw (.database "the store is read-only")
      else
        match Store.ofArchive? text with
        | some s => return s
        | none => throw (.database "not a store")
  | .absent =>
      if access != .create then throw (.database "no such store")
      else if canWrite then return {}
      else
        host.write path ""
        throw (.database "the store is read-only")
  | _ => throw (.database "not a file")

/-- The store at a location. One in memory is new and needs tables. -/
def openStore (host : Host m) : Location → ExceptT Error m Store
  | .memory access =>
      if access = .readOnly then throw (.database "the store is read-only") else return {}
  | .file name access immutable => host.openFile name access immutable

/-- Keep a store at a location. What was opened for reading may not have changed. -/
def keepStore (host : Host m) (before after : Store) : Location → ExceptT Error m Unit
  | .memory _ => return ()
  | .file name access immutable => do
      if access = .readOnly || immutable then
        if before.companies.length = after.companies.length then return ()
        else throw (.database "the store is read-only")
      else host.write (Path.ofPlace (← host.placeOf name)) after.toArchive

/-! ## Starts -/

/-- Start on the store of a URL. -/
def startAt (host : Host m) (url : String) (settings : Settings) : ExceptT Error m Unit := do
  host.prepare url
  match Location.ofUrl? url with
  | none => throw (.database "no URL of a store")
  | some location =>
      let before ← host.openStore location
      let (outcome, after) := before.start (← host.ambient) settings
      host.keepStore before after location
      liftExcept outcome

/-- Start the ledger on a host. -/
def start (host : Host m) : ExceptT Error m Unit := do
  let known ← host.assigned
  let path ← host.lookup known "CORPCARDS_CONFIG"
  let settings ← host.loadSettings (path.getD "config.toml")
  let url ← host.lookup known "DATABASE_URL"
  host.startAt (url.getD "sqlite://data/corpcards.sqlite?mode=rwc") settings

end Host

end CardLedger

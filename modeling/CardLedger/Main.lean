import CardLedger.Startup
import CardLedger.Store.Seeded
import Std.Time.DateTime.Timestamp

/-!
# Command line

The program starts the ledger on the machine that it runs on and exits with 0 if that succeeds, else
with 1.
-/

namespace CardLedger

/-- What an attempt to read a file says of it. Nothing can be looked for below a file or under a name
that is no name; a directory is found but cannot be read. -/
def readEntry (path : Path) : IO FileEntry := do
  try
    return .file (← IO.FS.readFile path.toText)
  catch
    | .noFileOrDirectory .. | .invalidArgument .. | .inappropriateType (some _) .. => return .absent
    | .inappropriateType none .. => return .directory
    | e => return .unreadable (toString e)

/-- The directories that lead to the one where the program runs. -/
def currentPlace : IO (List String) := do
  return (Path.ofText (← IO.currentDir).toString).pieces.filter Path.isStep

/-- Make a directory unless it is there. -/
def makeDirectory (path : Path) : ExceptT Error IO Unit :=
  .mk do
    try
      IO.FS.createDir path.toText
      return .ok ()
    catch e =>
      match ← readEntry path with
      | .directory => return .ok ()
      | _ => return .error (.io (toString e))

/-- Replace the text of a file. -/
def writeFile (path : Path) (text : String) : ExceptT Error IO Unit :=
  .mk do
    try
      IO.FS.writeFile path.toText text
      return .ok ()
    catch e => return .error (.io (toString e))

/-- The wall clock and a fresh seed. -/
def drawAmbient : IO (Nat → Ambient) := do
  let nanos := (← Std.Time.Timestamp.now).toNanosecondsSinceUnixEpoch.toInt
  let now := (Instant.ofParts? (nanos / 1000000000) (nanos % 1000000000).toNat).getD .epoch
  let seed := toString (← IO.getRandomBytes 32).toList
  return fun i => .seeded now s!"{seed}/{i}"

/-- The machine that the program runs on. -/
def machine : Host IO where
  envVar? name := IO.getEnv name
  workingDirectory := currentPlace
  entry := readEntry
  makeDirectory := makeDirectory
  write := writeFile
  ambient := drawAmbient

end CardLedger

/-- Start the ledger. -/
def main : IO UInt32 := do
  match ← CardLedger.machine.start.run with
  | .ok () => return 0
  | .error e =>
      IO.eprintln ("Error: " ++ e.message)
      return 1

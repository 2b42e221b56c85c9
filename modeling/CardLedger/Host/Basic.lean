import CardLedger.Error
import CardLedger.Host.Path
import CardLedger.Store.Ambient

/-!
# The host

What the ledger needs of the machine that it runs on. The operations of a host are given in a monad:
those of the real machine in `IO`, those of a machine held in memory in `StateM`.
-/

namespace CardLedger

/-- What stands under a path. -/
inductive FileEntry where
  | absent
  | directory
  | file (text : String)
  | unreadable (reason : String)

/-- The text of a file, or the reason why it cannot be read. -/
def FileEntry.text : FileEntry → Except String String
  | .absent => .error "No such file or directory (os error 2)"
  | .directory => .error "Is a directory (os error 21)"
  | .file text => .ok text
  | .unreadable reason => .error reason

/-- The operations of a host. -/
structure Host (m : Type → Type) where
  /-- The value of an environment variable. -/
  envVar? : String → m (Option String)
  /-- The directories that lead from the root to the one where the program runs. -/
  workingDirectory : m (List String)
  /-- What stands under a path. -/
  entry : Path → m FileEntry
  /-- Make a directory whose parent exists; one that is there already is left alone. -/
  makeDirectory : Path → ExceptT Error m Unit
  /-- Replace the text of a file. -/
  write : Path → String → ExceptT Error m Unit
  /-- The surroundings of the operations to come. -/
  ambient : m (Nat → Ambient)

end CardLedger

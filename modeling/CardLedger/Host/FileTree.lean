import CardLedger.Host.Basic

/-!
# Hosts in memory

A tree of files held in memory, and the host that works on it. Places are named by the directories
that lead to them from the root; the root is always there.
-/

namespace CardLedger

/-- Directories and files by their places. -/
structure FileTree where
  /-- The place where paths begin that are not absolute. -/
  working : List String := []
  directories : List (List String) := []
  files : List (List String × String) := []

namespace FileTree

/-- Whether there is a directory at a place. -/
def isDirectory (tree : FileTree) (place : List String) : Bool :=
  place.isEmpty || tree.directories.contains place

/-- The place to which a piece of a path leads from a directory. -/
def step (place : List String) (piece : String) : List String :=
  if piece = ".." then place.dropLast else if Path.isStep piece then place ++ [piece] else place

/-- Follow pieces from a place. All but the last have to lead to directories. -/
def follow? (tree : FileTree) : List String → List String → Option (List String)
  | place, [] => some place
  | place, piece :: rest =>
      if tree.isDirectory place && Path.isName piece then tree.follow? (step place piece) rest
      else none

/-- The place of a path. -/
def place? (tree : FileTree) (path : Path) : Option (List String) :=
  if path.isUsable then
    tree.follow? (if path.isAbsolute then [] else tree.working) path.pieces
  else none

/-- What stands under a path. -/
def entry (tree : FileTree) (path : Path) : FileEntry :=
  match tree.place? path with
  | none => .absent
  | some place =>
      if tree.isDirectory place then .directory
      else
        match tree.files.lookup place with
        | some text => .file text
        | none => .absent

/-- Make a directory whose parent exists. -/
def makeDirectory (tree : FileTree) (path : Path) : Except Error FileTree :=
  match tree.entry path, tree.place? path with
  | .directory, _ => .ok tree
  | .absent, some place => .ok { tree with directories := tree.directories ++ [place] }
  | _, _ => .error (.io "not a directory")

/-- Replace the text of a file. -/
def write (tree : FileTree) (path : Path) (text : String) : Except Error FileTree :=
  match tree.entry path, tree.place? path with
  | .directory, _ => .error (.io "is a directory")
  | _, some place =>
      .ok { tree with files := (place, text) :: tree.files.filter fun file => file.1 != place }
  | _, none => .error (.io "not a directory")

/-- Change the tree unless that fails. -/
def attempt (change : FileTree → Except Error FileTree) : ExceptT Error (StateM FileTree) Unit := do
  let tree ← liftExcept (change (← get))
  set tree

/-- The host with these environment variables and surroundings. -/
def host (environment : List (String × String)) (ambient : Nat → Ambient) : Host (StateM FileTree) where
  envVar? name := return environment.lookup name
  workingDirectory := return (← get).working
  entry path := return (← get).entry path
  makeDirectory path := attempt fun tree => tree.makeDirectory path
  write path text := attempt fun tree => tree.write path text
  ambient := return ambient

end FileTree

end CardLedger

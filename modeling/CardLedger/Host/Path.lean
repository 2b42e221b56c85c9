import CardLedger.Text.Normal

/-!
# Paths

Names of files: the pieces of a text between the slashes. An empty piece in front stands for the
root. Every other empty piece and every single dot stays where it is and asks for a directory; two
dots lead to the directory above.
-/

namespace CardLedger

/-- The name of a file or directory. -/
structure Path where
  pieces : List String
  deriving DecidableEq

namespace Path

/-- The path of a text. -/
def ofText (text : String) : Path :=
  ⟨(Text.pieces '/' text.toList).map String.ofList⟩

/-- The written form of a path. -/
def toText (p : Path) : String :=
  "/".intercalate p.pieces

/-- The path that leads from the root through some directories. -/
def ofPlace (place : List String) : Path :=
  if place.isEmpty then ⟨["", ""]⟩ else ⟨"" :: place⟩

/-- Whether a path begins at the root instead of the working directory. -/
def isAbsolute (p : Path) : Bool :=
  p.pieces.head? == some "" && decide (1 < p.pieces.length)

/-- Whether a piece of a path leads anywhere. -/
def isStep (piece : String) : Bool :=
  piece != "" && piece != "."

/-- The directories on the way to a path, the outermost first, the path itself left out. -/
def ancestors (p : Path) : List Path :=
  let stops := (List.range p.pieces.length).filter fun i => p.pieces[i]?.any isStep
  stops.dropLast.map fun i => ⟨p.pieces.take (i + 1)⟩

/-- Whether a piece may name a file: at most 255 bytes, none of them zero. -/
def isName (piece : String) : Bool :=
  decide (piece.utf8ByteSize ≤ 255) && !piece.toList.contains '\x00'

/-- Whether a path may be looked for: it is not empty and has less than 4096 bytes. -/
def isUsable (p : Path) : Bool :=
  p.toText != "" && decide (p.toText.utf8ByteSize < 4096)

end Path

end CardLedger

import ReceiptPress.Chunk
import ReceiptPress.Tag.Dictionary
import ReceiptPress.Text.Ascii

namespace ReceiptPress.Tag

inductive Segment where
  | literal (t : Text)
  | tag (t : Text)
  deriving DecidableEq

def Segment.ofPieces : List Text.Piece → List Segment
  | [] => []
  | .found word :: ps => .tag word :: ofPieces ps
  | .char c :: ps =>
    match ofPieces ps with
    | .literal t :: rest => .literal (c :: t) :: rest
    | rest => .literal [c] :: rest

namespace Dictionary

def segments (d : Dictionary) (line : Text) : List Segment :=
  Segment.ofPieces (Text.pieces d.emitterSize line)

def segmentBytes (d : Dictionary) : Segment → Bytes
  | .literal t => Text.toAscii t
  | .tag t => ((d.get? t).map Entry.bytes).getD []

def splitLine (d : Dictionary) (line : Text) : List Chunk :=
  (d.segments line).map fun s => .ofText (d.segmentBytes s)

end Dictionary

end ReceiptPress.Tag

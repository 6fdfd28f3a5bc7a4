import ReceiptPress.Proofs.Tag.Lookup
import ReceiptPress.Tag.Segment

namespace ReceiptPress.Tag

namespace Segment

def tag? : Segment → Option Text
  | literal _ => none
  | tag t => some t

def ofPiece : Text.Piece → Segment
  | .char c => literal [c]
  | .found word => tag word

theorem filterMap_tag?_ofPieces (ps : List Text.Piece) :
    (ofPieces ps).filterMap tag? = ps.filterMap Text.Piece.word? := by
  induction ps with
  | nil => rfl
  | cons p ps ih =>
    cases p with
    | found word => exact congrArg (word :: ·) ih
    | char c =>
      have same : (ofPieces (.char c :: ps)).filterMap tag? = (ofPieces ps).filterMap tag? := by
        rw [ofPieces]
        split
        · rename_i rest merged
          rw [merged]
          rfl
        · rfl
      rw [same, ih]
      rfl

theorem mem_of_literal_mem {ps : List Text.Piece} {t : Text} (mem : literal t ∈ ofPieces ps)
    {c : Char} (among : c ∈ t) : .char c ∈ ps := by
  induction ps generalizing t with
  | nil => cases mem
  | cons p ps ih =>
    cases p with
    | found word =>
      rcases List.mem_cons.1 mem with eq | mem
      · cases eq
      · exact List.mem_cons_of_mem _ (ih mem among)
    | char x =>
      rw [ofPieces] at mem
      split at mem
      · rename_i rest merged
        rcases List.mem_cons.1 mem with eq | mem
        · cases eq
          rcases List.mem_cons.1 among with rfl | among
          · exact List.mem_cons_self
          · exact List.mem_cons_of_mem _ (ih (merged ▸ List.mem_cons_self) among)
        · exact List.mem_cons_of_mem _ (ih (merged ▸ List.mem_cons_of_mem _ mem) among)
      · rcases List.mem_cons.1 mem with eq | mem
        · cases eq
          rw [List.mem_singleton.1 among]
          exact List.mem_cons_self
        · exact List.mem_cons_of_mem _ (ih mem among)

end Segment

namespace Dictionary

variable (d : Dictionary)

theorem filterMap_tag?_segments (line : Text) :
    (d.segments line).filterMap Segment.tag? = (d.emitterFinds line).map Prod.snd := by
  rw [segments, Segment.filterMap_tag?_ofPieces, emitterFinds, Text.map_snd_finds]
  rfl

theorem flatMap_segmentBytes_ofPieces (ps : List Text.Piece) :
    (Segment.ofPieces ps).flatMap d.segmentBytes =
      ps.flatMap fun p => d.segmentBytes (Segment.ofPiece p) := by
  induction ps with
  | nil => rfl
  | cons p ps ih =>
    rw [List.flatMap_cons, ← ih]
    cases p with
    | found word => rfl
    | char c =>
      rw [Segment.ofPieces]
      split
      · rename_i t rest merged
        rw [merged]
        rfl
      · rfl

theorem payload_splitLine (line : Text) :
    payload (d.splitLine line) =
      (Text.pieces d.emitterSize line).flatMap fun p => d.segmentBytes (Segment.ofPiece p) := by
  rw [payload, splitLine, List.flatMap_map, ← flatMap_segmentBytes_ofPieces]
  rfl

end Dictionary

end ReceiptPress.Tag

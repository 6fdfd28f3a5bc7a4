import ReceiptPress.Proofs.Tag.Agreement
import ReceiptPress.Proofs.Text.Words

namespace ReceiptPress

namespace Text

theorem length_pieces (ps : List Piece) :
    (ps.filterMap Piece.char?).length + (ps.filterMap Piece.word?).flatten.length =
      (ps.flatMap Piece.text).length := by
  induction ps with
  | nil => rfl
  | cons p ps ih =>
    rw [List.flatMap_cons, List.length_append, ← ih]
    cases p with
    | char c =>
      have chars : (Piece.char c :: ps).filterMap Piece.char? = c :: ps.filterMap Piece.char? := rfl
      have words : (Piece.char c :: ps).filterMap Piece.word? = ps.filterMap Piece.word? := rfl
      rw [chars, words, List.length_cons, Piece.text, List.length_singleton]
      omega
    | found w =>
      have chars : (Piece.found w :: ps).filterMap Piece.char? = ps.filterMap Piece.char? := rfl
      have words : (Piece.found w :: ps).filterMap Piece.word? = w :: ps.filterMap Piece.word? :=
        rfl
      rw [chars, words, List.flatten_cons, List.length_append, Piece.text]
      omega

theorem length_remainder_add_words (recognise : Recogniser) (t : Text) :
    (remainder recognise t).length + (words recognise t).flatten.length = t.length := by
  have whole := flatMap_text_piecesFrom recognise 0 t
  rw [List.drop_zero] at whole
  exact (length_pieces _).trans (congrArg List.length whole)

end Text

namespace Tag

namespace Segment

def literal? : Segment → Option Text
  | literal t => some t
  | tag _ => none

theorem flatten_filterMap_literal? (ps : List Text.Piece) :
    ((ofPieces ps).filterMap literal?).flatten = ps.filterMap Text.Piece.char? := by
  induction ps with
  | nil => rfl
  | cons p ps ih =>
    cases p with
    | found word => exact ih
    | char c =>
      have same : ((ofPieces (.char c :: ps)).filterMap literal?).flatten =
          c :: ((ofPieces ps).filterMap literal?).flatten := by
        rw [ofPieces]
        split
        · rename_i rest merged
          rw [merged]
          rfl
        · rfl
      rw [same, ih]
      rfl

end Segment

namespace Dictionary

variable (d : Dictionary) (line : Text)

def literals : List Text := (d.segments line).filterMap Segment.literal?

def literalChunks : List Chunk := (d.literals line).map fun t => .ofText (Text.toAscii t)

theorem literalChunks_sublist : (d.literalChunks line).Sublist (d.splitLine line) := by
  have chunks_eq : d.literalChunks line = (d.segments line).filterMap fun segment =>
      segment.literal?.map fun t => Chunk.ofText (Text.toAscii t) := List.map_filterMap
  rw [chunks_eq, splitLine]
  induction d.segments line with
  | nil => exact .slnil
  | cons segment rest ih =>
    cases segment with
    | literal t => exact ih.cons_cons _
    | tag w => exact ih.cons _

theorem flatten_literals : (d.literals line).flatten = Text.remainder d.emitterSize line :=
  Segment.flatten_filterMap_literal? _

theorem words_emitterSize : Text.words d.emitterSize line = (words line).filter d.emits := by
  rw [← d.map_snd_emitterFinds, emitterFinds, Text.map_snd_finds]

def keptTags : List Text := (words line).filter (!d.emits ·)

theorem length_literals :
    (d.literals line).flatten.length =
      (visible line).length + (d.keptTags line).flatten.length := by
  have literal := Text.length_remainder_add_words d.emitterSize line
  have visible := Text.length_remainder_add_words Tag.size line
  have parts := (List.filter_append_perm d.emits (words line)).flatten.length_eq
  rw [words_emitterSize] at literal
  rw [List.flatten_append, List.length_append] at parts
  rw [flatten_literals, Tag.visible, keptTags]
  rw [words] at literal parts ⊢
  omega

theorem keptTags_eq_nil_iff : d.keptTags line = [] ↔ ∀ w ∈ words line, d.emits w = true := by
  simp [keptTags, List.filter_eq_nil_iff]

theorem length_visible_eq_iff :
    (visible line).length = (d.literals line).flatten.length ↔
      ∀ w ∈ words line, d.emits w = true := by
  have length_eq := d.length_literals line
  have equal_iff : (visible line).length = (d.literals line).flatten.length ↔
      (d.keptTags line).flatten = [] := by
    rw [← List.length_eq_zero_iff]
    omega
  rw [equal_iff, ← keptTags_eq_nil_iff]
  constructor
  · intro empty
    cases kept : d.keptTags line with
    | nil => rfl
    | cons w rest =>
      rw [kept, List.flatten_cons, List.append_eq_nil_iff] at empty
      have among : w ∈ d.keptTags line := kept ▸ List.mem_cons_self
      exact absurd empty.1 (Text.ne_nil_of_mem_words (List.mem_filter.1 among).1)
  · intro none
    rw [none]
    rfl

theorem streamSize_literalChunks :
    streamSize (d.literalChunks line) = (d.literals line).flatten.length := by
  rw [literalChunks]
  induction d.literals line with
  | nil => rfl
  | cons t rest ih =>
    rw [List.flatten_cons, List.length_append, ← ih]
    exact congrArg (· + _) (by simp [Chunk.ofText, Chunk.size])

end Dictionary

end Tag

end ReceiptPress

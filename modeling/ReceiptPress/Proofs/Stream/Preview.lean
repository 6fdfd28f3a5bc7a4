import ReceiptPress.Proofs.Text.Hexadecimal
import ReceiptPress.Stream.Report

namespace ReceiptPress.Stream

def readPreview? (t : Text) : Option (Bytes × Bool) :=
  if previewMark.isSuffixOf t then
    (Text.ofPairs? Text.upperHexValue? (t.take (t.length - previewMark.length))).map (·, true)
  else (Text.ofPairs? Text.upperHexValue? t).map (·, false)

theorem ofPairs?_spacedHex (bytes : Bytes) :
    Text.ofPairs? Text.upperHexValue? (Bytes.spacedHex bytes) = some bytes :=
  Text.ofPairs?_pairs Text.upperHexValue?_upperHexDigit bytes

theorem not_mark_suffix_spacedHex (bytes : Bytes) : ¬previewMark <:+ Bytes.spacedHex bytes := by
  intro suffix
  have digits : ∀ k < 16, Text.upperHexDigit k ≠ ']' := by decide
  have bracket : ']' ∈ Text.pairs Text.upperHexDigit bytes := suffix.subset (by decide)
  rcases Text.mem_pairs bracket with space | ⟨k, small, digit⟩
  · cases space
  · exact digits k small digit.symm

theorem readPreview?_spacedHex (bytes : Bytes) (marked : Bool) :
    readPreview? (Bytes.spacedHex bytes ++ if marked then previewMark else []) =
      some (bytes, marked) := by
  cases marked with
  | true =>
    have marks : previewMark.isSuffixOf (Bytes.spacedHex bytes ++ previewMark) = true :=
      List.isSuffixOf_iff_suffix.2 (List.suffix_append _ _)
    rw [if_pos rfl, readPreview?, if_pos marks, List.length_append, Nat.add_sub_cancel,
      List.take_left, ofPairs?_spacedHex]
    rfl
  | false =>
    have unmarked : ¬previewMark.isSuffixOf (Bytes.spacedHex bytes) = true :=
      mt List.isSuffixOf_iff_suffix.1 (not_mark_suffix_spacedHex bytes)
    rw [if_neg Bool.false_ne_true, List.append_nil, readPreview?, if_neg unmarked,
      ofPairs?_spacedHex]
    rfl

def firstBytes : List Chunk → Bytes
  | [] => []
  | first :: _ => first.bytes

/-- A preview shows the bytes of the first chunk up to a bound, and it is marked exactly if the
stream holds more bytes than it shows. -/
def Tells (bound : Nat) (chunks : List Chunk) (t : Text) : Prop :=
  ∃ marked, readPreview? t = some ((firstBytes chunks).take bound, marked) ∧
    (marked = true ↔ min bound (firstBytes chunks).length < streamSize chunks)

theorem previewOf_of_empty {first : Chunk} {rest : List Chunk} (empty : first.bytes = [])
    (bound : Value) : previewOf bound (first :: rest) = .ok "00".toList := by
  simp [previewOf, preview, empty]

theorem previewOf_of_byte {first : Chunk} {rest : List Chunk} (nonempty : first.bytes ≠ [])
    (bound : Nat) :
    previewOf (.int bound) (first :: rest) =
      .ok (Bytes.spacedHex (first.bytes.take bound) ++
        if (first.bytes.take bound).length < streamSize (first :: rest) then previewMark
        else []) := by
  have shown : Value.cutAt (some (bound : Int)) first.bytes = first.bytes.take bound := by
    simp [Value.cutAt]
  simp only [previewOf, preview, List.isEmpty_iff, if_neg nonempty, ← shown]
  rfl

/-- The preview of a stream that is not empty tells what it should unless the first chunk is empty,
in which case it shows a zero byte and is not marked. -/
theorem preview_tells_iff (bound : Nat) {chunks : List Chunk} (filled : streamSize chunks ≠ 0) :
    ∃ t, previewOf (.int bound) chunks = .ok t ∧
      (Tells bound chunks t ↔ firstBytes chunks ≠ []) ∧
      (firstBytes chunks = [] → t = "00".toList) := by
  cases chunks with
  | nil => exact absurd rfl filled
  | cons first rest =>
    by_cases empty : first.bytes = []
    · have read : readPreview? "00".toList = some ([0], false) := by decide
      refine ⟨_, previewOf_of_empty empty _, ⟨fun ⟨marked, told, _⟩ => ?_, fun nonempty => ?_⟩,
        fun _ => rfl⟩
      · rw [read, firstBytes, empty, List.take_nil] at told
        cases told
      · exact absurd empty nonempty
    · refine ⟨_, previewOf_of_byte empty _, ⟨fun _ => empty, fun _ => ?_⟩,
        fun missing => absurd missing empty⟩
      refine ⟨decide ((first.bytes.take bound).length < streamSize (first :: rest)), ?_, ?_⟩
      · rw [← readPreview?_spacedHex]
        simp [firstBytes]
      · rw [decide_eq_true_iff, List.length_take, firstBytes]

theorem preview_tells_iff_cut :
    let chunks := [Chunk.ofText [0x1B, 0x40], Chunk.ofText [0x41]]
    streamSize chunks ≠ 0 ∧ previewOf (.int 1) chunks = .ok "1B ... [EOF]".toList ∧
      Tells 1 chunks "1B ... [EOF]".toList := by
  intro chunks
  have filled : streamSize chunks ≠ 0 := by decide
  have made : previewOf (.int 1) chunks = .ok "1B ... [EOF]".toList := rfl
  obtain ⟨t, previewed, tells, -⟩ := preview_tells_iff 1 filled
  cases made.symm.trans previewed
  exact ⟨filled, made, tells.2 (by decide)⟩

/-- Two bytes in the second chunk of a stream, of which its preview says nothing. -/
theorem empty_chunk_hides :
    let chunks := [Chunk.ofText [], Chunk.ofText [0x41, 0x42]]
    streamSize chunks = 2 ∧ previewOf (.int 32) chunks = .ok "00".toList ∧
      ¬Tells 32 chunks "00".toList := by
  refine ⟨rfl, rfl, fun ⟨marked, told, _⟩ => ?_⟩
  have read : readPreview? "00".toList = some ([0], false) := by decide
  rw [read] at told
  cases told

end ReceiptPress.Stream

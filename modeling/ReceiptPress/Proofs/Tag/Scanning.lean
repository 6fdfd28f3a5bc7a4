import ReceiptPress.Proofs.Tag.Division

namespace ReceiptPress.Tag

theorem mem_finds_iff {t w : Text} {i : Nat} :
    (i, w) ∈ finds t ↔ isTag w = true ∧ w <+: t.drop i := by
  rw [finds, Text.finds_eq_occurrences separate, Text.mem_occurrences_iff separate.fits]
  constructor
  · rintro ⟨j, place, pos, rfl⟩
    obtain rfl : i = j := by omega
    obtain ⟨name, rest, h, found⟩ := eq_braced_of_size_pos pos
    rw [found, take_size_braced h]
    exact ⟨isTag_iff.2 ⟨name, h, rfl⟩, List.prefix_append _ rest⟩
  · rintro ⟨tag, rest, found⟩
    have size_eq : size (t.drop i) = w.length := by rw [← found, size_append_of_isTag tag]
    refine ⟨i, (Nat.zero_add i).symm, ?_, ?_⟩
    · rw [size_eq]
      exact List.length_pos_iff.2 (isTag_ne_nil tag)
    · rw [size_eq, ← found, List.take_left]

theorem prefix_toText_iff {w : Text} (tag : isTag w = true) {s : CodePoints} :
    w <+: s.toText ↔ w.toCodePoints <+: s := by
  constructor
  · rintro ⟨rest, found⟩
    obtain ⟨front, behind, rfl, front_eq, -⟩ := List.map_eq_append_iff.1 found.symm
    rw [eq_toCodePoints_of_toText tag front_eq]
    exact List.prefix_append _ behind
  · intro front
    have shown : CodePoints.toText w.toCodePoints <+: s.toText := front.map CodePoint.toChar
    rwa [CodePoints.toText_toCodePoints] at shown

/-- The tags found in a text are, with their places, all the names between double braces that stand
anywhere in it. They come in order, none begins before the one in front of it ends, and of two texts
with a line feed between them each is scanned for itself. -/
theorem finds_every_tag (s a b : CodePoints) :
    (∀ i w, (i, w) ∈ finds s.toText ↔
      (∃ name, IsName name ∧ w = braced name) ∧ w.toCodePoints <+: s.drop i) ∧
    (finds s.toText).Pairwise (fun f g => f.1 < g.1 ∧ f.1 + f.2.length ≤ g.1) ∧
    finds (CodePoints.toText (a ++ .char '\n' :: b)) =
      finds a.toText ++ (finds b.toText).map fun f => (f.1 + (a.length + 1), f.2) := by
  refine ⟨fun i w => ?_, Text.pairwise_finds size _, ?_⟩
  · have dropped : s.toText.drop i = CodePoints.toText (s.drop i) := List.map_drop.symm
    rw [mem_finds_iff, ← isTag_iff, dropped]
    exact and_congr_right fun tag => prefix_toText_iff tag
  · have joined : CodePoints.toText (a ++ .char '\n' :: b) = a.toText ++ '\n' :: b.toText :=
      List.map_append
    rw [joined, ← CodePoints.length_toText a]
    exact Text.finds_append_newline separate withinLines a.toText b.toText

example : finds "\x7b\x7b\x7bA\x7d\x7d\x7b\x7bB\x7d\n\x7b\x7bC\x7d\x7d\x7d".toList =
    [(1, "\x7b\x7bA\x7d\x7d".toList), (11, "\x7b\x7bC\x7d\x7d".toList)] := by
  decide

end ReceiptPress.Tag

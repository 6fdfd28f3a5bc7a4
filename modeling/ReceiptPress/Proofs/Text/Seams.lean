import ReceiptPress.Proofs.Text.Words

/-!
# Scanning a text in parts

Two texts meet at a seam if no match of the first one reaches into the second or depends on it. A
scan of the two is then a scan of the one and of the other (`pieces_append`). There is a seam in
front of every match, if matches do not overlap (`seam_of_match`), and on both sides of a divider
(`Divides`).
-/

namespace ReceiptPress.Text

variable {recognise : Recogniser}

def Seam (recognise : Recogniser) (s t : Text) : Prop :=
  ∀ k < s.length, recognise (s.drop k ++ t) = recognise (s.drop k)

theorem Seam.tail {c : Char} {s t : Text} (seam : Seam recognise (c :: s) t) :
    Seam recognise s t :=
  fun k inside => seam (k + 1) (Nat.succ_lt_succ inside)

theorem piecesFrom_eq_drop (skip : Nat) (t : Text) :
    piecesFrom recognise skip t = pieces recognise (t.drop skip) := by
  induction t generalizing skip with
  | nil => cases skip <;> simp [pieces, piecesFrom]
  | cons c cs ih =>
    cases skip with
    | zero => rfl
    | succ skip => exact ih skip

section Append

variable (fits : ∀ t, recognise t ≤ t.length)

include fits

theorem piecesFrom_append {s t : Text} (seam : Seam recognise s t) {skip : Nat}
    (inside : skip ≤ s.length) :
    piecesFrom recognise skip (s ++ t) = piecesFrom recognise skip s ++ pieces recognise t := by
  induction s generalizing skip with
  | nil =>
    obtain rfl : skip = 0 := Nat.le_zero.1 inside
    rfl
  | cons c cs ih =>
    cases skip with
    | succ skip => exact ih seam.tail (Nat.le_of_succ_le_succ inside)
    | zero =>
      have here : recognise (c :: (cs ++ t)) = recognise (c :: cs) := seam 0 (Nat.zero_lt_succ _)
      cases size : recognise (c :: cs) with
      | zero =>
        simp only [List.cons_append, piecesFrom, here, size]
        exact congrArg _ (ih seam.tail (Nat.zero_le _))
      | succ n =>
        have within : n ≤ cs.length := by
          have bound := fits (c :: cs)
          rw [size, List.length_cons] at bound
          omega
        simp only [List.cons_append, piecesFrom, here, size, List.take_succ_cons,
          List.take_append_of_le_length within]
        exact congrArg _ (ih seam.tail within)

theorem pieces_append {s t : Text} (seam : Seam recognise s t) :
    pieces recognise (s ++ t) = pieces recognise s ++ pieces recognise t :=
  piecesFrom_append fits seam (Nat.zero_le _)

end Append

theorem pieces_eq_map_char {t : Text} (none : ∀ k < t.length, recognise (t.drop k) = 0) :
    pieces recognise t = t.map .char := by
  induction t with
  | nil => rfl
  | cons c cs ih =>
    have here : recognise (c :: cs) = 0 := none 0 (Nat.zero_lt_succ _)
    simp only [pieces, piecesFrom, here, List.map_cons]
    exact congrArg _ (ih fun k inside => none (k + 1) (Nat.succ_lt_succ inside))

theorem pieces_of_match {w t : Text} (some : w ≠ [])
    (here : recognise (w ++ t) = w.length) :
    pieces recognise (w ++ t) = .found w :: pieces recognise t := by
  cases w with
  | nil => exact absurd rfl some
  | cons c cs =>
    rw [List.cons_append, List.length_cons] at here
    simp only [pieces, List.cons_append, piecesFrom, here, List.take_succ_cons, List.take_left]
    rw [piecesFrom_eq_drop, List.drop_left]
    rfl

/-! ## Seams in front of matches -/

/-- Whether a match ends within a text can be told from that text. -/
def Settled (recognise : Recogniser) : Prop :=
  ∀ s t, recognise (s ++ t) ≤ s.length → recognise (s ++ t) = recognise s

theorem seam_of_match (separate : Separate recognise) (settled : Settled recognise) (s : Text)
    {t : Text} (starts : 0 < recognise t) : Seam recognise s t := by
  intro k inside
  apply settled
  apply Nat.le_of_not_lt
  intro reaches
  have some : 0 < (s.drop k).length := by
    rw [List.length_drop]
    omega
  have none := separate.apart (s.drop k ++ t) (s.drop k).length some reaches
  rw [List.drop_left] at none
  omega

theorem pieces_append_match (separate : Separate recognise) (settled : Settled recognise)
    {w : Text} (some : w ≠ []) (s : Text) {t : Text} (here : recognise (w ++ t) = w.length) :
    pieces recognise (s ++ (w ++ t)) =
      pieces recognise s ++ .found w :: pieces recognise t := by
  have starts : 0 < recognise (w ++ t) := here ▸ List.length_pos_iff.2 some
  rw [pieces_append separate.fits (seam_of_match separate settled s starts),
    pieces_of_match some here]

/-! ## Dividers -/

/-- A text that no match reaches into, wherever it stands, and in which none begins. -/
structure Divides (recognise : Recogniser) (v : Text) : Prop where
  before : ∀ s t, recognise (s ++ (v ++ t)) = recognise s
  within : ∀ k < v.length, ∀ t, recognise (v.drop k ++ t) = 0

theorem Divides.pieces_append {v : Text} (divides : Divides recognise v)
    (fits : ∀ t, recognise t ≤ t.length) (s t : Text) :
    pieces recognise (s ++ (v ++ t)) =
      pieces recognise s ++ (v.map .char ++ pieces recognise t) := by
  have none (k : Nat) (inside : k < v.length) : recognise (v.drop k) = 0 := by
    simpa using divides.within k inside []
  have front : Seam recognise s (v ++ t) := fun k _ => divides.before (s.drop k) t
  have back : Seam recognise v t := fun k inside =>
    (divides.within k inside t).trans (none k inside).symm
  rw [Text.pieces_append fits front, Text.pieces_append fits back, pieces_eq_map_char none]

theorem Divides.words_append {v : Text} (divides : Divides recognise v)
    (fits : ∀ t, recognise t ≤ t.length) (s t : Text) :
    words recognise (s ++ (v ++ t)) = words recognise s ++ words recognise t := by
  have silent : (v.map Piece.char).filterMap Piece.word? = [] := by
    simp [List.filterMap_map, List.filterMap_eq_nil_iff, Piece.word?]
  simp only [words, divides.pieces_append fits, List.filterMap_append, silent, List.nil_append]

/-! ## One word -/

theorem settled_literal (w : Text) : Settled (literal w) := by
  intro s t fits
  by_cases here : w <+: s
  · have behind : w <+: s ++ t := here.trans (List.prefix_append s t)
    simp [literal, here, behind]
  · have absent : ¬w <+: s ++ t := by
      intro behind
      simp only [literal, List.isPrefixOf_iff_prefix.2 behind, if_true] at fits
      exact here (List.prefix_of_prefix_length_le behind (List.prefix_append s t) fits)
    simp [literal, here, absent]

theorem literal_append (w t : Text) : literal w (w ++ t) = w.length := by
  simp [literal]

theorem literal_eq_zero {w t : Text} (absent : ¬w <:+: t) (k : Nat) : literal w (t.drop k) = 0 := by
  have here : ¬w <+: t.drop k := fun found =>
    absent (found.isInfix.trans (List.drop_suffix k t).isInfix)
  simp [literal, here]

/-- What holds of texts without a word, and of texts with the word between two texts of which it
holds, holds of every text. -/
theorem occurrence_induction {w : Text} (some : w ≠ []) {motive : Text → Prop}
    (absent : ∀ t, ¬w <:+: t → motive t)
    (present : ∀ s t, motive s → motive t → motive (s ++ (w ++ t))) (t : Text) : motive t := by
  induction size : t.length using Nat.strongRecOn generalizing t with
  | ind n ih =>
    by_cases occurs : w <:+: t
    · obtain ⟨before, after, rfl⟩ := occurs
      have pos : 0 < w.length := List.length_pos_iff.2 some
      rw [List.append_assoc] at size ⊢
      rw [List.length_append, List.length_append] at size
      exact present before after (ih _ (by omega) before rfl) (ih _ (by omega) after rfl)
    · exact absent t occurs

end ReceiptPress.Text

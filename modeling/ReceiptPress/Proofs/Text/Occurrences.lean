import ReceiptPress.Text.Scan

/-!
# Scanning against occurrences

A scan takes each match whole and goes on behind it, so in general it misses the matches that begin
inside one already taken. `finds_eq_occurrences` says that it misses nothing when no match begins
inside another: then a scan finds what stands at every place, each place looked at by itself. Two
scans of one text can be compared place by place from there.
-/

namespace ReceiptPress.Text

/-- The matches that begin at any place of a text, whether or not they overlap. -/
def occurrences (recognise : Recogniser) : (offset : Nat) → Text → List (Nat × Text)
  | _, [] => []
  | offset, c :: cs =>
    match recognise (c :: cs) with
    | 0 => occurrences recognise (offset + 1) cs
    | size + 1 =>
      (offset, (c :: cs).take (size + 1)) :: occurrences recognise (offset + 1) cs

structure Separate (recognise : Recogniser) : Prop where
  fits : ∀ t, recognise t ≤ t.length
  apart : ∀ t k, 0 < k → k < recognise t → recognise (t.drop k) = 0

theorem starts_piecesFrom {recognise : Recogniser} (separate : Separate recognise)
    (t : Text) (skip offset : Nat) (covered : ∀ k < skip, recognise (t.drop k) = 0) :
    Piece.starts (offset + skip) (piecesFrom recognise skip t) =
      occurrences recognise offset t := by
  induction t generalizing skip offset with
  | nil => cases skip <;> simp [piecesFrom, Piece.starts, occurrences]
  | cons c cs ih =>
    cases skip with
    | succ skip =>
      have here : recognise (c :: cs) = 0 := covered 0 (by omega)
      have behind : ∀ k < skip, recognise (cs.drop k) = 0 :=
        fun k hk => covered (k + 1) (by omega)
      rw [piecesFrom, occurrences, here, ← ih skip (offset + 1) behind]
      congr 1
      omega
    | zero =>
      cases size : recognise (c :: cs) with
      | zero =>
        simp only [piecesFrom, occurrences, size, Piece.starts]
        exact ih 0 (offset + 1) (by simp)
      | succ n =>
        have behind : ∀ k < n, recognise (cs.drop k) = 0 := fun k hk =>
          separate.apart (c :: cs) (k + 1) (by omega) (by omega)
        have fits : n + 1 ≤ (c :: cs).length := size ▸ separate.fits (c :: cs)
        simp only [piecesFrom, occurrences, size, Piece.starts, ← ih n (offset + 1) behind]
        rw [List.length_take_of_le fits]
        congr 2
        omega

theorem finds_eq_occurrences {recognise : Recogniser} (separate : Separate recognise) (t : Text) :
    finds recognise t = occurrences recognise 0 t :=
  starts_piecesFrom separate t 0 0 (by simp)

theorem mem_occurrences_iff {recognise : Recogniser} (fits : ∀ t, recognise t ≤ t.length)
    {t w : Text} {offset place : Nat} :
    (place, w) ∈ occurrences recognise offset t ↔
      ∃ i, place = offset + i ∧ 0 < recognise (t.drop i) ∧
        (t.drop i).take (recognise (t.drop i)) = w := by
  induction t generalizing offset with
  | nil =>
    have empty : recognise [] = 0 := Nat.le_zero.1 (fits [])
    simp [occurrences, empty]
  | cons c cs ih =>
    have behind : (place, w) ∈ occurrences recognise (offset + 1) cs ↔
        ∃ i, place = offset + (i + 1) ∧ 0 < recognise (cs.drop i) ∧
          (cs.drop i).take (recognise (cs.drop i)) = w := by
      rw [ih]
      exact exists_congr fun i => and_congr_left fun _ => by omega
    rw [← Nat.or_exists_add_one]
    simp only [List.drop_zero, List.drop_succ_cons, ← behind, occurrences]
    cases size : recognise (c :: cs) with
    | zero => simp
    | succ n => simp [eq_comm]

theorem occurrences_add (recognise : Recogniser) (offset k : Nat) (t : Text) :
    occurrences recognise (offset + k) t =
      (occurrences recognise offset t).map fun f => (f.1 + k, f.2) := by
  induction t generalizing offset with
  | nil => rfl
  | cons c cs ih =>
    have next : offset + k + 1 = offset + 1 + k := Nat.add_right_comm offset k 1
    rw [occurrences, occurrences, next, ih]
    split <;> rfl

theorem map_snd_starts (offset : Nat) (ps : List Piece) :
    (Piece.starts offset ps).map Prod.snd = ps.filterMap Piece.word? := by
  induction ps generalizing offset with
  | nil => rfl
  | cons p ps ih =>
    cases p with
    | char c => exact ih (offset + 1)
    | found word => exact congrArg (word :: ·) (ih (offset + word.length))

theorem map_snd_finds (recognise : Recogniser) (t : Text) :
    (finds recognise t).map Prod.snd = words recognise t :=
  map_snd_starts 0 _

def Keeps (keep : Text → Bool) (wide narrow : Recogniser) : Prop :=
  ∀ t, narrow t = if keep (t.take (wide t)) then wide t else 0

namespace Keeps

variable {keep : Text → Bool} {wide narrow : Recogniser}

theorem le (keeps : Keeps keep wide narrow) (t : Text) : narrow t ≤ wide t := by
  rw [keeps t]
  split
  · exact Nat.le_refl _
  · exact Nat.zero_le _

theorem separate (keeps : Keeps keep wide narrow) (apart : Separate wide) : Separate narrow where
  fits t := Nat.le_trans (keeps.le t) (apart.fits t)
  apart t k pos inside := by
    have none : wide (t.drop k) = 0 := apart.apart t k pos (Nat.lt_of_lt_of_le inside (keeps.le t))
    exact Nat.le_zero.1 (none ▸ keeps.le (t.drop k))

theorem occurrences_eq (keeps : Keeps keep wide narrow) (offset : Nat) (t : Text) :
    occurrences narrow offset t = (occurrences wide offset t).filter (keep ·.2) := by
  induction t generalizing offset with
  | nil => rfl
  | cons c cs ih =>
    have here := keeps (c :: cs)
    cases size : wide (c :: cs) with
    | zero =>
      have none : narrow (c :: cs) = 0 := by simpa only [size, ite_self] using here
      simp only [occurrences, none, size]
      exact ih (offset + 1)
    | succ n =>
      rw [size] at here
      cases kept : keep ((c :: cs).take (n + 1)) with
      | true =>
        rw [kept, if_pos rfl] at here
        simp only [occurrences, here, size, List.filter_cons, kept, if_true, ih]
      | false =>
        rw [kept, if_neg Bool.false_ne_true] at here
        simp only [occurrences, here, size, List.filter_cons, kept, Bool.false_eq_true, if_false,
          ih]

theorem finds_eq (keeps : Keeps keep wide narrow) (apart : Separate wide) (t : Text) :
    finds narrow t = (finds wide t).filter (keep ·.2) := by
  rw [finds_eq_occurrences (keeps.separate apart), finds_eq_occurrences apart,
    keeps.occurrences_eq]

end Keeps

def WithinLines (recognise : Recogniser) : Prop :=
  ∀ s t, recognise (s ++ '\n' :: t) = recognise s

theorem occurrences_append_newline {recognise : Recogniser} (separate : Separate recognise)
    (within : WithinLines recognise) (s t : Text) (offset : Nat) :
    occurrences recognise offset (s ++ '\n' :: t) =
      occurrences recognise offset s ++ occurrences recognise (offset + s.length + 1) t := by
  induction s generalizing offset with
  | nil =>
    have empty : recognise [] = 0 := Nat.le_zero.1 (separate.fits [])
    have newline : recognise ('\n' :: t) = 0 := (within [] t).trans empty
    simp [occurrences, newline]
  | cons c cs ih =>
    have here : recognise (c :: (cs ++ '\n' :: t)) = recognise (c :: cs) := within (c :: cs) t
    have next : offset + 1 + cs.length + 1 = offset + (c :: cs).length + 1 := by
      rw [List.length_cons]
      omega
    cases size : recognise (c :: cs) with
    | zero => simp only [List.cons_append, occurrences, here, size, ih, next]
    | succ n =>
      have fits : n ≤ cs.length := by
        have bound := separate.fits (c :: cs)
        rw [size, List.length_cons] at bound
        omega
      simp only [List.cons_append, occurrences, here, size, ih, next, List.take_succ_cons,
        List.take_append_of_le_length fits]

theorem finds_append_newline {recognise : Recogniser} (separate : Separate recognise)
    (within : WithinLines recognise) (s t : Text) :
    finds recognise (s ++ '\n' :: t) =
      finds recognise s ++ (finds recognise t).map fun f => (f.1 + (s.length + 1), f.2) := by
  simp only [finds_eq_occurrences separate]
  rw [occurrences_append_newline separate within, Nat.add_assoc, occurrences_add]

theorem words_append_newline {recognise : Recogniser} (separate : Separate recognise)
    (within : WithinLines recognise) (s t : Text) :
    words recognise (s ++ '\n' :: t) = words recognise s ++ words recognise t := by
  simp only [← map_snd_finds]
  rw [finds_append_newline separate within, List.map_append, List.map_map]
  rfl

end ReceiptPress.Text

import ReceiptPress.Proofs.Text.Occurrences

namespace ReceiptPress.Text

variable {recognise : Recogniser}

theorem ne_nil_of_found_mem_piecesFrom {skip : Nat} {t w : Text}
    (mem : .found w ∈ piecesFrom recognise skip t) : w ≠ [] := by
  fun_induction piecesFrom recognise skip t with
  | case1 => cases mem
  | case2 skip c cs ih => exact ih mem
  | case3 c cs none ih =>
    rcases List.mem_cons.1 mem with eq | mem
    · cases eq
    · exact ih mem
  | case4 c cs size some ih =>
    rcases List.mem_cons.1 mem with eq | mem
    · cases eq
      simp
    · exact ih mem

theorem le_of_mem_starts {offset : Nat} {ps : List Piece} {f : Nat × Text}
    (mem : f ∈ Piece.starts offset ps) : offset ≤ f.1 := by
  induction ps generalizing offset with
  | nil => cases mem
  | cons p ps ih =>
    cases p with
    | char c => exact Nat.le_of_succ_le (ih mem)
    | found word =>
      rcases List.mem_cons.1 mem with rfl | mem
      · exact Nat.le_refl offset
      · exact Nat.le_of_add_right_le (ih mem)

theorem pairwise_starts {offset : Nat} {ps : List Piece} (filled : ∀ w, .found w ∈ ps → w ≠ []) :
    (Piece.starts offset ps).Pairwise fun f g => f.1 < g.1 ∧ f.1 + f.2.length ≤ g.1 := by
  induction ps generalizing offset with
  | nil => exact .nil
  | cons p ps ih =>
    have rest : ∀ w, .found w ∈ ps → w ≠ [] := fun w mem => filled w (List.mem_cons_of_mem p mem)
    cases p with
    | char c => exact ih rest
    | found word =>
      refine .cons (fun g mem => ?_) (ih rest)
      have some : 0 < word.length := List.length_pos_iff.2 (filled word List.mem_cons_self)
      have behind : offset + word.length ≤ g.1 := le_of_mem_starts mem
      exact ⟨by omega, behind⟩

theorem pairwise_finds (recognise : Recogniser) (t : Text) :
    (finds recognise t).Pairwise fun f g => f.1 < g.1 ∧ f.1 + f.2.length ≤ g.1 :=
  pairwise_starts fun _ mem => ne_nil_of_found_mem_piecesFrom mem

theorem ne_nil_of_mem_words {t w : Text} (mem : w ∈ words recognise t) : w ≠ [] := by
  obtain ⟨piece, among, eq⟩ := List.mem_filterMap.1 mem
  cases piece with
  | char c => cases eq
  | found v =>
    cases eq
    exact ne_nil_of_found_mem_piecesFrom among

theorem infix_of_mem_words {t w : Text} (mem : w ∈ words recognise t) : w <:+: t := by
  obtain ⟨piece, among, eq⟩ := List.mem_filterMap.1 mem
  cases piece with
  | char c => cases eq
  | found v =>
    cases eq
    obtain ⟨before, after, split⟩ := List.append_of_mem among
    have whole := flatMap_text_piecesFrom recognise 0 t
    rw [List.drop_zero] at whole
    rw [pieces] at split
    refine ⟨before.flatMap Piece.text, after.flatMap Piece.text, ?_⟩
    rw [← whole, split, List.flatMap_append, List.flatMap_cons, List.append_assoc]
    rfl

theorem occurs_iff_infix {w t : Text} : occurs w t = true ↔ w <:+: t := by
  induction t with
  | nil => rw [occurs, List.isEmpty_iff, List.infix_nil]
  | cons c cs ih =>
    rw [occurs, Bool.or_eq_true, List.isPrefixOf_iff_prefix, ih, List.infix_cons_iff]

theorem words_eq_flatMap_lines (separate : Separate recognise) (within : WithinLines recognise)
    (t : Text) : words recognise t = (lines t).flatMap (words recognise) := by
  have joined (line : Text) (rest : List Text) :
      words recognise (join ['\n'] (line :: rest)) = (line :: rest).flatMap (words recognise) := by
    induction rest generalizing line with
    | nil => simp [join, List.intercalate]
    | cons next rest ih =>
      have shape : join ['\n'] (line :: next :: rest) =
          line ++ '\n' :: join ['\n'] (next :: rest) := by
        simp [join, List.intercalate]
      rw [shape, words_append_newline separate within, ih]
      rfl
  cases split : lines t with
  | nil => exact absurd split (lines_ne_nil t)
  | cons line rest =>
    rw [← joined, ← split, join_lines]

end ReceiptPress.Text

import ReceiptPress.Proofs.Tag.Replacement

namespace ReceiptPress.Tag

def fill (value : Text → Option Text) (t : Text) : Text :=
  (Text.pieces size t).flatMap fun
    | .char c => [c]
    | .found w => (value w).getD w

def also (value : Text → Option Text) (w v : Text) : Text → Option Text :=
  fun x => if x = w then some v else value x

theorem fill_congr {value other : Text → Option Text} {t : Text}
    (same : ∀ w ∈ words t, (value w).getD w = (other w).getD w) : fill value t = fill other t := by
  rw [fill, fill, List.flatMap_def, List.flatMap_def]
  refine congrArg _ (List.map_congr_left fun p among => ?_)
  cases p with
  | char c => rfl
  | found w => exact same w (List.mem_filterMap.2 ⟨_, among, rfl⟩)

theorem fill_none (t : Text) : fill (fun _ => none) t = t := by
  have whole := Text.flatMap_text_piecesFrom size 0 t
  rw [List.drop_zero, List.flatMap_def] at whole
  rw [fill, List.flatMap_def]
  refine Eq.trans (congrArg _ (List.map_congr_left fun p _ => ?_)) whole
  cases p <;> rfl

theorem fill_also_comm {w x : Text} (apart : w ≠ x) (value : Text → Option Text) (v u t : Text) :
    fill (also (also value w v) x u) t = fill (also (also value x u) w v) t := by
  apply fill_congr
  intro y _
  by_cases here : y = w
  · simp [also, here, apart]
  · simp [also, here]

section

variable {w : Text} {value : Text → Option Text}

theorem fill_also_of_absent {t : Text} (absent : ¬w <:+: t) (v : Text) :
    fill (also value w v) t = fill value t := by
  apply fill_congr
  intro x mem
  have other : x ≠ w := fun same => absent (same ▸ Text.infix_of_mem_words mem)
  rw [also, if_neg other]

theorem fill_also_self (kept : value w = none) (t : Text) :
    fill (also value w w) t = fill value t := by
  apply fill_congr
  intro x _
  by_cases here : x = w
  · rw [also, if_pos here, here, kept]
    rfl
  · rw [also, if_neg here]

variable (tag : isTag w = true)

include tag

theorem fill_append_tag (s t : Text) :
    fill value (s ++ (w ++ t)) = fill value s ++ ((value w).getD w ++ fill value t) := by
  have here : size (w ++ t) = w.length := size_append_of_isTag tag t
  simp only [fill, Text.pieces_append_match separate settled (isTag_ne_nil tag) s here,
    List.flatMap_append, List.flatMap_cons]

theorem fill_also_append (v s t : Text) :
    fill (also value w v) (s ++ (w ++ t)) =
      fill (also value w v) s ++ (v ++ fill (also value w v) t) := by
  rw [fill_append_tag tag, also, if_pos rfl, Option.getD_some]

variable (kept : value w = none)

include kept

theorem fill_append_kept (s t : Text) :
    fill value (s ++ (w ++ t)) = fill value s ++ (w ++ fill value t) := by
  rw [fill_append_tag tag, kept, Option.getD_none]

theorem count_words_le_fill (t : Text) :
    (words t).count w ≤ (words (fill value t)).count w := by
  induction t using Text.occurrence_induction (isTag_ne_nil tag) with
  | absent t absent =>
    rw [(count_words_eq_zero_iff tag).2 absent]
    exact Nat.zero_le _
  | present s t before after =>
    rw [fill_append_kept tag kept, count_words_append_tag tag, count_words_append_tag tag]
    omega

theorem length_fill_also (v t : Text) :
    (fill (also value w v) t).length + (words t).count w * w.length =
      (fill value t).length + (words t).count w * v.length := by
  induction t using Text.occurrence_induction (isTag_ne_nil tag) with
  | absent t absent =>
    rw [fill_also_of_absent absent, (count_words_eq_zero_iff tag).2 absent]
    simp
  | present s t before after =>
    simp only [fill_also_append tag, fill_append_kept tag kept, count_words_append_tag tag,
      List.length_append, Nat.add_mul]
    omega

theorem replace_fill_of_count_eq {v t : Text}
    (same : (words (fill value t)).count w = (words t).count w) :
    Text.replace w v (fill value t) = fill (also value w v) t := by
  induction t using Text.occurrence_induction (isTag_ne_nil tag) with
  | absent t absent =>
    rw [(count_words_eq_zero_iff tag).2 absent, count_words_eq_zero_iff tag] at same
    rw [fill_also_of_absent absent, replace_of_absent same]
  | present s t before after =>
    have more_before := count_words_le_fill tag kept s
    have more_after := count_words_le_fill tag kept t
    rw [fill_append_kept tag kept, count_words_append_tag tag, count_words_append_tag tag] at same
    rw [fill_append_kept tag kept, replace_append_tag tag, fill_also_append tag,
      before (by omega), after (by omega)]

omit kept

theorem replace_eq_fill (v t : Text) : Text.replace w v t = fill (also (fun _ => none) w v) t := by
  have same : (words (fill (fun _ => none) t)).count w = (words t).count w := by rw [fill_none]
  have replaced := replace_fill_of_count_eq tag rfl (v := v) same
  rw [fill_none] at replaced
  exact replaced

theorem replace_self (t : Text) : Text.replace w w t = t := by
  rw [replace_eq_fill tag, fill_also_self rfl, fill_none]

theorem length_replace (v t : Text) :
    (Text.replace w v t).length + (words t).count w * w.length =
      t.length + (words t).count w * v.length := by
  have filled : (fill (also (fun _ => none) w v) t).length + (words t).count w * w.length =
      (fill (fun _ => none) t).length + (words t).count w * v.length :=
    length_fill_also tag rfl v t
  rw [fill_none] at filled
  rw [replace_eq_fill tag, filled]

theorem length_replace_eq {v : Text} (same : v.length = w.length) (t : Text) :
    (Text.replace w v t).length = t.length := by
  have balance := length_replace tag v t
  rw [same] at balance
  omega

theorem eq_of_replace_eq_self {v t : Text} (same : v.length = w.length) (present : w <:+: t)
    (unchanged : Text.replace w v t = t) : v = w := by
  obtain ⟨before, after, rfl⟩ := present
  rw [List.append_assoc, replace_append_tag tag] at unchanged
  have behind := (List.append_inj unchanged (length_replace_eq tag same before)).2
  exact (List.append_inj behind same).1

include kept

theorem count_eq_of_replace_fill {v t : Text} (length_eq : v.length = w.length) (other : v ≠ w)
    (same : Text.replace w v (fill value t) = fill (also value w v) t) :
    (words (fill value t)).count w = (words t).count w := by
  -- Both sides stay as long as the text, so they agree place by place and show what was put in.
  induction t using Text.occurrence_induction (isTag_ne_nil tag) with
  | absent t absent =>
    rw [fill_also_of_absent absent] at same
    rw [(count_words_eq_zero_iff tag).2 absent, count_words_eq_zero_iff tag]
    exact fun present => other (eq_of_replace_eq_self tag length_eq present same)
  | present s t before after =>
    have front : (Text.replace w v (fill value s)).length = (fill (also value w v) s).length := by
      have filled := length_fill_also tag kept v s
      rw [length_eq] at filled
      rw [length_replace_eq tag length_eq]
      omega
    rw [fill_append_kept tag kept, replace_append_tag tag, fill_also_append tag] at same
    obtain ⟨same_before, behind⟩ := List.append_inj same front
    have same_after := List.append_cancel_left behind
    rw [fill_append_kept tag kept, count_words_append_tag tag, count_words_append_tag tag,
      before same_before, after same_after]

/-- To fill in a tag after other tags is to fill it in at once with them, unless there is more of it
by then or it stands for itself. -/
theorem replace_fill_iff (v t : Text) :
    Text.replace w v (fill value t) = fill (also value w v) t ↔
      v = w ∨ (words (fill value t)).count w = (words t).count w := by
  constructor
  · intro same
    by_cases length_eq : v.length = w.length
    · by_cases other : v = w
      · exact .inl other
      · exact .inr (count_eq_of_replace_fill tag kept length_eq other same)
    · -- The two are as long as each other, so the tag was exchanged as many times in both.
      right
      have replaced := length_replace tag v (fill value t)
      have filled := length_fill_also tag kept v t
      have more := count_words_le_fill tag kept t
      rw [same] at replaced
      generalize (words (fill value t)).count w = many at *
      generalize (words t).count w = few at *
      obtain ⟨extra, rfl⟩ := Nat.exists_eq_add_of_le more
      rw [Nat.add_mul, Nat.add_mul] at replaced
      have balance : extra * w.length = extra * v.length := by omega
      cases extra with
      | zero => rfl
      | succ n => exact absurd (Nat.eq_of_mul_eq_mul_left (Nat.succ_pos n) balance).symm length_eq
  · rintro (rfl | same)
    · rw [replace_self tag, fill_also_self kept]
    · exact replace_fill_of_count_eq tag kept same

end

end ReceiptPress.Tag

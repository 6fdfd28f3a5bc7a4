import ReceiptPress.Proofs.Tag.Shape
import ReceiptPress.Proofs.Text.Seams

namespace ReceiptPress.Tag

theorem isTag_ne_nil {w : Text} (tag : isTag w = true) : w ≠ [] := by
  rintro rfl
  cases tag

theorem size_append_of_isTag {w : Text} (tag : isTag w = true) (t : Text) :
    size (w ++ t) = w.length := by
  obtain ⟨name, h, rfl⟩ := isTag_iff.1 tag
  rw [size_braced h, length_braced]

theorem settled : Text.Settled size := by
  intro s t fits
  cases Nat.eq_zero_or_pos (size (s ++ t)) with
  | inl none =>
    apply none.trans
    apply Eq.symm
    apply Nat.eq_zero_of_not_pos
    intro some
    obtain ⟨name, rest, h, rfl⟩ := eq_braced_of_size_pos some
    rw [List.append_assoc, size_braced h] at none
    omega
  | inr some =>
    obtain ⟨name, rest, h, found⟩ := eq_braced_of_size_pos some
    rw [found, size_braced h, ← length_braced] at fits
    have front : braced name <+: s ++ t := ⟨rest, found.symm⟩
    obtain ⟨behind, rfl⟩ :=
      List.prefix_of_prefix_length_le front (List.prefix_append s t) fits
    rw [List.append_assoc, size_braced h, size_braced h]

theorem words_append_tag {w : Text} (tag : isTag w = true) (s t : Text) :
    words (s ++ (w ++ t)) = words s ++ w :: words t := by
  have here : size (w ++ t) = w.length := size_append_of_isTag tag t
  simp only [words, Text.words,
    Text.pieces_append_match separate settled (isTag_ne_nil tag) s here, List.filterMap_append]
  rfl

theorem mem_words_iff {w t : Text} (tag : isTag w = true) : w ∈ words t ↔ w <:+: t := by
  constructor
  · exact Text.infix_of_mem_words
  · rintro ⟨before, after, rfl⟩
    rw [List.append_assoc, words_append_tag tag]
    simp

theorem count_words_append_tag {w : Text} (tag : isTag w = true) (s t : Text) :
    (words (s ++ (w ++ t))).count w = (words s).count w + (words t).count w + 1 := by
  rw [words_append_tag tag, List.count_append, List.count_cons_self]
  omega

theorem count_words_eq_zero_iff {w t : Text} (tag : isTag w = true) :
    (words t).count w = 0 ↔ ¬w <:+: t := by
  rw [List.count_eq_zero, mem_words_iff tag]

/-- Text without braces that is no part of a tag's name. -/
structure Safe (v : Text) : Prop where
  no_brace : ∀ c ∈ v, c ≠ '{' ∧ c ≠ '}'
  foreign : ∃ c ∈ v, isNameChar c = false

theorem safe_iff {v : Text} :
    Safe v ↔ (v.all (fun c => c != '{' && c != '}') && v.any (!isNameChar ·)) = true := by
  simp only [Bool.and_eq_true, List.all_eq_true, List.any_eq_true, bne_iff_ne, Bool.not_eq_true']
  exact ⟨fun safe => ⟨safe.no_brace, safe.foreign⟩, fun h => ⟨h.1, h.2⟩⟩

instance (v : Text) : Decidable (Safe v) := decidable_of_iff _ safe_iff.symm

theorem size_eq_zero_of_head {c : Char} (other : c ≠ '{') (t : Text) : size (c :: t) = 0 := by
  apply Nat.eq_zero_of_not_pos
  intro some
  obtain ⟨name, rest, -, found⟩ := eq_braced_of_size_pos some
  exact other (List.cons.inj found).1

theorem Safe.divides {v : Text} (safe : Safe v) : Text.Divides size v where
  before s t := by
    apply settled
    apply Nat.le_of_not_lt
    intro reaches
    have some : 0 < size (s ++ (v ++ t)) := Nat.lt_of_le_of_lt (Nat.zero_le _) reaches
    obtain ⟨name, rest, h, found⟩ := eq_braced_of_size_pos some
    rw [found, size_braced h, ← length_braced] at reaches
    have inside : s <+: braced name :=
      List.prefix_of_prefix_length_le (List.prefix_append s _) ⟨rest, found.symm⟩
        (Nat.le_of_lt reaches)
    obtain ⟨ending, whole⟩ := inside
    rw [← whole, List.append_assoc, List.append_cancel_left_eq] at found
    rcases List.append_eq_append_iff.1 found with ⟨more, rfl, -⟩ | ⟨more, rfl, -⟩
    · -- The tag goes on behind the text, all of which is then part of a tag.
      obtain ⟨c, among, foreign⟩ := safe.foreign
      have mem : c ∈ braced name := by
        rw [← whole]
        simp [among]
      simp only [braced, List.cons_append, List.mem_cons, List.mem_append, List.not_mem_nil,
        or_false] at mem
      have no_brace := safe.no_brace c among
      have no_name : c ∉ name := h.not_mem foreign
      simp [no_brace, no_name] at mem
    · -- The tag ends within the text, with a brace.
      have closed : s ++ ending = ('{' :: '{' :: name ++ ['}']) ++ ['}'] := by simp [whole, braced]
      rcases List.eq_nil_or_concat ending with rfl | ⟨front, last, rfl⟩
      · rw [← whole, List.append_nil] at reaches
        exact Nat.lt_irrefl _ reaches
      · rw [List.concat_eq_append, ← List.append_assoc] at closed
        have last_eq : [last] = ['}'] := (List.append_inj' closed rfl).2
        exact (safe.no_brace last (by simp)).2 (List.cons.inj last_eq).1
  within k inside t := by
    cases rest : v.drop k with
    | nil =>
      have none := congrArg List.length rest
      rw [List.length_drop, List.length_nil] at none
      omega
    | cons c cs =>
      have among : c ∈ v := List.mem_of_mem_drop (rest ▸ List.mem_cons_self)
      exact size_eq_zero_of_head (safe.no_brace c among).1 _

section

variable {w : Text} (tag : isTag w = true)

include tag

theorem keeps_literal : Text.Keeps (· = w) size (Text.literal w) := by
  intro t
  by_cases head : w <+: t
  · obtain ⟨rest, rfl⟩ := head
    simp [Text.literal_append, size_append_of_isTag tag]
  · have other : t.take (size t) ≠ w := fun same => head (same ▸ List.take_prefix _ t)
    simp [Text.literal, head, other]

theorem separate_literal : Text.Separate (Text.literal w) :=
  (keeps_literal tag).separate separate

theorem pieces_literal_append (s t : Text) :
    Text.pieces (Text.literal w) (s ++ (w ++ t)) =
      Text.pieces (Text.literal w) s ++ .found w :: Text.pieces (Text.literal w) t :=
  Text.pieces_append_match (separate_literal tag) (Text.settled_literal w) (isTag_ne_nil tag) s
    (Text.literal_append w t)

theorem replace_append_tag (v s t : Text) :
    Text.replace w v (s ++ (w ++ t)) = Text.replace w v s ++ (v ++ Text.replace w v t) := by
  simp only [Text.replace, pieces_literal_append tag, List.flatMap_append, List.flatMap_cons]

omit tag in
theorem replace_of_absent {t : Text} (absent : ¬w <:+: t) (v : Text) :
    Text.replace w v t = t := by
  have none (k : Nat) (_ : k < t.length) : Text.literal w (t.drop k) = 0 :=
    Text.literal_eq_zero absent k
  simp [Text.replace, Text.pieces_eq_map_char none, List.flatMap_map]

theorem words_replace_of_safe {v : Text} (safe : Safe v) (t : Text) :
    words (Text.replace w v t) = (words t).filter (· ≠ w) := by
  induction t using Text.occurrence_induction (isTag_ne_nil tag) with
  | absent t absent =>
    rw [replace_of_absent absent, List.filter_eq_self.2]
    intro x mem
    have other : x ≠ w := fun same => absent (same ▸ Text.infix_of_mem_words mem)
    simp [other]
  | present s t before after =>
    have apart := safe.divides.words_append size_le_length (Text.replace w v s)
      (Text.replace w v t)
    rw [replace_append_tag tag, words_append_tag tag, List.filter_append,
      List.filter_cons_of_neg (by simp), ← before, ← after]
    exact apart

theorem count_words_replace_of_safe {v x : Text} (safe : Safe v) (other : x ≠ w) (t : Text) :
    (words (Text.replace w v t)).count x = (words t).count x := by
  rw [words_replace_of_safe tag safe, List.count_filter (by simpa using other)]

end

end ReceiptPress.Tag

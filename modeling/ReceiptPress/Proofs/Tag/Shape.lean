import ReceiptPress.Proofs.Text.Occurrences
import ReceiptPress.Tag.Basic

namespace ReceiptPress.Tag

structure IsName (name : Text) : Prop where
  ne_nil : name ≠ []
  chars : ∀ c ∈ name, isNameChar c = true

def braced (name : Text) : Text := '{' :: '{' :: name ++ ['}', '}']

theorem length_braced (name : Text) : (braced name).length = name.length + 4 := by
  simp [braced]

theorem IsName.not_mem {name : Text} (h : IsName name) {c : Char} (other : isNameChar c = false) :
    c ∉ name := fun mem => by
  rw [h.chars c mem] at other
  cases other

theorem size_braced {name : Text} (h : IsName name) (rest : Text) :
    size (braced name ++ rest) = name.length + 4 := by
  have closing : isNameChar '}' = false := by decide
  have name_eq : (name ++ '}' :: '}' :: rest).takeWhile isNameChar = name := by
    rw [List.takeWhile_append_of_pos h.chars]
    simp [closing]
  have rest_eq : (name ++ '}' :: '}' :: rest).dropWhile isNameChar = '}' :: '}' :: rest := by
    rw [List.dropWhile_append_of_pos h.chars]
    simp [closing]
  have shape : braced name ++ rest = '{' :: '{' :: (name ++ '}' :: '}' :: rest) := by
    simp [braced]
  simp only [shape, size, name_eq, rest_eq, List.isEmpty_iff, h.ne_nil, if_false]

theorem eq_braced_of_size_pos {t : Text} (pos : 0 < size t) :
    ∃ name rest, IsName name ∧ t = braced name ++ rest := by
  unfold size at pos
  split at pos
  · rename_i cs
    simp only at pos
    split at pos
    · rename_i rest closed
      split at pos
      · omega
      · rename_i filled
        refine ⟨cs.takeWhile isNameChar, rest, ⟨by simpa using filled, ?_⟩, ?_⟩
        · exact List.all_eq_true.1 List.all_takeWhile
        · have joined := List.takeWhile_append_dropWhile (p := isNameChar) (l := cs)
          rw [closed] at joined
          simp only [braced, List.cons_append, List.append_assoc, List.nil_append, joined]
    · omega
  · omega

theorem take_size_braced {name : Text} (h : IsName name) (rest : Text) :
    (braced name ++ rest).take (size (braced name ++ rest)) = braced name := by
  rw [size_braced h, ← length_braced]
  exact List.take_left

theorem isTag_iff {t : Text} : isTag t = true ↔ ∃ name, IsName name ∧ t = braced name := by
  simp only [isTag, Bool.and_eq_true, decide_eq_true_eq]
  constructor
  · rintro ⟨pos, whole⟩
    obtain ⟨name, rest, h, rfl⟩ := eq_braced_of_size_pos pos
    rw [size_braced h, List.length_append, length_braced] at whole
    have empty : rest = [] := List.eq_nil_of_length_eq_zero (by omega)
    exact ⟨name, h, by simp [empty]⟩
  · rintro ⟨name, h, rfl⟩
    have size_eq := size_braced h []
    rw [List.append_nil] at size_eq
    exact ⟨by omega, by rw [size_eq, length_braced]⟩

theorem getElem?_braced_ne {name : Text} (h : IsName name) (rest : Text) {i : Nat} (low : 2 ≤ i)
    (high : i < name.length + 4) : (braced name ++ rest)[i]? ≠ some '{' := by
  obtain ⟨j, rfl⟩ := Nat.exists_eq_add_of_le' low
  have inner : j < (name ++ ['}', '}']).length := by
    rw [List.length_append, List.length_cons, List.length_singleton]
    omega
  have shape : braced name ++ rest = '{' :: '{' :: ((name ++ ['}', '}']) ++ rest) := by
    simp [braced]
  rw [shape, List.getElem?_cons_succ, List.getElem?_cons_succ, List.getElem?_append_left inner]
  intro opening
  have mem := List.mem_of_getElem? opening
  simp only [List.mem_append, List.mem_cons, List.not_mem_nil, or_false] at mem
  rcases mem with mem | mem | mem
  · exact h.not_mem (by decide) mem
  all_goals exact absurd mem (by decide)

theorem separate : Text.Separate size where
  fits := size_le_length
  apart t k pos inside := by
    obtain ⟨name, rest, h, rfl⟩ := eq_braced_of_size_pos (Nat.lt_trans pos inside)
    rw [size_braced h] at inside
    have filled : 0 < name.length := List.length_pos_iff.2 h.ne_nil
    apply Nat.eq_zero_of_not_pos
    intro begins
    obtain ⟨name', rest', -, found⟩ := eq_braced_of_size_pos begins
    -- The second brace cannot open a tag, for a character of the name follows; no later
    -- character can, for none of them is an opening brace.
    have first : (braced name ++ rest)[k]? = some '{' := by
      rw [← Nat.add_zero k, ← List.getElem?_drop, found]
      rfl
    have second : (braced name ++ rest)[k + 1]? = some '{' := by
      rw [← List.getElem?_drop, found]
      rfl
    by_cases one : k = 1
    · exact getElem?_braced_ne h rest (i := k + 1) (by omega) (by omega) second
    · exact getElem?_braced_ne h rest (i := k) (by omega) inside first

theorem withinLines : Text.WithinLines size := by
  intro s t
  cases Nat.eq_zero_or_pos (size s) with
  | inr pos =>
    obtain ⟨name, rest, h, rfl⟩ := eq_braced_of_size_pos pos
    rw [List.append_assoc, size_braced h, size_braced h]
  | inl none =>
    apply (Nat.eq_zero_of_not_pos _).trans none.symm
    intro pos
    obtain ⟨name, rest, h, found⟩ := eq_braced_of_size_pos pos
    have newline : '\n' ∉ braced name := by
      simp only [braced, List.cons_append, List.mem_cons, List.mem_append, not_or]
      exact ⟨by decide, by decide, h.not_mem (by decide), by decide⟩
    rcases List.append_eq_append_iff.1 found with ⟨inner, whole, tail⟩ | ⟨inner, rfl, -⟩
    · cases inner with
      | nil =>
        have whole' : s = braced name ++ [] := by rw [whole, List.append_nil, List.append_nil]
        rw [whole', size_braced h] at none
        omega
      | cons c cs =>
        have c_eq : '\n' = c := (List.cons.inj tail).1
        apply newline
        rw [whole, c_eq]
        exact List.mem_append_right _ List.mem_cons_self
    · rw [size_braced h] at none
      omega

end ReceiptPress.Tag

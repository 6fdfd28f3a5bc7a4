import Mathlib.Algebra.Order.Field.Basic
import Mathlib.Algebra.Order.Field.Power
import Mathlib.Algebra.Order.Ring.Rat
import Mathlib.Tactic.Linarith
import Mathlib.Tactic.Ring
import ReceiptPress.Number.Amount

namespace ReceiptPress

/-- The whole number nearest to a rational number, of two the even one. -/
def IsRounded (q : ℚ) (n : ℤ) : Prop := |q - n| < 1 / 2 ∨ |q - n| = 1 / 2 ∧ Even n

namespace IsRounded

variable {q : ℚ} {m n : ℤ}

theorem le_half (rounded : IsRounded q n) : |q - n| ≤ 1 / 2 :=
  rounded.elim le_of_lt fun half => le_of_eq half.1

theorem neg (rounded : IsRounded q n) : IsRounded (-q) (-n) := by
  have apart : |-q - (-n : ℤ)| = |q - n| := by
    rw [Int.cast_neg, neg_sub_neg, abs_sub_comm]
  rw [IsRounded, apart, even_neg]
  exact rounded

theorem unique (first : IsRounded q m) (second : IsRounded q n) : m = n := by
  have apart : |((m - n : ℤ) : ℚ)| ≤ |q - m| + |q - n| := by
    rw [Int.cast_sub, abs_sub_comm q m]
    exact abs_sub_le _ _ _
  rcases first with near | ⟨half, even⟩
  · have close : |((m - n : ℤ) : ℚ)| < 1 := by linarith [second.le_half]
    have zero : m - n = 0 := Int.abs_lt_one_iff.1 (by exact_mod_cast close)
    omega
  · rcases second with near | ⟨half', even'⟩
    · have close : |((m - n : ℤ) : ℚ)| < 1 := by linarith
      have zero : m - n = 0 := Int.abs_lt_one_iff.1 (by exact_mod_cast close)
      omega
    · have close : |((m - n : ℤ) : ℚ)| ≤ 1 := by linarith
      have close : |m - n| ≤ 1 := by exact_mod_cast close
      have bounds := abs_le.1 close
      obtain ⟨k, apart_even⟩ := even.sub even'
      omega

end IsRounded

theorem isRounded_intCast (n : ℤ) : IsRounded n n := by
  left
  rw [sub_self, abs_zero]
  exact half_pos one_pos

theorem isRounded_natCast_add (whole : ℕ) {f : ℚ} (nonneg : 0 ≤ f) (lt_one : f < 1) :
    IsRounded (whole + f)
      (if f < 1 / 2 then whole else if 1 / 2 < f then whole + 1 else whole + whole % 2 : ℕ) := by
  split
  · rename_i below
    left
    rwa [Int.cast_natCast, add_sub_cancel_left, abs_of_nonneg nonneg]
  · rename_i not_below
    split
    · rename_i above
      left
      push_cast
      rw [abs_lt]
      constructor <;> linarith
    · rename_i not_above
      have half : f = 1 / 2 := le_antisymm (not_lt.1 not_above) (not_lt.1 not_below)
      right
      rcases Nat.mod_two_eq_zero_or_one whole with even | odd
      · rw [even, half]
        refine ⟨by norm_num, ?_⟩
        exact_mod_cast Nat.even_iff.2 even
      · rw [odd, half]
        refine ⟨by push_cast; norm_num [abs_of_neg], ?_⟩
        exact_mod_cast (Nat.odd_iff.2 odd).add_one

theorem isRounded_roundDiv (num : ℕ) {den : ℕ} (positive : 0 < den) :
    IsRounded (num / den) (roundDiv num den) := by
  have den_pos : (0 : ℚ) < den := by exact_mod_cast positive
  obtain ⟨f, rest_eq⟩ : ∃ f : ℚ, ((num % den : ℕ) : ℚ) = f * den :=
    ⟨(num % den : ℕ) / den, (div_mul_cancel₀ _ den_pos.ne').symm⟩
  have quotient : (num : ℚ) / den = (num / den : ℕ) + f := by
    rw [div_eq_iff den_pos.ne', add_mul, ← rest_eq]
    exact_mod_cast (Nat.div_add_mod' num den).symm
  have nonneg : 0 ≤ f := by
    have rest_nonneg : (0 : ℚ) ≤ (num % den : ℕ) := Nat.cast_nonneg _
    rw [rest_eq] at rest_nonneg
    exact nonneg_of_mul_nonneg_left rest_nonneg den_pos
  have lt_one : f < 1 := by
    have rest_lt : ((num % den : ℕ) : ℚ) < den := by exact_mod_cast Nat.mod_lt num positive
    rw [rest_eq] at rest_lt
    exact (mul_lt_iff_lt_one_left den_pos).1 rest_lt
  have below_iff : 2 * (num % den) < den ↔ f < 1 / 2 := by
    rw [← Nat.cast_lt (α := ℚ), Nat.cast_mul, rest_eq, Nat.cast_ofNat, ← mul_assoc,
      mul_lt_iff_lt_one_left den_pos, lt_div_iff₀' two_pos]
  have above_iff : den < 2 * (num % den) ↔ 1 / 2 < f := by
    rw [← Nat.cast_lt (α := ℚ), Nat.cast_mul, rest_eq, Nat.cast_ofNat, ← mul_assoc,
      lt_mul_iff_one_lt_left den_pos, div_lt_iff₀' two_pos]
  have rounded := isRounded_natCast_add (num / den) nonneg lt_one
  simp only [← below_iff, ← above_iff] at rounded
  rw [quotient]
  exact rounded

namespace Binary64

def value? : Binary64 → Option ℚ
  | .finite negative mantissa exponent => some (signed negative mantissa * 2 ^ exponent)
  | _ => none

theorem two_zpow_of_nonneg {e : ℤ} (nonneg : 0 ≤ e) : (2 : ℚ) ^ e = (Nat.pow 2 e.toNat : ℕ) := by
  obtain ⟨k, rfl⟩ := Int.eq_ofNat_of_zero_le nonneg
  rw [Int.toNat_natCast, zpow_natCast, Nat.pow_eq, Nat.cast_pow, Nat.cast_ofNat]

theorem two_zpow_of_neg {e : ℤ} (negative : ¬0 ≤ e) :
    (2 : ℚ) ^ e = ((Nat.pow 2 (-e).toNat : ℕ) : ℚ)⁻¹ := by
  rw [← two_zpow_of_nonneg (by omega), zpow_neg, inv_inv]

theorem signed_natCast (negative : Bool) (n : ℕ) :
    (signed negative n : ℚ) = signed negative 1 * n := by
  cases negative <;> simp [signed]

theorem isRounded_hundredths (mantissa : ℕ) (exponent : ℤ) :
    IsRounded (100 * (mantissa * 2 ^ exponent)) (hundredths mantissa exponent) := by
  unfold hundredths
  split
  · rename_i nonneg
    have exact_value : (100 * (mantissa * 2 ^ exponent) : ℚ) =
        ((100 * mantissa * Nat.pow 2 exponent.toNat : ℕ) : ℤ) := by
      rw [two_zpow_of_nonneg nonneg]
      push_cast
      ring
    rw [exact_value]
    exact isRounded_intCast _
  · rename_i negative
    have quotient : (100 * (mantissa * 2 ^ exponent) : ℚ) =
        (100 * mantissa : ℕ) / (Nat.pow 2 (-exponent).toNat : ℕ) := by
      rw [two_zpow_of_neg negative, Nat.cast_mul]
      ring
    rw [quotient]
    exact isRounded_roundDiv _ (Nat.two_pow_pos _)

theorem isRounded_signed_hundredths (negative : Bool) (mantissa : ℕ) (exponent : ℤ) :
    IsRounded (100 * (signed negative mantissa * 2 ^ exponent))
      (signed negative (hundredths mantissa exponent)) := by
  have rounded := isRounded_hundredths mantissa exponent
  cases negative with
  | false => simpa [signed] using rounded
  | true => simpa [signed] using rounded.neg

end Binary64

namespace Amount

def magnitude? (t : Text) : Option ℕ :=
  match t.dropWhile Char.isDigit with
  | ['.', a, b] =>
    let whole := t.takeWhile Char.isDigit
    if !whole.isEmpty && a.isDigit && b.isDigit then
      some (Nat.ofDigitChars 10 (whole ++ [a, b]) 0)
    else none
  | _ => none

def hundredths? (t : Text) : Option ℤ :=
  if t.head? = some '-' then (magnitude? t.tail).map fun n => -(n : ℤ)
  else (magnitude? t).map Nat.cast

theorem leftpad_two {k : ℕ} (small : k < 100) :
    (Text.ofNat k).leftpad 2 '0' = [Nat.digitChar (k / 10), Nat.digitChar (k % 10)] := by
  have all : ∀ k < 100, (Text.ofNat k).leftpad 2 '0' =
      [Nat.digitChar (k / 10), Nat.digitChar (k % 10)] := by decide +kernel
  exact all k small

theorem digitChar_facts {k : ℕ} (small : k < 10) :
    (Nat.digitChar k).isDigit = true ∧ (Nat.digitChar k).toNat - '0'.toNat = k := by
  have all : ∀ k < 10,
      (Nat.digitChar k).isDigit = true ∧ (Nat.digitChar k).toNat - '0'.toNat = k := by decide
  exact all k small

theorem isDigit_of_mem_ofNat {n : ℕ} {c : Char} (mem : c ∈ Text.ofNat n) : c.isDigit = true :=
  Nat.isDigit_of_mem_toDigits (by decide) (by decide) mem

theorem magnitude?_hundredthsText (n : ℕ) : magnitude? (hundredthsText n) = some n := by
  have whole : Text.ofNat (n / 100) ≠ [] := Nat.toDigits_ne_nil
  have tens := digitChar_facts (k := n % 100 / 10) (by omega)
  have ones := digitChar_facts (k := n % 100 % 10) (by omega)
  have digits : Nat.ofDigitChars 10 (Text.ofNat (n / 100) ++
      [Nat.digitChar (n % 100 / 10), Nat.digitChar (n % 100 % 10)]) 0 = n := by
    rw [Nat.ofDigitChars_append, Text.ofNat, Nat.ofDigitChars_ten_toDigits, Nat.ofDigitChars_cons,
      Nat.ofDigitChars_cons, Nat.ofDigitChars_nil, tens.2, ones.2]
    omega
  rw [hundredthsText, leftpad_two (Nat.mod_lt n (by decide)), magnitude?,
    List.dropWhile_append_of_pos fun _ => isDigit_of_mem_ofNat,
    List.takeWhile_append_of_pos fun _ => isDigit_of_mem_ofNat]
  generalize Nat.digitChar (n % 100 / 10) = a at tens digits
  generalize Nat.digitChar (n % 100 % 10) = b at ones digits
  simp [tens.1, ones.1, whole, digits]

theorem head?_hundredthsText_ne (n : ℕ) : (hundredthsText n).head? ≠ some '-' := by
  intro minus
  obtain ⟨digit, rest, split⟩ := List.exists_cons_of_ne_nil (Nat.toDigits_ne_nil (b := 10)
    (n := n / 100))
  have is_digit : digit.isDigit = true :=
    isDigit_of_mem_ofNat (n := n / 100) (by rw [Text.ofNat, split]; exact List.mem_cons_self)
  rw [hundredthsText, Text.ofNat, split, List.cons_append, List.head?_cons,
    Option.some.injEq] at minus
  subst minus
  cases is_digit

theorem hundredths?_fixedBinary64 (negative : Bool) (mantissa : ℕ) (exponent : ℤ) :
    hundredths? (fixedBinary64 (.finite negative mantissa exponent)) =
      some (Binary64.signed negative (Binary64.hundredths mantissa exponent)) := by
  cases negative with
  | true =>
    rw [fixedBinary64, if_pos rfl, hundredths?, List.head?_cons, if_pos rfl, List.tail_cons,
      magnitude?_hundredthsText]
    rfl
  | false =>
    rw [fixedBinary64, if_neg Bool.false_ne_true, hundredths?, if_neg (head?_hundredthsText_ne _),
      magnitude?_hundredthsText]
    rfl

/-- What is printed of a number reads as a whole number of hundredths exactly if the number is
finite and nearest to them. -/
theorem hundredths?_fixedBinary64_iff {x : Binary64} {c : ℤ} :
    hundredths? (fixedBinary64 x) = some c ↔
      ∃ q, x.value? = some q ∧ IsRounded (100 * q) c := by
  cases x with
  | nan => exact ⟨fun read => (by cases read), fun ⟨_, valued, _⟩ => (by cases valued)⟩
  | infinite negative =>
    have unread : hundredths? (fixedBinary64 (.infinite negative)) = none := by
      cases negative <;> decide
    rw [unread]
    exact ⟨fun read => (by cases read), fun ⟨_, valued, _⟩ => (by cases valued)⟩
  | finite negative mantissa exponent =>
    have nearest := Binary64.isRounded_signed_hundredths negative mantissa exponent
    rw [hundredths?_fixedBinary64, Option.some.injEq]
    constructor
    · rintro rfl
      exact ⟨_, rfl, nearest⟩
    · rintro ⟨q, value, rounded⟩
      cases value
      exact nearest.unique rounded

theorem exists_hundredths? {x : Binary64} {q : ℚ} (value : x.value? = some q) :
    ∃ c, hundredths? (fixedBinary64 x) = some c ∧ IsRounded (100 * q) c := by
  cases x with
  | finite negative mantissa exponent =>
    cases value
    exact ⟨_, hundredths?_fixedBinary64 _ _ _, Binary64.isRounded_signed_hundredths _ _ _⟩
  | _ => cases value

theorem mem_hundredthsText {n : ℕ} {c : Char} (mem : c ∈ hundredthsText n) :
    c.isDigit = true ∨ c = '.' := by
  rw [hundredthsText, leftpad_two (Nat.mod_lt n (by decide)), List.mem_append, List.mem_cons] at mem
  rcases mem with whole | point | decimal
  · exact .inl (isDigit_of_mem_ofNat whole)
  · exact .inr point
  · rw [List.mem_cons, List.mem_singleton] at decimal
    rcases decimal with rfl | rfl
    · exact .inl (digitChar_facts (by omega)).1
    · exact .inl (digitChar_facts (by omega)).1

theorem mem_fixedBinary64 {x : Binary64} {c : Char} (mem : c ∈ fixedBinary64 x) :
    c.isDigit = true ∨ c ∈ ".-infa".toList := by
  have in_digits {n : ℕ} (mem : c ∈ hundredthsText n) :
      c.isDigit = true ∨ c ∈ ".-infa".toList :=
    (mem_hundredthsText mem).imp_right fun point => by rw [point]; decide
  cases x with
  | nan =>
    have letters : (fixedBinary64 .nan).all (· ∈ ".-infa".toList) = true := by decide
    exact .inr (of_decide_eq_true (List.all_eq_true.1 letters c mem))
  | infinite negative =>
    have letters : ∀ negative,
        (fixedBinary64 (.infinite negative)).all (· ∈ ".-infa".toList) = true := by
      decide
    exact .inr (of_decide_eq_true (List.all_eq_true.1 (letters negative) c mem))
  | finite negative mantissa exponent =>
    cases negative with
    | false => exact in_digits mem
    | true =>
      rcases List.mem_cons.1 mem with minus | mem
      · right
        rw [minus]
        decide
      · exact in_digits mem

theorem not_mem_fixedBinary64 (x : Binary64) {c : Char} (no_digit : c.isDigit = false)
    (no_sign : c ∉ ".-infa".toList) : c ∉ fixedBinary64 x := by
  intro mem
  rcases mem_fixedBinary64 mem with digit | sign
  · rw [no_digit] at digit
    cases digit
  · exact no_sign sign

end Amount

end ReceiptPress

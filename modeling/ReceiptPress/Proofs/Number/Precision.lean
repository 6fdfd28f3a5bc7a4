import Mathlib.Tactic.NormNum
import Mathlib.Tactic.Positivity
import ReceiptPress.Proofs.Number.Hundredths

namespace ReceiptPress

theorem reachesPower_iff {num den : ℕ} (positive : 0 < den) {e : ℤ} :
    reachesPower num den e = true ↔ (2 : ℚ) ^ e ≤ num / den := by
  have den_pos : (0 : ℚ) < den := by exact_mod_cast positive
  rw [le_div_iff₀ den_pos, reachesPower]
  split
  · rename_i nonneg
    rw [decide_eq_true_eq, Binary64.two_zpow_of_nonneg nonneg, mul_comm, ← Nat.cast_mul,
      Nat.cast_le]
  · rename_i negative
    have power_pos : (0 : ℚ) < (Nat.pow 2 (-e).toNat : ℕ) := by
      exact_mod_cast Nat.two_pow_pos (-e).toNat
    rw [decide_eq_true_eq, Binary64.two_zpow_of_neg negative, inv_mul_le_iff₀ power_pos, mul_comm,
      ← Nat.cast_mul, Nat.cast_le, Nat.mul_comm]

theorem two_zpow_floorLog2_le {num den : ℕ} (some_num : num ≠ 0) (positive : 0 < den) :
    (2 : ℚ) ^ floorLog2 num den ≤ num / den := by
  unfold floorLog2
  dsimp only
  split
  · rename_i reached
    exact (reachesPower_iff positive).1 reached
  · have num_ge : (2 : ℚ) ^ (num.log2 : ℤ) ≤ num := by
      rw [zpow_natCast]
      exact_mod_cast Nat.log2_self_le some_num
    have den_le : (den : ℚ) ≤ 2 ^ ((den.log2 + 1 : ℕ) : ℤ) := by
      rw [zpow_natCast]
      exact_mod_cast Nat.lt_log2_self.le
    have den_pos : (0 : ℚ) < den := by exact_mod_cast positive
    calc
      (2 : ℚ) ^ ((num.log2 : ℤ) - den.log2 - 1)
        = 2 ^ (num.log2 : ℤ) / 2 ^ ((den.log2 + 1 : ℕ) : ℤ) := by
          rw [← zpow_sub₀ two_ne_zero]
          congr 1
          omega
      _ ≤ num / den := div_le_div₀ (Nat.cast_nonneg _) num_ge den_pos den_le

/-- How far rounding to 53 bits may move a number: by half a step, which is one part in `2 ^ 53`
except among the subnormal numbers. -/
def IsNear (v q : ℚ) : Prop := |v - q| ≤ max |q| (2 ^ (-1022 : ℤ)) / 2 ^ 53

theorem abs_hundred_mul (q : ℚ) : |100 * q| = 100 * |q| := by
  rw [abs_mul, abs_of_pos (by norm_num)]

theorem two_zpow_least_le : (2 : ℚ) ^ (-1022 : ℤ) ≤ 1 / 200 :=
  calc
    (2 : ℚ) ^ (-1022 : ℤ) ≤ 2 ^ (-8 : ℤ) := zpow_le_zpow_right₀ one_le_two (by decide)
    _ ≤ 1 / 200 := by norm_num

theorem two_pow_lt_range : (2 : ℚ) ^ 53 < 2 ^ (1023 : ℤ) := by
  rw [← zpow_natCast]
  exact zpow_lt_zpow_right₀ one_lt_two (by decide)

theorem IsNear.hundredths {v q : ℚ} (near : IsNear v q) :
    |100 * v - 100 * q| ≤ (|100 * q| + 1 / 2) / 2 ^ 53 := by
  have size : 100 * max |q| (2 ^ (-1022 : ℤ)) ≤ |100 * q| + 1 / 2 := by
    rw [mul_max_of_nonneg _ _ (by norm_num), ← abs_hundred_mul, max_le_iff]
    constructor
    · linarith
    · linarith [abs_nonneg (100 * q), two_zpow_least_le]
  calc
    |100 * v - 100 * q| = 100 * |v - q| := by rw [← mul_sub, abs_hundred_mul]
    _ ≤ 100 * (max |q| (2 ^ (-1022 : ℤ)) / 2 ^ 53) :=
      mul_le_mul_of_nonneg_left near (by norm_num)
    _ = 100 * max |q| (2 ^ (-1022 : ℤ)) / 2 ^ 53 := (mul_div_assoc _ _ _).symm
    _ ≤ (|100 * q| + 1 / 2) / 2 ^ 53 :=
      div_le_div_of_nonneg_right size (by positivity)

namespace Binary64

theorem value?_pack {negative : Bool} {mantissa : ℕ} {exponent : ℤ}
    (within : exponent < greatestExponent) :
    (pack negative mantissa exponent).value? =
      some ((signed negative mantissa : ℚ) * 2 ^ exponent) := by
  unfold pack
  -- Rounding may have made the mantissa one bit longer than 53.
  by_cases longer : mantissa = Nat.pow 2 53
  · rw [if_pos longer]
    dsimp only
    have carry : (signed negative (Nat.pow 2 53) : ℚ) = signed negative (Nat.pow 2 52) * 2 := by
      cases negative <;> norm_num [signed]
    rw [if_neg (by omega), value?, longer, carry, zpow_add_one₀ two_ne_zero, mul_assoc,
      mul_comm (2 : ℚ)]
  · rw [if_neg longer]
    dsimp only
    rw [if_neg (by omega), value?]

theorem isRounded_mantissa (num : ℕ) {den : ℕ} (positive : 0 < den) (e : ℤ) :
    IsRounded (num / den / 2 ^ e)
      (if 0 ≤ e then roundDiv num (den * Nat.pow 2 e.toNat)
        else roundDiv (num * Nat.pow 2 (-e).toNat) den : ℕ) := by
  split
  · rename_i nonneg
    rw [two_zpow_of_nonneg nonneg, div_div, ← Nat.cast_mul]
    exact isRounded_roundDiv num (Nat.mul_pos positive (Nat.two_pow_pos _))
  · rename_i negative
    rw [two_zpow_of_neg negative, div_inv_eq_mul, div_mul_eq_mul_div, ← Nat.cast_mul]
    exact isRounded_roundDiv _ positive

theorem abs_signed (negative : Bool) (n : ℕ) : |(signed negative n : ℚ)| = n := by
  cases negative <;> simp [signed]

theorem half_step_le {num den : ℕ} (some_num : num ≠ 0) (positive : 0 < den) :
    (2 : ℚ) ^ max (floorLog2 num den - 52) leastExponent / 2 ≤
      max (num / den : ℚ) (2 ^ (-1022 : ℤ)) / 2 ^ 53 := by
  have half (k : ℤ) : (2 : ℚ) ^ (k - 52) / 2 = 2 ^ k / 2 ^ 53 := by
    rw [zpow_sub₀ two_ne_zero, div_div]
    norm_num
  have least : leastExponent = -1022 - 52 := rfl
  have precision_pos : (0 : ℚ) ≤ 2 ^ 53 := by positivity
  rcases max_choice (floorLog2 num den - 52) leastExponent with normal | subnormal
  · rw [normal, half]
    have power_le := two_zpow_floorLog2_le some_num positive
    exact div_le_div_of_nonneg_right (power_le.trans (le_max_left _ _)) precision_pos
  · rw [subnormal, least, half]
    exact div_le_div_of_nonneg_right (le_max_right _ _) precision_pos

theorem isNear_zero_zero : IsNear 0 0 := by
  rw [IsNear, sub_self, abs_zero]
  positivity

theorem value?_zero (negative : Bool) : (zero negative).value? = some 0 := by
  cases negative <;> simp [zero, value?, signed]

theorem value?_ofRatio_zero (negative : Bool) (den : ℕ) :
    (ofRatio negative 0 den).value? = some 0 := by
  rw [ofRatio, if_pos rfl, value?_zero]

theorem isNear_of_isRounded (negative : Bool) {num den m : ℕ} (some_num : num ≠ 0)
    (positive : 0 < den) {e : ℤ} (exponent_eq : max (floorLog2 num den - 52) leastExponent = e)
    (rounded : IsRounded (num / den / 2 ^ e) m) :
    IsNear (signed negative m * 2 ^ e) (signed negative num / den) := by
  have power_pos : (0 : ℚ) < 2 ^ e := zpow_pos two_pos e
  have scaled : (m * 2 ^ e - num / den : ℚ) = (m - num / den / 2 ^ e) * 2 ^ e := by
    rw [sub_mul, div_mul_cancel₀ _ power_pos.ne']
  have apart : |(signed negative m * 2 ^ e - signed negative num / den : ℚ)| =
      |(num / den / 2 ^ e - (m : ℤ) : ℚ)| * 2 ^ e := by
    rw [signed_natCast negative m, signed_natCast negative num, mul_assoc, mul_div_assoc, ← mul_sub,
      abs_mul, abs_signed, Nat.cast_one, one_mul, scaled, abs_mul, abs_of_pos power_pos,
      abs_sub_comm, Int.cast_natCast]
  have size : |(signed negative num / den : ℚ)| = num / den := by
    rw [abs_div, abs_signed, Nat.abs_cast]
  rw [IsNear, apart, size]
  calc
    |(num / den / 2 ^ e - (m : ℤ) : ℚ)| * 2 ^ e ≤ 1 / 2 * 2 ^ e :=
      mul_le_mul_of_nonneg_right rounded.le_half power_pos.le
    _ = 2 ^ e / 2 := one_div_mul_eq_div _ _
    _ ≤ max (num / den : ℚ) (2 ^ (-1022 : ℤ)) / 2 ^ 53 :=
      exponent_eq ▸ half_step_le some_num positive

theorem exists_value_ofRatio (negative : Bool) (num : ℕ) {den : ℕ} (positive : 0 < den)
    (small : (num / den : ℚ) < 2 ^ (1023 : ℤ)) :
    ∃ v, (ofRatio negative num den).value? = some v ∧ IsNear v (signed negative num / den) := by
  by_cases zero_num : num = 0
  · subst zero_num
    exact ⟨0, value?_ofRatio_zero negative den, by simpa [signed] using isNear_zero_zero⟩
  · have log_lt : floorLog2 num den < 1023 :=
      (zpow_lt_zpow_iff_right₀ one_lt_two).1
        ((two_zpow_floorLog2_le zero_num positive).trans_lt small)
    rw [ofRatio, if_neg zero_num]
    dsimp only
    generalize exponent_eq : max (floorLog2 num den - 52) leastExponent = e
    have within : e < greatestExponent := by
      rw [← exponent_eq, leastExponent, greatestExponent]
      omega
    rw [value?_pack within]
    exact ⟨_, rfl, isNear_of_isRounded negative zero_num positive exponent_eq
      (isRounded_mantissa num positive e)⟩

theorem exists_value_ofRatio_of_normal (negative : Bool) (num : ℕ) {den : ℕ} (positive : 0 < den)
    (normal : num ≠ 0 → (2 : ℚ) ^ (-1022 : ℤ) ≤ num / den)
    (small : (num / den : ℚ) < 2 ^ (1023 : ℤ)) :
    ∃ v, (ofRatio negative num den).value? = some v ∧
      |v - signed negative num / den| ≤ num / den / 2 ^ 53 := by
  by_cases zero_num : num = 0
  · subst zero_num
    exact ⟨0, value?_ofRatio_zero negative den, by simp [signed]⟩
  · obtain ⟨v, value, near⟩ := exists_value_ofRatio negative num positive small
    rw [IsNear, abs_div, abs_signed, Nat.abs_cast, max_eq_left (normal zero_num)] at near
    exact ⟨v, value, near⟩

theorem exists_value_ofScaled (negative : Bool) (mantissa : ℕ) (exponent : ℤ)
    (small : (mantissa * 2 ^ exponent : ℚ) < 2 ^ (1023 : ℤ)) :
    ∃ v, (ofScaled negative mantissa exponent).value? = some v ∧
      IsNear v (signed negative mantissa * 2 ^ exponent) := by
  unfold ofScaled
  split
  · rename_i nonneg
    have size : ((mantissa * Nat.pow 2 exponent.toNat : ℕ) / (1 : ℕ) : ℚ) =
        mantissa * 2 ^ exponent := by
      rw [Nat.cast_one, div_one, Nat.cast_mul, two_zpow_of_nonneg nonneg]
    obtain ⟨v, value, near⟩ := exists_value_ofRatio negative
      (mantissa * Nat.pow 2 exponent.toNat) one_pos (size.trans_lt small)
    refine ⟨v, value, ?_⟩
    rw [signed_natCast, mul_assoc, ← size, ← mul_div_assoc, ← signed_natCast]
    exact near
  · rename_i negative_exponent
    rw [two_zpow_of_neg negative_exponent, ← div_eq_mul_inv] at small ⊢
    exact exists_value_ofRatio negative mantissa (Nat.two_pow_pos _) small

theorem signed_natAbs (n : ℤ) : signed (n < 0) n.natAbs = n := by
  rw [signed]
  split <;> rename_i sign <;> rw [decide_eq_true_eq] at sign <;> omega

theorem signed_mul_zpow (negative : Bool) (mantissa : ℕ) {exponent least : ℤ}
    (le : least ≤ exponent) :
    (signed negative (mantissa * Nat.pow 2 (exponent - least).toNat) : ℚ) * 2 ^ least =
      signed negative mantissa * 2 ^ exponent := by
  have power : (2 : ℚ) ^ exponent = 2 ^ (exponent - least) * 2 ^ least := by
    rw [← zpow_add₀ two_ne_zero, sub_add_cancel]
  rw [power, two_zpow_of_nonneg (sub_nonneg.2 le), signed_natCast, signed_natCast negative mantissa,
    Nat.cast_mul]
  ring

theorem exists_value_add {x y : Binary64} {a b : ℚ} (left : x.value? = some a)
    (right : y.value? = some b) (small : |a + b| < 2 ^ (1023 : ℤ)) :
    ∃ v, (x.add y).value? = some v ∧ IsNear v (a + b) := by
  cases x with
  | finite s m p =>
    cases y with
    | finite t n q =>
      cases left
      cases right
      unfold add
      dsimp only
      -- Taken to the lower exponent, both mantissas are whole numbers, and so is their sum.
      rw [← signed_mul_zpow s m (min_le_left p q), ← signed_mul_zpow t n (min_le_right p q),
        ← add_mul, ← Int.cast_add] at small ⊢
      generalize signed s (m * Nat.pow 2 (p - min p q).toNat) +
        signed t (n * Nat.pow 2 (q - min p q).toNat) = sum at small ⊢
      split
      · rename_i cancelled
        subst cancelled
        rw [Int.cast_zero, zero_mul]
        exact ⟨0, value?_zero _, isNear_zero_zero⟩
      · have power_pos : (0 : ℚ) < 2 ^ min p q := zpow_pos two_pos _
        rw [abs_mul, abs_of_pos power_pos, ← Int.cast_abs, ← Nat.cast_natAbs] at small
        obtain ⟨v, value, near⟩ := exists_value_ofScaled (sum < 0) sum.natAbs (min p q) small
        rw [signed_natAbs] at near
        exact ⟨v, value, near⟩
    | _ => cases right
  | _ => cases left

theorem exists_value_ofInt? {n : ℤ} (small : |(n : ℚ)| < 2 ^ (1023 : ℤ)) :
    ∃ x v, ofInt? n = some x ∧ x.value? = some v ∧ |v - n| ≤ |(n : ℚ)| / 2 ^ 53 := by
  have size : (n.natAbs / (1 : ℕ) : ℚ) = |(n : ℚ)| := by
    rw [Nat.cast_one, div_one, Nat.cast_natAbs, Int.cast_abs]
  have normal : n.natAbs ≠ 0 → (2 : ℚ) ^ (-1022 : ℤ) ≤ n.natAbs / (1 : ℕ) := by
    intro nonzero
    have one_le : (1 : ℚ) ≤ |(n : ℚ)| := by
      exact_mod_cast Int.one_le_abs (Int.natAbs_ne_zero.1 nonzero)
    rw [size]
    exact (zpow_le_one_of_nonpos₀ one_le_two (by decide)).trans one_le
  obtain ⟨v, value, near⟩ :=
    exists_value_ofRatio_of_normal (n < 0) n.natAbs one_pos normal (size.trans_lt small)
  rw [signed_natAbs, size, Nat.cast_one, div_one] at near
  refine ⟨ofRatio (n < 0) n.natAbs 1, v, ?_, value, near⟩
  unfold ofInt?
  split
  · rename_i infinite
    rw [infinite] at value
    cases value
  · rfl

theorem pack_ne_nan {negative : Bool} {mantissa : ℕ} {exponent : ℤ} :
    pack negative mantissa exponent ≠ .nan := by
  unfold pack
  split
  split
  · exact nofun
  · exact nofun

theorem ofRatio_ne_nan {negative : Bool} {num den : ℕ} : ofRatio negative num den ≠ .nan := by
  unfold ofRatio
  split
  · exact nofun
  · exact pack_ne_nan

theorem exists_value_of_ofInt? {n : ℤ} {x : Binary64} (converted : ofInt? n = some x) :
    ∃ v, x.value? = some v := by
  unfold ofInt? at converted
  split at converted
  · cases converted
  · rename_i within
    cases converted
    cases ratio : ofRatio (n < 0) n.natAbs 1 with
    | nan => exact absurd ratio ofRatio_ne_nan
    | infinite => exact absurd ratio (within _)
    | finite => exact ⟨_, rfl⟩

end Binary64

namespace Amount

def rational? : Amount → Option ℚ
  | .whole n => some n
  | .real x => x.value?

theorem exists_value_toBinary64 {a : Amount} {q : ℚ} (value : a.rational? = some q)
    (small : |q| < 2 ^ (1023 : ℤ)) :
    ∃ x v, a.toBinary64 = .ok x ∧ x.value? = some v ∧ |v - q| ≤ |q| / 2 ^ 53 := by
  cases a with
  | whole n =>
    cases value
    obtain ⟨x, v, converted, value, near⟩ := Binary64.exists_value_ofInt? small
    refine ⟨x, v, ?_, value, near⟩
    rw [toBinary64, converted]
  | real x =>
    refine ⟨x, q, rfl, value, ?_⟩
    rw [sub_self, abs_zero]
    positivity

theorem exists_value_of_toBinary64 {a : Amount} {q : ℚ} (value : a.rational? = some q)
    {x : Binary64} (converted : a.toBinary64 = .ok x) : ∃ v, x.value? = some v := by
  cases a with
  | whole n =>
    rw [toBinary64] at converted
    split at converted
    · rename_i nearest
      cases converted
      exact Binary64.exists_value_of_ofInt? nearest
    · cases converted
  | real y =>
    cases converted
    exact ⟨q, value⟩

end Amount

end ReceiptPress

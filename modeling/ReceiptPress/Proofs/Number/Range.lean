import ReceiptPress.Number.Amount

/-!
# The range of binary64

A whole number has a nearest binary64 number if it lies below half a step beyond the largest one
(`Binary64.ofInt?_eq_none_iff`). The rounded mantissa is `2 ^ 53` from the middle of its last step
on, the mantissa below being odd (`roundDiv_eq_succ_iff`).
-/

namespace ReceiptPress

theorem roundDiv_eq_succ_iff {num den k : Nat} (odd : k % 2 = 1) (below : num < (k + 1) * den) :
    roundDiv num den = k + 1 ↔ (2 * k + 1) * den ≤ 2 * num := by
  have den_pos : 0 < den := Nat.pos_of_mul_pos_left (Nat.zero_lt_of_lt below)
  have whole_le : num / den ≤ k := Nat.lt_succ_iff.1 ((Nat.div_lt_iff_lt_mul den_pos).2 below)
  have num_eq : den * (num / den) + num % den = num := Nat.div_add_mod num den
  have rest_lt : num % den < den := Nat.mod_lt num den_pos
  rcases Nat.lt_or_eq_of_le whole_le with whole_lt | whole_eq
  · have small : den * (num / den) + den ≤ k * den := by
      rw [← Nat.mul_succ, Nat.mul_comm]
      exact Nat.mul_le_mul_right den whole_lt
    rw [Nat.add_mul, Nat.mul_assoc, Nat.one_mul]
    constructor
    · intro rounded
      unfold roundDiv at rounded
      dsimp only at rounded
      split at rounded
      · omega
      · split at rounded <;> omega
    · intro far
      omega
  · rw [whole_eq, Nat.mul_comm] at num_eq
    rw [Nat.add_mul, Nat.mul_assoc, Nat.one_mul]
    unfold roundDiv
    dsimp only
    rw [whole_eq]
    split
    · omega
    · split <;> omega

namespace Binary64

/-- The least whole number without a nearest binary64 number: half a step beyond the largest. -/
def wholeEnd : Nat := Nat.pow 2 1024 - Nat.pow 2 970

theorem log2_wholeEnd : wholeEnd.log2 = 1023 := by decide +kernel

section

variable {step : Nat} (greatest : step = greatestExponent.toNat)

include greatest

theorem two_mul_wholeEnd : 2 * wholeEnd = (2 * (Nat.pow 2 53 - 1) + 1) * Nat.pow 2 step := by
  subst greatest
  decide +kernel

theorem log2_greatestStep : ((Nat.pow 2 53 - 1 + 1) * Nat.pow 2 step).log2 = 1024 := by
  subst greatest
  decide +kernel

end

theorem floorLog2_one {m : Nat} (pos : m ≠ 0) : floorLog2 m 1 = m.log2 := by
  have guess : (m.log2 : Int) - (Nat.log2 1 : Nat) = m.log2 := Int.sub_zero _
  have reaches : reachesPower m 1 m.log2 = true := by simp [reachesPower, Nat.log2_self_le pos]
  rw [floorLog2, guess, if_pos reaches]

def IsInfinite (x : Binary64) : Prop := ∃ negative, x = .infinite negative

theorem ofInt?_eq_none_iff_isInfinite {n : Int} :
    ofInt? n = none ↔ (ofRatio (n < 0) n.natAbs 1).IsInfinite := by
  unfold ofInt? IsInfinite
  cases ofRatio (n < 0) n.natAbs 1 <;> simp

theorem isInfinite_pack {negative : Bool} {mantissa : Nat} {exponent : Int} :
    (pack negative mantissa exponent).IsInfinite ↔
      greatestExponent < exponent ∨ greatestExponent = exponent ∧ mantissa = Nat.pow 2 53 := by
  unfold pack IsInfinite
  by_cases reached : mantissa = Nat.pow 2 53
  · rw [if_pos reached]
    dsimp only
    split
    · rename_i beyond
      exact ⟨fun _ => by omega, fun _ => ⟨negative, rfl⟩⟩
    · rename_i within
      exact ⟨nofun, fun _ => by omega⟩
  · rw [if_neg reached]
    dsimp only
    split
    · rename_i beyond
      exact ⟨fun _ => .inl beyond, fun _ => ⟨negative, rfl⟩⟩
    · rename_i within
      exact ⟨nofun, fun h => h.elim (absurd · within) fun h => absurd h.2 reached⟩

theorem lt_of_log2_lt {a b : Nat} (log_lt : a.log2 < b.log2) : a < b := by
  have pos : b ≠ 0 := by
    rintro rfl
    cases log_lt
  calc
    a < Nat.pow 2 (a.log2 + 1) := Nat.lt_log2_self
    _ ≤ Nat.pow 2 b.log2 := Nat.pow_le_pow_right (by decide) log_lt
    _ ≤ b := Nat.log2_self_le pos

theorem isInfinite_ofRatio {negative : Bool} {m : Nat} :
    (ofRatio negative m 1).IsInfinite ↔ wholeEnd ≤ m := by
  by_cases zero : m = 0
  · have end_pos : 0 < wholeEnd := by decide +kernel
    rw [ofRatio, if_pos zero]
    exact ⟨nofun, fun _ => by omega⟩
  · have exponent_eq : max (floorLog2 m 1 - 52) leastExponent = m.log2 - 52 := by
      rw [floorLog2_one zero, leastExponent]
      omega
    have greatest : greatestExponent = 971 := rfl
    rw [ofRatio, if_neg zero]
    dsimp only
    rw [exponent_eq, isInfinite_pack]
    rcases Nat.lt_trichotomy m.log2 1023 with below | last | above
    · have m_lt : m < wholeEnd := lt_of_log2_lt (by rwa [log2_wholeEnd])
      exact ⟨fun infinite => by omega, fun far => by omega⟩
    · obtain ⟨step, log_eq⟩ : ∃ step, m.log2 = step + 52 := ⟨971, last⟩
      have step_eq : step = greatestExponent.toNat := by omega
      have exponent : (m.log2 : Int) - 52 = step := by omega
      have m_lt : m < (Nat.pow 2 53 - 1 + 1) * Nat.pow 2 step :=
        lt_of_log2_lt (by rw [last, log2_greatestStep step_eq]; decide)
      have carry : Nat.pow 2 53 - 1 + 1 = Nat.pow 2 53 := by decide
      have mantissa_iff := roundDiv_eq_succ_iff (by decide) m_lt
      rw [← two_mul_wholeEnd step_eq, carry, Nat.mul_le_mul_left_iff Nat.two_pos] at mantissa_iff
      rw [exponent, if_pos (Int.natCast_nonneg step), Int.toNat_natCast, Nat.one_mul, mantissa_iff]
      omega
    · have end_lt : wholeEnd < m := lt_of_log2_lt (by rwa [log2_wholeEnd])
      exact ⟨fun _ => Nat.le_of_lt end_lt, fun _ => .inl (by omega)⟩

theorem ofInt?_eq_none_iff {n : Int} : ofInt? n = none ↔ wholeEnd ≤ n.natAbs :=
  ofInt?_eq_none_iff_isInfinite.trans isInfinite_ofRatio

end Binary64

namespace Amount

theorem toBinary64_error_iff {a : Amount} {f : Fault} :
    a.toBinary64 = .error f ↔
      f = .tooLargeForBinary64 ∧ ∃ n, a = .whole n ∧ Binary64.wholeEnd ≤ n.natAbs := by
  cases a with
  | whole n =>
    rw [toBinary64]
    cases nearest : Binary64.ofInt? n with
    | none =>
      have beyond := Binary64.ofInt?_eq_none_iff.1 nearest
      simp [beyond, eq_comm]
    | some x =>
      have within : ¬Binary64.wholeEnd ≤ n.natAbs := fun beyond => by
        rw [Binary64.ofInt?_eq_none_iff.2 beyond] at nearest
        cases nearest
      simp [within]
  | real x => simp [toBinary64]

theorem add_eq {a b : Amount} {x y : Binary64} (left : a.toBinary64 = .ok x)
    (right : b.toBinary64 = .ok y) :
    (∃ m n, a = .whole m ∧ b = .whole n) ∨ a.add b = .ok (.real (x.add y)) := by
  cases a with
  | whole m =>
    cases b with
    | whole n => exact .inl ⟨m, n, rfl, rfl⟩
    | real => exact .inr (by simp only [Amount.add, left, right]; rfl)
  | real => exact .inr (by simp only [Amount.add, left, right]; rfl)

end Amount

end ReceiptPress

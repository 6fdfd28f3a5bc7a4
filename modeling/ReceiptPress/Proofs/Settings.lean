import ReceiptPress.Proofs.Faults
import ReceiptPress.Settings
import ReceiptPress.Value.Printed

namespace ReceiptPress

def Numeral.IsShort (n : Int) : Prop := n.natAbs < Nat.pow 10 digitLimit

instance (n : Int) : Decidable (Numeral.IsShort n) := Nat.decLt _ _

structure Profile.WholeLimits (p : Profile) : Prop where
  normal : ∃ n, p.maxCharsNormal = .int n ∧ Numeral.IsShort n
  double : ∃ n, p.maxCharsDouble = .int n ∧ Numeral.IsShort n

namespace Value

theorem text_int (n : Int) :
    (Value.int n).text =
      if Numeral.IsShort n then .ok (Text.ofInt n).toCodePoints else .error .tooLongToWrite := by
  have shown : (Value.int n).text = Text.toCodePoints <$> intText n := rfl
  rw [shown, intText]
  by_cases short : Numeral.IsShort n
  · rw [if_neg (Nat.not_le_of_lt short), if_pos short]
    rfl
  · rw [if_pos (Nat.le_of_not_lt short), if_neg short]
    rfl

theorem text_int_of_isShort {n : Int} (short : Numeral.IsShort n) :
    ∃ shown, (Value.int n).text = .ok shown :=
  ⟨_, (text_int n).trans (if_pos short)⟩

theorem text_int_error {n : Int} {f : Fault} (refused : (Value.int n).text = .error f) :
    f = .tooLongToWrite ∧ ¬Numeral.IsShort n := by
  rw [text_int] at refused
  split at refused
  · cases refused
  · rename_i long
    exact ⟨(Except.error.inj refused).symm, long⟩

end Value

namespace Numeral

theorem foldl_digits_lt {digits : Text} (all : ∀ c ∈ digits, isDigit c = true) (n : Nat) :
    digits.foldl (fun n c => 10 * n + (c.toNat - 48)) n < (n + 1) * Nat.pow 10 digits.length := by
  induction digits generalizing n with
  | nil => simp
  | cons c rest ih =>
    have digit := all c List.mem_cons_self
    simp only [isDigit, Bool.and_eq_true, decide_eq_true_eq] at digit
    have behind := ih (fun x mem => all x (List.mem_cons_of_mem c mem)) (10 * n + (c.toNat - 48))
    have power : Nat.pow 10 (c :: rest).length = 10 * Nat.pow 10 rest.length :=
      (Nat.pow_succ 10 rest.length).trans (Nat.mul_comm _ _)
    rw [List.foldl_cons, power, ← Nat.mul_assoc]
    refine Nat.lt_of_lt_of_le behind (Nat.mul_le_mul_right _ ?_)
    omega

theorem isShort_signed {negative : Bool} {digits : Text}
    (all : ∀ c ∈ digits, isDigit c = true) (short : digits.length ≤ digitLimit) :
    IsShort (Binary64.signed negative (ofDigits digits)) := by
  have magnitude : (Binary64.signed negative (ofDigits digits)).natAbs = ofDigits digits := by
    cases negative <;> simp [Binary64.signed]
  have bound := foldl_digits_lt all 0
  rw [Nat.zero_add, Nat.one_mul] at bound
  rw [IsShort, magnitude]
  generalize digitLimit = limit at *
  exact Nat.lt_of_lt_of_le bound (Nat.pow_le_pow_right (Nat.zero_lt_succ 9) short)

theorem isShort_of_readInt {t : Text} {n : Int} (read : readInt t = .ok n) : IsShort n := by
  unfold readInt at read
  dsimp only at read
  split at read
  · cases read
  split at read
  · cases read
  rename_i short
  split at read
  · cases read
  rw [← Except.ok.inj read]
  exact isShort_signed (fun c mem => (List.mem_filter.1 mem).2) (Nat.le_of_not_lt short)

end Numeral

namespace Settings

variable {environment : Text → Option Text}

theorem isShort_of_metric {name : String} {n : Int} {v : Value} (short : Numeral.IsShort n)
    (read : metric environment name (.int n) = .ok v) : ∃ m, v = .int m ∧ Numeral.IsShort m := by
  unfold metric at read
  split at read
  · cases read
    exact ⟨n, rfl, short⟩
  · obtain ⟨m, number, rfl⟩ := map_eq_ok.1 read
    exact ⟨m, rfl, Numeral.isShort_of_readInt number⟩

theorem wholeLimits {settings : Settings} (read : ofEnvironment environment = .ok settings) :
    settings.profile.WholeLimits := by
  unfold ofEnvironment at read
  obtain ⟨normal, normal_read, read⟩ := bind_eq_ok.1 read
  obtain ⟨double, double_read, read⟩ := bind_eq_ok.1 read
  obtain ⟨_, -, read⟩ := bind_eq_ok.1 read
  obtain ⟨_, -, read⟩ := bind_eq_ok.1 read
  obtain ⟨_, -, read⟩ := bind_eq_ok.1 read
  obtain ⟨_, -, read⟩ := bind_eq_ok.1 read
  obtain ⟨_, -, read⟩ := bind_eq_ok.1 read
  cases read
  exact
    { normal := isShort_of_metric (by decide +kernel) normal_read
      double := isShort_of_metric (by decide +kernel) double_read }

end Settings

end ReceiptPress

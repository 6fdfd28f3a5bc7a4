import ReceiptPress.Proofs.Number.Precision
import ReceiptPress.Proofs.Sale.Rows

/-!
# Totals

The total of a sale is the sum of its prices, rounded once to hundredths, while each row shows its
own price in hundredths. So the total need not be the sum of the amounts in the rows, but it is if
the prices stand for whole numbers of hundredths and the sale is not too large for the precision of
binary64 (`Sale.total_of_printed`).

A sum so far is off by what the addends and the roundings of the steps leave
(`Amount.StandsFor.add`), which adds up to `drift` over a run (`Sale.exists_sumFrom`).
-/

namespace ReceiptPress

theorem IsNear.add_hundredths {z v w c d off off' : ℚ} (near : IsNear z (v + w))
    (sum_close : |100 * (v + w) - (c + d)| ≤ off + off') (off_small : off + off' ≤ 1 / 2) :
    |100 * z - (c + d)| ≤ off + off' + (|c + d| + 1) / 2 ^ 53 := by
  have sum_size := abs_sub_abs_le_abs_sub (100 * (v + w)) (c + d)
  calc
    |100 * z - (c + d)| ≤ |100 * z - 100 * (v + w)| + |100 * (v + w) - (c + d)| :=
      abs_sub_le _ _ _
    _ ≤ (|100 * (v + w)| + 1 / 2) / 2 ^ 53 + (off + off') := add_le_add near.hundredths sum_close
    _ ≤ off + off' + (|c + d| + 1) / 2 ^ 53 := by linarith

namespace Amount

/-- An amount that stands for so many hundredths: a whole number exactly, a binary64 number up to
an error in hundredths. -/
inductive StandsFor (cents : ℤ) (off : ℚ) : Amount → Prop
  | whole {n : ℤ} (exact_cents : 100 * n = cents) : StandsFor cents off (.whole n)
  | real {x : Binary64} {v : ℚ} (value : x.value? = some v) (close : |100 * v - cents| ≤ off) :
    StandsFor cents off (.real x)

namespace StandsFor

variable {a b : Amount} {c d : ℤ} {off off' : ℚ}

theorem mono (stands : a.StandsFor c off) (le : off ≤ off') : a.StandsFor c off' := by
  cases stands with
  | whole exact_cents => exact .whole exact_cents
  | real value close => exact .real value (close.trans le)

theorem exists_value (stands : a.StandsFor c off) (precise : |(c : ℚ)| / 2 ^ 53 ≤ off)
    (small : |(c : ℚ)| ≤ 2 ^ 53) :
    ∃ x v, a.toBinary64 = .ok x ∧ x.value? = some v ∧ |100 * v - c| ≤ off := by
  cases stands with
  | real value close => exact ⟨_, _, rfl, value, close⟩
  | whole exact_cents =>
    rename_i n
    have size : |(c : ℚ)| = 100 * |(n : ℚ)| := by
      rw [← exact_cents, Int.cast_mul, Int.cast_ofNat, abs_hundred_mul]
    have n_small : |(n : ℚ)| < 2 ^ (1023 : ℤ) :=
      lt_of_le_of_lt (by linarith [abs_nonneg (n : ℚ)]) two_pow_lt_range
    obtain ⟨x, v, converted, value, near⟩ := exists_value_toBinary64 (a := .whole n) rfl n_small
    refine ⟨x, v, converted, value, ?_⟩
    calc
      |100 * v - c| = 100 * |v - n| := by
        rw [← exact_cents, Int.cast_mul, Int.cast_ofNat, ← mul_sub, abs_hundred_mul]
      _ ≤ 100 * |(n : ℚ)| / 2 ^ 53 := by linarith
      _ ≤ off := size ▸ precise

theorem add (left : a.StandsFor c off) (right : b.StandsFor d off')
    (left_precise : |(c : ℚ)| / 2 ^ 53 ≤ off)
    (right_precise : |(d : ℚ)| / 2 ^ 53 ≤ off') (left_small : |(c : ℚ)| ≤ 2 ^ 53)
    (right_small : |(d : ℚ)| ≤ 2 ^ 53) (off_small : off + off' ≤ 1 / 2) :
    ∃ s, a.add b = .ok s ∧
      s.StandsFor (c + d) (off + off' + (|(c + d : ℚ)| + 1) / 2 ^ 53) := by
  obtain ⟨x, v, x_eq, x_value, x_close⟩ := left.exists_value left_precise left_small
  obtain ⟨y, w, y_eq, y_value, y_close⟩ := right.exists_value right_precise right_small
  -- Whole amounts are added exactly. All others are rounded, by `exists_value` and in the sum.
  rcases add_eq x_eq y_eq with ⟨m, n, rfl, rfl⟩ | added
  · cases left with
    | whole left_exact =>
      cases right with
      | whole right_exact => exact ⟨_, rfl, .whole (by rw [mul_add, left_exact, right_exact])⟩
  · have sum_close : |100 * (v + w) - (c + d)| ≤ off + off' := by
      have split : 100 * (v + w) - (c + d) = (100 * v - c) + (100 * w - d) := by ring
      rw [split]
      exact (abs_add_le _ _).trans (add_le_add x_close y_close)
    have sum_small : |v + w| < 2 ^ (1023 : ℤ) := by
      have size := abs_sub_abs_le_abs_sub (100 * (v + w)) (c + d)
      have parts := abs_add_le (c : ℚ) d
      rw [abs_hundred_mul] at size
      exact lt_of_le_of_lt (by linarith) two_pow_lt_range
    obtain ⟨z, value, near⟩ := Binary64.exists_value_add x_value y_value sum_small
    refine ⟨_, added, .real value ?_⟩
    rw [Int.cast_add]
    exact near.add_hundredths sum_close off_small

theorem isRounded (stands : a.StandsFor c off) (precise : |(c : ℚ)| / 2 ^ 53 ≤ off)
    (off_small : off < 1 / 2) :
    ∃ q, a.printedValue? = some q ∧ IsRounded (100 * q) c := by
  obtain ⟨x, v, converted, value, close⟩ := stands.exists_value precise (by linarith)
  refine ⟨v, ?_, .inl (close.trans_lt off_small)⟩
  rw [printedValue?, converted]
  exact value

end StandsFor

end Amount

namespace Value

def rational? (price : Value) : Option ℚ := price.amount?.bind Amount.rational?

/-- A price that stands for so many hundredths, as precisely as a binary64 number can. -/
def IsCents (price : Value) (cents : ℤ) : Prop :=
  ∃ a, price.amount? = some a ∧ a.StandsFor cents (|(cents : ℚ)| / 2 ^ 53)

theorem isCents_int (n : ℤ) : (Value.int n).IsCents (100 * n) := ⟨_, rfl, .whole rfl⟩

theorem isCents_ofRatio (negative : Bool) (cents : ℕ) (small : (cents : ℚ) ≤ 2 ^ 53) :
    (Value.float (Binary64.ofRatio negative cents 100)).IsCents
      (Binary64.signed negative cents) := by
  have normal : cents ≠ 0 → (2 : ℚ) ^ (-1022 : ℤ) ≤ cents / (100 : ℕ) := by
    intro nonzero
    have one_le : (1 : ℚ) ≤ cents := by exact_mod_cast Nat.one_le_iff_ne_zero.2 nonzero
    rw [Nat.cast_ofNat]
    linarith [two_zpow_least_le]
  have in_range : (cents / (100 : ℕ) : ℚ) < 2 ^ (1023 : ℤ) := by
    refine lt_of_le_of_lt ?_ two_pow_lt_range
    push_cast
    linarith
  obtain ⟨v, value, near⟩ :=
    Binary64.exists_value_ofRatio_of_normal negative cents (by decide) normal in_range
  refine ⟨_, rfl, .real value ?_⟩
  have scaled : 100 * v - Binary64.signed negative cents =
      100 * (v - Binary64.signed negative cents / (100 : ℕ)) := by
    push_cast
    ring
  rw [scaled, abs_hundred_mul, Binary64.abs_signed]
  push_cast at near ⊢
  linarith

theorem IsCents.exists_rational? {price : Value} {c : ℤ} (cents : price.IsCents c) :
    ∃ q, price.rational? = some q := by
  obtain ⟨a, amount, stands⟩ := cents
  rw [rational?, amount]
  cases stands with
  | whole => exact ⟨_, rfl⟩
  | real value => exact ⟨_, value⟩

theorem IsCents.isRounded {price : Value} {c : ℤ} (cents : price.IsCents c)
    (small : c.natAbs < 2 ^ 52) :
    ∃ q, price.printedValue? = some q ∧ IsRounded (100 * q) c := by
  obtain ⟨a, amount, stands⟩ := cents
  have size : |(c : ℚ)| < 2 ^ 52 := by
    rw [← Int.cast_abs, ← Nat.cast_natAbs]
    exact_mod_cast small
  obtain ⟨q, value, rounded⟩ := stands.isRounded le_rfl (by linarith)
  exact ⟨q, by rw [printedValue?, amount]; exact value, rounded⟩

end Value

namespace Item

theorem exists_printedValue? {p : Profile} {item : Item} {row : Text}
    (made : Item.row p item = .ok row) {q : ℚ} (finite : item.price.rational? = some q) :
    ∃ v, item.price.printedValue? = some v := by
  obtain ⟨a, amount, finite⟩ := Option.bind_eq_some_iff.1 finite
  obtain ⟨name, -, made⟩ := bind_eq_ok.1 made
  obtain ⟨column, filled, -⟩ := bind_eq_ok.1 made
  obtain ⟨text, written, -⟩ := bind_eq_ok.1 filled
  rw [fixedText_of_amount? amount] at written
  obtain ⟨x, converted, -⟩ := map_eq_ok.1 written
  obtain ⟨v, value⟩ := Amount.exists_value_of_toBinary64 finite converted
  refine ⟨v, ?_⟩
  rw [Value.printedValue?, amount, Option.bind_some, Amount.printedValue?, converted]
  exact value

def Shows (item : Item) (cents : ℤ) : Prop :=
  ∃ q, item.price.printedValue? = some q ∧ IsRounded (100 * q) cents

theorem exists_shown {p : Profile} {items : List Item} {rows : List Text}
    (printed : items.mapM (Item.row p) = .ok rows)
    (finite : ∀ item ∈ items, ∃ q, item.price.rational? = some q) :
    ∃ cents, rows.mapM printedPrice? = some cents ∧ List.Forall₂ Shows items cents := by
  induction items generalizing rows with
  | nil =>
    cases printed
    exact ⟨[], rfl, .nil⟩
  | cons item items ih =>
    rw [List.mapM_cons] at printed
    obtain ⟨row, made, printed⟩ := bind_eq_ok.1 printed
    obtain ⟨rest, rest_made, printed⟩ := bind_eq_ok.1 printed
    cases printed
    obtain ⟨q, value⟩ := finite item List.mem_cons_self
    obtain ⟨v, value⟩ := exists_printedValue? made value
    obtain ⟨c, read, rounded⟩ := printedPrice?_row made value
    obtain ⟨cents, rest_read, shown⟩ :=
      ih rest_made fun other mem => finite other (List.mem_cons_of_mem item mem)
    refine ⟨c :: cents, ?_, .cons ⟨v, value, rounded⟩ shown⟩
    rw [List.mapM_cons, read, rest_read]
    rfl

theorem eq_of_shows {items : List Item} {cents amounts : List ℤ}
    (shown : List.Forall₂ Shows items cents)
    (stand : List.Forall₂ Value.IsCents (items.map Item.price) amounts)
    (small : ∀ c ∈ amounts, c.natAbs < 2 ^ 52) : cents = amounts := by
  induction shown generalizing amounts with
  | nil =>
    cases stand
    rfl
  | @cons item c items cents shows _ ih =>
    cases stand with
    | @cons _ d _ amounts price_cents stand =>
      obtain ⟨q, value, rounded⟩ := shows
      obtain ⟨q', value', rounded'⟩ := price_cents.isRounded (small d List.mem_cons_self)
      obtain rfl : q = q' := Option.some.inj (value.symm.trans value')
      rw [rounded.unique rounded', ih stand fun e mem => small e (List.mem_cons_of_mem d mem)]

theorem mapM_ofValue_toValue (items : List Item) :
    (items.map toValue).mapM ofValue = .ok items := by
  induction items with
  | nil => rfl
  | cons item items ih =>
    rw [List.map_cons, List.mapM_cons, ih]
    rfl

end Item

namespace Sale

/-- How far the sum of so many prices may be off, in hundredths, if the prices have a given size
without their signs. -/
def drift (count size : ℕ) : ℚ := (size + count * (size + 1)) / 2 ^ 53

theorem abs_le_of_natAbs_le {c : ℤ} {size : ℕ} (within : c.natAbs ≤ size) : |(c : ℚ)| ≤ size := by
  rw [← Int.cast_abs, ← Nat.cast_natAbs]
  exact_mod_cast within

theorem precise_le_drift {c : ℤ} {count size : ℕ} (within : c.natAbs ≤ size) :
    |(c : ℚ)| / 2 ^ 53 ≤ drift count size := by
  have rest_nonneg : (0 : ℚ) ≤ count * (size + 1) := by positivity
  refine div_le_div_of_nonneg_right ?_ (by positivity)
  linarith [abs_le_of_natAbs_le within]

theorem drift_lt_half {count size : ℕ} (small : (count + 1) * (size + 1) ≤ 2 ^ 52) :
    drift count size < 1 / 2 := by
  have small : ((count : ℚ) + 1) * (size + 1) ≤ 2 ^ 52 := by exact_mod_cast small
  rw [drift]
  linarith

theorem add_standsFor {sum addend : Amount} {c d : ℤ} {count size : ℕ}
    (so_far : sum.StandsFor c (drift count size))
    (cents : addend.StandsFor d (|(d : ℚ)| / 2 ^ 53)) (within : c.natAbs ≤ size)
    (small : (count + 1 + 1) * (size + d.natAbs + 1) ≤ 2 ^ 52) :
    ∃ next, sum.add addend = .ok next ∧
      next.StandsFor (c + d) (drift (count + 1) (size + d.natAbs)) := by
  have d_size : (d.natAbs : ℚ) = |(d : ℚ)| := by rw [Nat.cast_natAbs, Int.cast_abs]
  have c_le := abs_le_of_natAbs_le within
  have small : ((count : ℚ) + 1 + 1) * (size + |(d : ℚ)| + 1) ≤ 2 ^ 52 := by
    rw [← d_size]
    exact_mod_cast small
  have d_nonneg := abs_nonneg (d : ℚ)
  have size_nonneg : (0 : ℚ) ≤ size := Nat.cast_nonneg size
  have grown : (0 : ℚ) ≤ count * |(d : ℚ)| := by positivity
  have rest_nonneg : (0 : ℚ) ≤ count * (size + 1) := by positivity
  have off_small : drift count size + |(d : ℚ)| / 2 ^ 53 ≤ 1 / 2 := by
    rw [drift]
    linarith
  obtain ⟨next, added, stands⟩ := so_far.add cents (precise_le_drift within) le_rfl (by linarith)
    (by linarith) off_small
  refine ⟨next, added, stands.mono ?_⟩
  have sum_le : |(c + d : ℚ)| ≤ size + |(d : ℚ)| := (abs_add_le _ _).trans (by linarith)
  calc
    drift count size + |(d : ℚ)| / 2 ^ 53 + (|(c + d : ℚ)| + 1) / 2 ^ 53 ≤
        ((size + |(d : ℚ)|) + (count + 1) * ((size + |(d : ℚ)|) + 1)) / 2 ^ 53 := by
      rw [drift, ← add_div, ← add_div]
      exact div_le_div_of_nonneg_right (by linarith) (by positivity)
    _ = drift (count + 1) (size + d.natAbs) := by
      rw [drift]
      push_cast
      rw [d_size]

theorem exists_sumFrom {prices : List Value} {amounts : List ℤ}
    (cents : List.Forall₂ Value.IsCents prices amounts) {sum : Amount} {c : ℤ} {count size : ℕ}
    (so_far : sum.StandsFor c (drift count size)) (within : c.natAbs ≤ size)
    (small : (count + prices.length + 1) * (size + (amounts.map Int.natAbs).sum + 1) ≤ 2 ^ 52) :
    ∃ total, sumFrom sum prices = .ok total ∧
      total.StandsFor (c + amounts.sum)
        (drift (count + prices.length) (size + (amounts.map Int.natAbs).sum)) := by
  -- Each price changes the sum so far, what it stands for and how far it may be off.
  induction cents generalizing sum c count size with
  | nil => exact ⟨sum, rfl, by simpa using so_far⟩
  | @cons price d prices amounts price_cents _ ih =>
    obtain ⟨addend, amount, stands⟩ := price_cents
    rw [List.length_cons, List.map_cons, List.sum_cons] at small
    have step_small : (count + 1 + 1) * (size + d.natAbs + 1) ≤ 2 ^ 52 :=
      (Nat.mul_le_mul (by omega) (by omega)).trans small
    obtain ⟨next, added, next_stands⟩ := add_standsFor so_far stands within step_small
    have next_within : (c + d).natAbs ≤ size + d.natAbs := by omega
    obtain ⟨total, summed, total_stands⟩ := ih next_stands next_within (by
      rwa [Nat.add_right_comm count 1, Nat.add_assoc count, Nat.add_assoc size])
    refine ⟨total, ?_, ?_⟩
    · rw [sumFrom, Sale.addend, amount]
      simp only [ok_bind, added, summed]
    · rw [List.length_cons, List.map_cons, List.sum_cons, List.sum_cons, ← Int.add_assoc,
        ← Nat.add_assoc size, Nat.add_comm prices.length, ← Nat.add_assoc count]
      exact total_stands

theorem forall_exists_rational? {items : List Item} {amounts : List ℤ}
    (cents : List.Forall₂ Value.IsCents (items.map Item.price) amounts) :
    ∀ item ∈ items, ∃ q, item.price.rational? = some q := by
  induction items generalizing amounts with
  | nil => exact nofun
  | cons item items ih =>
    cases cents with
    | cons price_cents cents =>
      exact List.forall_mem_cons.2 ⟨price_cents.exists_rational?, ih cents⟩

theorem natAbs_sum_le (amounts : List ℤ) :
    amounts.sum.natAbs ≤ (amounts.map Int.natAbs).sum := by
  induction amounts with
  | nil => exact Nat.zero_le _
  | cons c amounts ih =>
    rw [List.map_cons, List.sum_cons, List.sum_cons]
    omega

theorem natAbs_le_sum {amounts : List ℤ} {c : ℤ} (mem : c ∈ amounts) :
    c.natAbs ≤ (amounts.map Int.natAbs).sum :=
  List.le_sum_of_mem (List.mem_map_of_mem mem)

theorem ofItems_finished (identifier : Value) {items : List Item} {sum : Amount}
    (summed : Sale.sum (items.map Item.price) = .ok sum) {total : Text}
    (written : sum.fixedText = .ok total) :
    Sale.ofItems identifier (.list (items.map Item.toValue)) =
      .ok { identifier, items, total := .ofText total } := by
  rw [ofItems_list, Item.mapM_ofValue_toValue]
  simp only [ok_bind, summed, written]
  rfl

/-- The total of a sale of items with finite prices reads as the hundredths nearest to the sum of
the prices, and the rows as the hundredths nearest to each price. So the total is the sum of the
amounts in the rows exactly if this is nearest to the sum of the prices. It is if the prices stand
for whole numbers of hundredths that are, for their number, within the precision of binary64. -/
theorem total_of_printed {p : Profile} {identifier items : Value} {sale : Sale}
    (made : Sale.ofItems identifier items = .ok sale)
    (finite : ∀ item ∈ sale.items, ∃ q, item.price.rational? = some q) {rows : List Text}
    (printed : sale.items.mapM (Item.row p) = .ok rows) :
    ∃ sum total cents,
      Sale.sum (sale.items.map Item.price) = .ok sum ∧
      sale.total = .ofText total ∧
      (∀ c, Amount.hundredths? total = some c ↔
        ∃ q, sum.printedValue? = some q ∧ IsRounded (100 * q) c) ∧
      rows.mapM Item.printedPrice? = some cents ∧
      List.Forall₂ Item.Shows sale.items cents ∧
      ∀ amounts, List.Forall₂ Value.IsCents (sale.items.map Item.price) amounts →
        (sale.items.length + 1) * ((amounts.map Int.natAbs).sum + 1) ≤ 2 ^ 52 →
        cents = amounts ∧ Amount.hundredths? total = some amounts.sum := by
  obtain ⟨elements, -, made⟩ := bind_eq_ok.1 made
  obtain ⟨read, -, made⟩ := bind_eq_ok.1 made
  obtain ⟨sum, summed, made⟩ := bind_eq_ok.1 made
  obtain ⟨total, written, made⟩ := bind_eq_ok.1 made
  cases made
  obtain ⟨cents, read_rows, shown⟩ := Item.exists_shown printed finite
  have total_iff (c : ℤ) := Amount.hundredths?_fixedText written (c := c)
  refine ⟨sum, total, cents, summed, rfl, total_iff, read_rows, shown, ?_⟩
  intro amounts stand small
  have empty : (Amount.whole 0).StandsFor 0 (drift 0 0) := .whole rfl
  obtain ⟨sum', summed', stands⟩ := exists_sumFrom stand empty le_rfl (by
    rwa [Nat.zero_add, Nat.zero_add, List.length_map])
  obtain rfl : sum = sum' := Except.ok.inj (summed.symm.trans summed')
  rw [Nat.zero_add, Nat.zero_add, Int.zero_add, List.length_map] at stands
  have sum_small : (amounts.map Int.natAbs).sum < 2 ^ 52 := by
    have one_le : 1 * ((amounts.map Int.natAbs).sum + 1) ≤ 2 ^ 52 :=
      (Nat.mul_le_mul_right _ (Nat.succ_pos _)).trans small
    omega
  refine ⟨Item.eq_of_shows shown stand fun c mem => (natAbs_le_sum mem).trans_lt sum_small, ?_⟩
  rw [total_iff]
  exact stands.isRounded (precise_le_drift (natAbs_sum_le amounts)) (drift_lt_half small)

def hardware : List Item :=
  [⟨.ofText "Nail".toList, .float (.ofRatio false 10 100)⟩,
    ⟨.ofText "Bolt".toList, .float (.ofRatio false 20 100)⟩, ⟨.ofText "Saw".toList, .int 3⟩]

theorem total_of_printed_hardware :
    ∃ sale rows total, Sale.ofItems (.str []) (.list (hardware.map Item.toValue)) = .ok sale ∧
      sale.items.mapM (Item.row {}) = .ok rows ∧
      rows.mapM Item.printedPrice? = some [10, 20, 300] ∧
      sale.total = .ofText total ∧ Amount.hundredths? total = some 330 := by
  have summed : Sale.sum (hardware.map Item.price) =
      .ok (.real (((Binary64.ofRatio false 10 100).add (.ofRatio false 20 100)).add
        (.ofRatio false 3 1))) := by
    decide +kernel
  have written : (Amount.real (((Binary64.ofRatio false 10 100).add (.ofRatio false 20 100)).add
      (.ofRatio false 3 1))).fixedText = .ok "3.30".toList := by
    decide +kernel
  have made := ofItems_finished (.str []) summed written
  have printed : hardware.mapM (Item.row {}) = .ok [
      "Nail                       $0.10\n".toList,
      "Bolt                       $0.20\n".toList,
      "Saw                        $3.00\n".toList] := by
    decide +kernel
  have cents : List.Forall₂ Value.IsCents (hardware.map Item.price) [10, 20, 300] :=
    .cons (Value.isCents_ofRatio false 10 (by norm_num)) <|
      .cons (Value.isCents_ofRatio false 20 (by norm_num)) <|
        .cons (Value.isCents_int 3) .nil
  obtain ⟨-, total, shown, -, total_eq, -, read, -, adds_up⟩ :=
    total_of_printed made (forall_exists_rational? cents) printed
  obtain ⟨rfl, total_read⟩ := adds_up [10, 20, 300] cents (by decide)
  exact ⟨_, _, total, made, printed, read, total_eq, total_read⟩

def halves : List Item :=
  [⟨.ofText "Nail".toList, .float (.ofRatio false 1 8)⟩,
    ⟨.ofText "Bolt".toList, .float (.ofRatio false 1 8)⟩]

/-- Each row drops its half a cent, and the total keeps both. -/
theorem halves_make_a_cent :
    ∃ sale rows, Sale.ofItems (.str []) (.list (halves.map Item.toValue)) = .ok sale ∧
      sale.items.mapM (Item.row {}) = .ok rows ∧ rows.mapM Item.printedPrice? = some [12, 12] ∧
      sale.total = .ofText "0.25".toList ∧ Amount.hundredths? "0.25".toList = some 25 := by
  have summed : Sale.sum (halves.map Item.price) = .ok (.real (.ofRatio false 1 4)) := by
    decide +kernel
  have written : (Amount.real (.ofRatio false 1 4)).fixedText = .ok "0.25".toList := by
    decide +kernel
  have printed : halves.mapM (Item.row {}) = .ok [
      "Nail                       $0.12\n".toList,
      "Bolt                       $0.12\n".toList] := by
    decide +kernel
  exact ⟨_, _, ofItems_finished (.str []) summed written, printed, by decide +kernel, rfl,
    by decide +kernel⟩

end Sale

end ReceiptPress

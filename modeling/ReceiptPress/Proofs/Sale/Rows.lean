import Mathlib.Data.List.DropRight
import ReceiptPress.Proofs.Number.Hundredths
import ReceiptPress.Proofs.Sale.Loaded
import ReceiptPress.Proofs.Text.Plain

namespace ReceiptPress

def Amount.printedValue? (a : Amount) : Option ℚ :=
  match a.toBinary64 with
  | .ok x => x.value?
  | .error _ => none

theorem Amount.hundredths?_fixedText {a : Amount} {text : Text} (written : a.fixedText = .ok text)
    {c : ℤ} :
    hundredths? text = some c ↔ ∃ q, a.printedValue? = some q ∧ IsRounded (100 * q) c := by
  obtain ⟨x, converted, rfl⟩ := map_eq_ok.1 written
  rw [hundredths?_fixedBinary64_iff, printedValue?, converted]

namespace Value

def printedValue? (v : Value) : Option ℚ := v.amount?.bind Amount.printedValue?

theorem exists_fixedText {v : Value} {q : ℚ} (value : v.printedValue? = some q) :
    ∃ amount cents, v.fixedText = .ok amount ∧ Amount.hundredths? amount = some cents ∧
      IsRounded (100 * q) cents ∧ '\n' ∉ amount ∧ '$' ∉ amount := by
  obtain ⟨a, amount, value⟩ := Option.bind_eq_some_iff.1 value
  unfold Amount.printedValue? at value
  split at value
  · rename_i x converted
    obtain ⟨cents, read, rounded⟩ := Amount.exists_hundredths? value
    refine ⟨Amount.fixedBinary64 x, cents, ?_, read, rounded,
      Amount.not_mem_fixedBinary64 x (by decide) (by decide),
      Amount.not_mem_fixedBinary64 x (by decide) (by decide)⟩
    rw [Item.fixedText_of_amount? amount, Amount.fixedText, converted]
    rfl
  · cases value

theorem columnWidth_natCast {n : ℕ} (fits : n ≤ widestColumn) :
    (Value.int n).columnWidth = .ok n := by
  have word : (widestColumn : ℤ) < wordEnd := by decide
  simp only [columnWidth, whole?]
  rw [if_neg (by omega), if_neg (by omega), Int.toNat_natCast]

theorem eq_of_columnWidth_natCast {n size : ℕ} (given : (Value.int n).columnWidth = .ok size) :
    size = n := by
  simp only [columnWidth, whole?, Int.toNat_natCast] at given
  split at given
  · cases given
  · split at given
    · cases given
    · exact (Except.ok.inj given).symm

end Value

namespace Text

theorem newline_mem_toAscii_iff {t : Text} : 0x0A ∈ toAscii t ↔ '\n' ∈ t := by
  constructor
  · intro mem
    obtain ⟨c, among, byte⟩ := List.mem_map.1 mem
    have newline : c = '\n' := by
      by_contra other
      exact asciiByte_ne (b := 0x0A) (by decide) other byte
    exact newline ▸ among
  · intro mem
    exact List.mem_map.2 ⟨'\n', mem, by decide⟩

end Text

namespace Item

/-! ## Columns in print -/

def nameBytes (width : ℕ) (name : Text) : Bytes :=
  Text.toAscii ((name.take width).rightpad width ' ')

def priceBytes (width : ℕ) (amount : Text) : Bytes :=
  Text.toAscii (('$' :: amount).leftpad width ' ')

theorem length_nameBytes (width : ℕ) (name : Text) : (nameBytes width name).length = width := by
  rw [nameBytes, Text.length_toAscii, List.length_rightpad, List.length_take]
  omega

theorem length_priceBytes (width : ℕ) (amount : Text) :
    (priceBytes width amount).length = max width (amount.length + 1) := by
  rw [priceBytes, Text.length_toAscii, List.length_leftpad, List.length_cons]

theorem newline_mem_nameBytes {width : ℕ} {name : Text} :
    0x0A ∈ nameBytes width name ↔ '\n' ∈ name.take width := by
  rw [nameBytes, Text.newline_mem_toAscii_iff, List.rightpad, List.mem_append]
  exact or_iff_left fun space => by cases List.eq_of_mem_replicate space

theorem newline_not_mem_priceBytes {width : ℕ} {amount : Text} (one_line : '\n' ∉ amount) :
    0x0A ∉ priceBytes width amount := by
  rw [priceBytes, Text.newline_mem_toAscii_iff, List.leftpad, List.mem_append, List.mem_cons]
  rintro (space | dollar | digit)
  · cases List.eq_of_mem_replicate space
  · cases dollar
  · exact one_line digit

def FixedWidth (width : ℕ) (bytes : Bytes) : Prop :=
  ∃ body, bytes = body ++ [0x0A] ∧ body.length = width ∧ 0x0A ∉ body

theorem fixedWidth_append_iff {width : ℕ} {body : Bytes} :
    FixedWidth width (body ++ [0x0A]) ↔ body.length = width ∧ 0x0A ∉ body := by
  constructor
  · rintro ⟨other, same, size, one_line⟩
    obtain rfl := List.append_cancel_right same
    exact ⟨size, one_line⟩
  · rintro ⟨size, one_line⟩
    exact ⟨body, rfl, size, one_line⟩

/-! ## Rows -/

section

variable {p : Profile} {nameWidth priceWidth : ℕ} (names : p.nameWidth = .int nameWidth)
  (prices : p.priceWidth = .int priceWidth) {name : CodePoints} {price : Value} {amount : Text}
  (written : price.fixedText = .ok amount)

include names prices written

theorem row_eq_ok_iff {row : Text} :
    Item.row p ⟨.str name, price⟩ = .ok row ↔
      (∃ size, (Value.int nameWidth).columnWidth = .ok size) ∧
        (∃ size, (Value.int priceWidth).columnWidth = .ok size) ∧
        row = (name.toText.take nameWidth).rightpad nameWidth ' ' ++
          ('$' :: amount).leftpad priceWidth ' ' ++ ['\n'] := by
  have cut : Value.cutAt (some (nameWidth : ℤ)) name.toText = name.toText.take nameWidth := by
    simp [Value.cutAt]
  have bound : (Value.int nameWidth).cutBound = .ok (some nameWidth) := rfl
  simp only [Item.row, names, prices, nameColumn, priceColumn, written, bound, ok_bind, cut,
    bind_eq_ok, pure_eq_ok]
  constructor
  · rintro ⟨_, ⟨size, name_size, rfl⟩, _, ⟨size', price_size, rfl⟩, rfl⟩
    refine ⟨⟨size, name_size⟩, ⟨size', price_size⟩, ?_⟩
    rw [Value.eq_of_columnWidth_natCast name_size, Value.eq_of_columnWidth_natCast price_size]
  · rintro ⟨⟨size, name_size⟩, ⟨size', price_size⟩, rfl⟩
    refine ⟨_, ⟨size, name_size, rfl⟩, _, ⟨size', price_size, rfl⟩, ?_⟩
    rw [Value.eq_of_columnWidth_natCast name_size, Value.eq_of_columnWidth_natCast price_size]

theorem exists_row (name_fits : nameWidth ≤ Value.widestColumn)
    (price_fits : priceWidth ≤ Value.widestColumn) :
    ∃ row, Item.row p ⟨.str name, price⟩ = .ok row :=
  ⟨_, (row_eq_ok_iff names prices written).2 ⟨⟨_, Value.columnWidth_natCast name_fits⟩,
    ⟨_, Value.columnWidth_natCast price_fits⟩, rfl⟩⟩

theorem toAscii_row {row : Text} (made : Item.row p ⟨.str name, price⟩ = .ok row) :
    Text.toAscii row =
      nameBytes nameWidth name.toText ++ priceBytes priceWidth amount ++ [0x0A] := by
  obtain ⟨-, -, rfl⟩ := (row_eq_ok_iff names prices written).1 made
  rw [Text.toAscii, List.map_append, List.map_append]
  rfl

end

/-- In columns of given widths, an item whose price is a finite number has a row as long as there is
room for the columns. The row is the name, cut or filled up to its column, the price in the nearest
hundredths, filled up to its own, and a line feed. It is as wide as its two columns exactly if the
price fits into its column and the part of the name that is shown has no line feed. -/
theorem row_columns {p : Profile} {nameWidth priceWidth : ℕ} (names : p.nameWidth = .int nameWidth)
    (prices : p.priceWidth = .int priceWidth) (name : CodePoints) {price : Value} {q : ℚ}
    (value : price.printedValue? = some q) :
    ∃ amount cents, price.fixedText = .ok amount ∧ Amount.hundredths? amount = some cents ∧
      IsRounded (100 * q) cents ∧
      (nameWidth ≤ Value.widestColumn → priceWidth ≤ Value.widestColumn →
        ∃ row, Item.row p ⟨.str name, price⟩ = .ok row) ∧
      ∀ row, Item.row p ⟨.str name, price⟩ = .ok row →
        Text.toAscii row =
            nameBytes nameWidth name.toText ++ priceBytes priceWidth amount ++ [0x0A] ∧
          (nameBytes nameWidth name.toText).length = nameWidth ∧
          (priceBytes priceWidth amount).length = max priceWidth (amount.length + 1) ∧
          0x0A ∉ priceBytes priceWidth amount ∧
          (FixedWidth (nameWidth + priceWidth) (Text.toAscii row) ↔
            '\n' ∉ name.toText.take nameWidth ∧ amount.length + 1 ≤ priceWidth) := by
  obtain ⟨amount, cents, written, read, rounded, one_line, -⟩ := Value.exists_fixedText value
  refine ⟨amount, cents, written, read, rounded, exists_row names prices written,
    fun row made => ?_⟩
  have bytes := toAscii_row names prices written made
  have name_length := length_nameBytes nameWidth name.toText
  have price_length := length_priceBytes priceWidth amount
  have price_line : 0x0A ∉ priceBytes priceWidth amount := newline_not_mem_priceBytes one_line
  refine ⟨bytes, name_length, price_length, price_line, ?_⟩
  rw [bytes, fixedWidth_append_iff, List.length_append, name_length, price_length, List.mem_append,
    or_iff_left price_line, newline_mem_nameBytes, and_comm]
  exact and_congr_right fun _ => by omega

theorem row_columns_refund :
    (Value.float (.finite true 1 (-3))).printedValue? = some (-1 / 8) ∧
      ∃ row, Item.row {} ⟨.ofText "Rückgeld: Glühbirne, groß, matt".toList,
          .float (.finite true 1 (-3))⟩ = .ok row ∧
        FixedWidth (24 + 8) (Text.toAscii row) := by
  have value : (Value.float (.finite true 1 (-3))).printedValue? = some (-1 / 8) := by
    simp [Value.printedValue?, Value.amount?, Amount.printedValue?, Amount.toBinary64,
      Binary64.value?, Binary64.signed]
    norm_num
  have names : ({} : Profile).nameWidth = .int (24 : ℕ) := rfl
  have prices : ({} : Profile).priceWidth = .int (8 : ℕ) := rfl
  obtain ⟨amount, cents, written, -, -, made, columns⟩ :=
    row_columns names prices (Text.toCodePoints "Rückgeld: Glühbirne, groß, matt".toList) value
  obtain ⟨row, made⟩ := made (by decide) (by decide)
  have amount_eq : amount = "-0.12".toList := by
    have printed : (Value.float (.finite true 1 (-3))).fixedText = .ok "-0.12".toList := by
      decide +kernel
    exact Except.ok.inj (written.symm.trans printed)
  obtain ⟨-, -, -, -, fixed_iff⟩ := columns row made
  refine ⟨value, row, made, fixed_iff.2 ⟨by decide +kernel, ?_⟩⟩
  rw [amount_eq]
  decide

/-- A million does not fit into the column of the price, which is not cut. -/
theorem wide_price_row :
    Item.row {} ⟨.ofText "A".toList, .int 1000000⟩ =
        .ok ('A' :: List.replicate 23 ' ' ++ "$1000000.00\n".toList) ∧
      ¬FixedWidth (24 + 8)
        (Text.toAscii ('A' :: List.replicate 23 ' ' ++ "$1000000.00\n".toList)) := by
  refine ⟨by decide +kernel, ?_⟩
  rintro ⟨body, same, size, -⟩
  have sizes := congrArg List.length same
  rw [List.length_append, size] at sizes
  exact absurd sizes (by decide)

/-! ## Reading a row -/

def printedPrice? (row : Text) : Option ℤ :=
  Amount.hundredths? (row.dropLast.rtakeWhile (· ≠ '$'))

theorem rtakeWhile_behind {front amount : Text} (no_dollar : '$' ∉ amount) :
    (front ++ '$' :: amount).rtakeWhile (· ≠ '$') = amount := by
  have behind : ∀ c ∈ amount.reverse, decide (c ≠ '$') = true := fun c mem =>
    decide_eq_true fun dollar => no_dollar (dollar ▸ List.mem_reverse.1 mem)
  rw [List.rtakeWhile, List.reverse_append, List.reverse_cons, List.append_assoc,
    List.takeWhile_append_of_pos behind]
  simp

theorem printedPrice?_row {p : Profile} {item : Item} {row : Text}
    (made : Item.row p item = .ok row) {q : ℚ} (value : item.price.printedValue? = some q) :
    ∃ cents, printedPrice? row = some cents ∧ IsRounded (100 * q) cents := by
  obtain ⟨amount, cents, written, read, rounded, -, no_dollar⟩ := Value.exists_fixedText value
  obtain ⟨name, -, made⟩ := bind_eq_ok.1 made
  obtain ⟨column, filled, made⟩ := bind_eq_ok.1 made
  obtain ⟨other, written', filled⟩ := bind_eq_ok.1 filled
  obtain ⟨size, -, filled⟩ := bind_eq_ok.1 filled
  obtain rfl : amount = other := Except.ok.inj (written.symm.trans written')
  cases filled
  cases made
  refine ⟨cents, ?_, rounded⟩
  rw [printedPrice?, List.dropLast_concat, List.leftpad, ← List.append_assoc,
    rtakeWhile_behind no_dollar, read]

end Item

end ReceiptPress

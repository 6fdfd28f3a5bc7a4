import Mathlib.Algebra.Order.Floor.Div
import ReceiptPress.Proofs.Text.Hexadecimal
import ReceiptPress.Stream.Report

namespace ReceiptPress

namespace Text

variable {t : Text}

theorem lines_of_not_mem (whole : '\n' ∉ t) : lines t = [t] := by
  induction t with
  | nil => rfl
  | cons c cs ih =>
    rw [List.mem_cons, not_or] at whole
    rw [lines, if_neg (Ne.symm whole.1), ih whole.2]

theorem lines_join {parts : List Text} (nonempty : parts ≠ []) (whole : ∀ p ∈ parts, '\n' ∉ p) :
    lines (join ['\n'] parts) = parts := by
  induction parts with
  | nil => exact absurd rfl nonempty
  | cons p rest ih =>
    have p_whole := lines_of_not_mem (whole p List.mem_cons_self)
    cases rest with
    | nil => rwa [join, List.intercalate_singleton]
    | cons next rest =>
      have behind := ih (List.cons_ne_nil _ _) fun q mem => whole q (List.mem_cons_of_mem _ mem)
      rw [join, List.intercalate_cons_cons, List.append_assoc, List.singleton_append,
        lines_append_newline, p_whole]
      exact congrArg (p :: ·) behind

theorem trim_padded {a z : Char} {m n : Nat} (opens : t.head? = some a) (first : isBlank a = false)
    (closes : t.getLast? = some z) (last : isBlank z = false) :
    trim (List.replicate m ' ' ++ t ++ List.replicate n ' ') = t := by
  have spaces (k : Nat) : ∀ c ∈ List.replicate k ' ', isBlank c = true := fun c mem => by
    rw [List.eq_of_mem_replicate mem]
    decide
  have front : (t ++ List.replicate n ' ').dropWhile isBlank = t ++ List.replicate n ' ' := by
    obtain ⟨s, rfl⟩ := List.head?_eq_some_iff.1 opens
    rw [List.cons_append, List.dropWhile_cons_of_neg (by simp [first])]
  have back : t.reverse.dropWhile isBlank = t.reverse := by
    obtain ⟨s, rfl⟩ := List.getLast?_eq_some_iff.1 closes
    rw [List.reverse_concat, List.dropWhile_cons_of_neg (by simp [last])]
  rw [trim, List.append_assoc, List.dropWhile_append_of_pos (spaces m), front, List.reverse_append,
    List.reverse_replicate, List.dropWhile_append_of_pos (spaces n), back, List.reverse_reverse]

end Text

namespace Bytes

/-! ## Blocks -/

theorem length_rows (width : Nat) (bytes : Bytes) :
    (rows width bytes).length = bytes.length ⌈/⌉ (width + 1) := by
  fun_induction rows width bytes with
  | case1 => simp
  | case2 b rest ih =>
    have step : rest.length + 1 + (width + 1) - 1 = rest.length + (width + 1) := by omega
    rw [List.length_cons, ih, List.length_cons, List.length_drop, Nat.ceilDiv_eq_add_pred_div,
      Nat.ceilDiv_eq_add_pred_div, step, Nat.add_div_right _ (Nat.succ_pos width)]
    rcases Nat.lt_or_ge rest.length width with short | long
    · have none : rest.length - width + (width + 1) - 1 = width := by omega
      rw [none, Nat.div_eq_of_lt (Nat.lt_succ_self width), Nat.div_eq_of_lt (by omega)]
    · have whole : rest.length - width + (width + 1) - 1 = rest.length := by omega
      rw [whole]

theorem getElem?_rows (width : Nat) (bytes : Bytes) (k : Nat) :
    (rows width bytes)[k]? =
      if k * (width + 1) < bytes.length then
        some ((bytes.drop (k * (width + 1))).take (width + 1))
      else none := by
  fun_induction rows width bytes generalizing k with
  | case1 => simp
  | case2 b rest ih =>
    cases k with
    | zero => simp
    | succ k =>
      have place : (k + 1) * (width + 1) = width + k * (width + 1) + 1 := by
        rw [Nat.succ_mul]
        omega
      rw [List.getElem?_cons_succ, ih, List.length_drop, List.drop_drop, place, List.drop_succ_cons,
        List.length_cons]
      exact if_congr (by omega) rfl rfl

theorem getElem?_dumpRows (width offset : Nat) (blocks : List Bytes) (k : Nat) :
    (dumpRows width offset blocks)[k]? =
      blocks[k]?.map (dumpRow width (offset + k * width)) := by
  induction blocks generalizing offset k with
  | nil => rfl
  | cons block rest ih =>
    cases k with
    | zero => simp [dumpRows]
    | succ k =>
      have place : offset + width + k * width = offset + (k + 1) * width := by
        rw [Nat.succ_mul]
        omega
      rw [dumpRows, List.getElem?_cons_succ, List.getElem?_cons_succ, ih, place]

/-! ## Rows taken apart -/

def beforeBar (row : Text) : Text := row.takeWhile (· ≠ '|')

def offsetColumn (row : Text) : Text := row.takeWhile (· ≠ ' ')

def rowBytes? (row : Text) : Option Bytes :=
  Text.ofPairs? Text.lowerHexValue? (Text.trim ((beforeBar row).dropWhile (· ≠ ' ')))

def characterColumn (row : Text) : Text := (row.dropWhile (· ≠ '|')).drop 1

structure RowOf (offset : Nat) (block : Bytes) (row : Text) : Prop where
  begins : Text.hex 8 offset <+: row
  offset : Text.ofHex? (offsetColumn row) = some offset
  bytes : rowBytes? row = some block
  characters : characterColumn row =
    block.map (fun b => if 0x20 ≤ b.toNat ∧ b.toNat ≤ 0x7E then Char.ofNat b.toNat else '.') ++
      ['|']

section

variable {width offset : Nat} {block : Bytes}

theorem hexDigit_ne {k : Nat} (small : k < 16) :
    Text.hexDigit k ≠ ' ' ∧ Text.hexDigit k ≠ '|' ∧ Text.hexDigit k ≠ '\n' := by
  have all : ∀ k < 16,
      Text.hexDigit k ≠ ' ' ∧ Text.hexDigit k ≠ '|' ∧ Text.hexDigit k ≠ '\n' := by decide
  exact all k small

theorem isBlank_hexDigit {k : Nat} (small : k < 16) : Text.isBlank (Text.hexDigit k) = false := by
  have all : ∀ k < 16, Text.isBlank (Text.hexDigit k) = false := by decide
  exact all k small

def byteColumn (width : Nat) (block : Bytes) : Text :=
  List.replicate 2 ' ' ++ Text.pairs Text.hexDigit block ++
    List.replicate (width * 3 - 1 - (3 * block.length - 1) + 2) ' '

theorem dumpRow_eq (width offset : Nat) (block : Bytes) :
    dumpRow width offset block =
      (Text.hex 8 offset ++ byteColumn width block) ++ '|' :: (block.map shownChar ++ ['|']) := by
  have columns : Text.join [' '] (block.map Text.hexPair) = Text.pairs Text.hexDigit block := rfl
  have size := @Text.length_pairs Text.hexDigit block
  rw [byteColumn, ← size, List.replicate_add, dumpRow, columns, List.rightpad]
  simp

theorem mem_left {c : Char} (mem : c ∈ Text.hex 8 offset ++ byteColumn width block) :
    c = ' ' ∨ ∃ k < 16, c = Text.hexDigit k := by
  rw [byteColumn, List.mem_append, List.mem_append, List.mem_append] at mem
  rcases mem with digit | (space | pair) | space
  · exact .inr (Text.mem_hex digit)
  · exact .inl (List.eq_of_mem_replicate space)
  · exact Text.mem_pairs pair
  · exact .inl (List.eq_of_mem_replicate space)

theorem ne_bar_of_mem_left {c : Char} (mem : c ∈ Text.hex 8 offset ++ byteColumn width block) :
    decide (c ≠ '|') = true := by
  rcases mem_left mem with rfl | ⟨k, small, rfl⟩
  · decide
  · exact decide_eq_true (hexDigit_ne small).2.1

theorem shownChar_eq (b : UInt8) :
    shownChar b = if 0x20 ≤ b.toNat ∧ b.toNat ≤ 0x7E then Char.ofNat b.toNat else '.' := by
  simp [shownChar, isGraphic]

theorem shownChar_ne_newline (b : UInt8) : shownChar b ≠ '\n' := by
  have graphic : ∀ n < 0x7F, 0x20 ≤ n → Char.ofNat n ≠ '\n' := by decide
  rw [shownChar_eq]
  split
  · rename_i bounds
    exact graphic _ (Nat.lt_succ_of_le bounds.2) bounds.1
  · decide

theorem newline_not_mem_dumpRow : '\n' ∉ dumpRow width offset block := by
  rw [dumpRow_eq, List.mem_append, List.mem_cons, List.mem_append (s := block.map shownChar),
    List.mem_singleton]
  rintro (left | bar | character | bar)
  · rcases mem_left left with space | ⟨k, small, digit⟩
    · cases space
    · exact (hexDigit_ne small).2.2 digit.symm
  · cases bar
  · obtain ⟨b, -, shown⟩ := List.mem_map.1 character
    exact shownChar_ne_newline b shown
  · cases bar

theorem beforeBar_dumpRow :
    beforeBar (dumpRow width offset block) = Text.hex 8 offset ++ byteColumn width block := by
  rw [dumpRow_eq, beforeBar, List.takeWhile_append_of_pos fun _ => ne_bar_of_mem_left]
  simp

theorem characterColumn_dumpRow :
    characterColumn (dumpRow width offset block) = block.map shownChar ++ ['|'] := by
  rw [dumpRow_eq, characterColumn, List.dropWhile_append_of_pos fun _ => ne_bar_of_mem_left]
  simp

theorem idxOf_bar_dumpRow (fits : block.length ≤ width) (positive : 0 < width)
    (near : offset < 2 ^ 32) : (dumpRow width offset block).idxOf '|' = 3 * width + 11 := by
  have digits : (Text.hex 8 offset).length = 8 := by
    have short : (Nat.toDigits 16 offset).length ≤ 8 :=
      (Nat.length_toDigits_le_iff (by decide) (by decide)).2 (by omega)
    rw [Text.hex, List.length_leftpad]
    omega
  have no_bar : '|' ∉ Text.hex 8 offset ++ byteColumn width block := fun mem =>
    of_decide_eq_true (ne_bar_of_mem_left mem) rfl
  rw [dumpRow_eq, List.idxOf_append_of_notMem no_bar, List.idxOf_cons_self,
    List.length_append, digits, byteColumn, List.length_append, List.length_append,
    Text.length_pairs, List.length_replicate, List.length_replicate]
  omega

theorem trim_byteColumn (nonempty : block ≠ []) :
    Text.trim (byteColumn width block) = Text.pairs Text.hexDigit block := by
  obtain ⟨b, rest, opens⟩ := List.exists_cons_of_ne_nil nonempty
  obtain ⟨front, z, closes⟩ := List.eq_nil_or_concat' block |>.resolve_left nonempty
  have first := isBlank_hexDigit (k := b.toNat / 16) (Nat.div_lt_of_lt_mul b.toNat_lt)
  have last := isBlank_hexDigit (k := z.toNat % 16) (Nat.mod_lt _ (by decide))
  refine Text.trim_padded ?_ first ?_ last
  · rw [opens, Text.head?_pairs]
  · rw [closes, Text.getLast?_pairs]

theorem rowOf_dumpRow (nonempty : block ≠ []) :
    RowOf offset block (dumpRow width offset block) := by
  have digits : ∀ c ∈ Text.hex 8 offset, decide (c ≠ ' ') = true := fun c mem => by
    obtain ⟨k, small, rfl⟩ := Text.mem_hex mem
    exact decide_eq_true (hexDigit_ne small).1
  have column : byteColumn width block = ' ' :: (' ' :: Text.pairs Text.hexDigit block ++
      List.replicate (width * 3 - 1 - (3 * block.length - 1) + 2) ' ') := rfl
  constructor
  case begins => exact ⟨_, (List.append_assoc ..).symm.trans (dumpRow_eq width offset block).symm⟩
  case offset =>
    rw [offsetColumn, dumpRow_eq, List.append_assoc, List.takeWhile_append_of_pos digits, column]
    simp [Text.ofHex?_hex]
  case bytes =>
    have read : Text.ofPairs? Text.lowerHexValue? (Text.pairs Text.hexDigit block) = some block :=
      Text.ofPairs?_pairs Text.lowerHexValue?_hexDigit block
    rw [rowBytes?, beforeBar_dumpRow, List.dropWhile_append_of_pos digits, column,
      List.dropWhile_cons_of_neg (by simp), ← column, trim_byteColumn nonempty, read]
  case characters => rw [characterColumn_dumpRow, List.map_congr_left fun b _ => shownChar_eq b]

end

/-! ## Dumps -/

def dumpLines (dump : Text) : List Text := if dump.isEmpty then [] else Text.lines dump

theorem exists_of_mem_dumpRows {width offset : Nat} {blocks : List Bytes} {row : Text}
    (mem : row ∈ dumpRows width offset blocks) :
    ∃ k block, blocks[k]? = some block ∧ row = dumpRow width (offset + k * width) block := by
  obtain ⟨k, found⟩ := List.mem_iff_getElem?.1 mem
  rw [getElem?_dumpRows] at found
  obtain ⟨block, at_k, rfl⟩ := Option.map_eq_some_iff.1 found
  exact ⟨k, block, at_k, rfl⟩

theorem dumpLines_dump (width : Nat) (bytes : Bytes) :
    dumpLines (dump width bytes) = dumpRows width 0 (rows (width - 1) bytes) := by
  have whole : ∀ row ∈ dumpRows width 0 (rows (width - 1) bytes), '\n' ∉ row := fun row mem => by
    obtain ⟨_, _, -, rfl⟩ := exists_of_mem_dumpRows mem
    exact newline_not_mem_dumpRow
  rw [dumpLines, dump]
  cases split : dumpRows width 0 (rows (width - 1) bytes) with
  | nil => rfl
  | cons row rest =>
    obtain ⟨k, block, -, made⟩ := exists_of_mem_dumpRows (split ▸ List.mem_cons_self)
    rw [split] at whole
    have joined := Text.lines_join (List.cons_ne_nil _ _) whole
    have filled : Text.join ['\n'] (row :: rest) ≠ [] := fun empty => by
      rw [empty, made, dumpRow_eq] at joined
      simp [Text.lines] at joined
    rw [if_neg (mt List.isEmpty_iff.1 filled), joined]

theorem mapM_rowBytes? (width offset : Nat) {blocks : List Bytes}
    (nonempty : ∀ block ∈ blocks, block ≠ []) :
    (dumpRows width offset blocks).mapM rowBytes? = some blocks := by
  induction blocks generalizing offset with
  | nil => rfl
  | cons block rest ih =>
    rw [List.forall_mem_cons] at nonempty
    rw [dumpRows, List.mapM_cons, (rowOf_dumpRow nonempty.1).bytes, ih _ nonempty.2]
    rfl

theorem length_dumpRows (width offset : Nat) (blocks : List Bytes) :
    (dumpRows width offset blocks).length = blocks.length := by
  induction blocks generalizing offset with
  | nil => rfl
  | cons block rest ih => rw [dumpRows, List.length_cons, List.length_cons, ih]

theorem ne_nil_of_mem_rows {width : Nat} {bytes block : Bytes} (mem : block ∈ rows width bytes) :
    block ≠ [] := by
  fun_induction rows width bytes with
  | case1 => cases mem
  | case2 b rest ih =>
    rcases List.mem_cons.1 mem with rfl | mem
    · exact List.cons_ne_nil _ _
    · exact ih mem

theorem block_of_getElem?_rows {width k : Nat} {bytes block : Bytes}
    (found : (rows width bytes)[k]? = some block) :
    k * (width + 1) < bytes.length ∧ block = (bytes.drop (k * (width + 1))).take (width + 1) := by
  rw [getElem?_rows] at found
  split at found
  · rename_i inside
    exact ⟨inside, (Option.some.inj found).symm⟩
  · cases found

theorem dump_nil (width : Nat) : dump width [] = [] := by
  rw [dump, rows]
  rfl

theorem dumpOf_of_fits {width : Nat} (positive : 0 < width) {bytes : Bytes}
    (fits : bytes = [] ∨ width * 3 - 1 ≤ Value.widestColumn) :
    Stream.dumpOf width bytes = .ok (dump width bytes) := by
  unfold Stream.dumpOf
  rw [if_neg (by omega)]
  by_cases empty : bytes = []
  · rw [empty, dump_nil, dump_nil, if_pos (Or.inr List.isEmpty_nil)]
  · have word : (Value.widestColumn : Int) < Value.wordEnd := by decide
    have room := fits.resolve_left empty
    have shown : ¬((width : Int) < 0 ∨ bytes.isEmpty = true) := by simp [empty]
    rw [if_neg shown, if_neg (by omega), if_neg (by omega), Int.toNat_natCast]

/-- A dump in rows of a positive width has as many rows as it takes. Each begins with its offset and
shows its own block of the bytes, both as pairs of digits and as characters, and the blocks that are
read from all rows make up the bytes again. The characters begin in one column unless the bytes run
on beyond eight digits of offset. -/
theorem dump_readable {width : Nat} (positive : 0 < width) (bytes : Bytes) :
    let rows := dumpLines (dump width bytes)
    rows.length = bytes.length ⌈/⌉ width ∧
      (∀ k row, rows[k]? = some row →
        RowOf (k * width) ((bytes.drop (k * width)).take width) row) ∧
      (rows.mapM rowBytes?).map List.flatten = some bytes ∧
      (bytes.length ≤ 2 ^ 32 → ∀ row ∈ rows, row.idxOf '|' = 3 * width + 11) ∧
      (bytes = [] ∨ width * 3 - 1 ≤ Value.widestColumn →
        Stream.dumpOf width bytes = .ok (dump width bytes)) := by
  obtain ⟨w, rfl⟩ : ∃ w, width = w + 1 := ⟨width - 1, by omega⟩
  dsimp only
  rw [dumpLines_dump, Nat.add_sub_cancel]
  refine ⟨?_, fun k row found => ?_, ?_, fun near row mem => ?_, dumpOf_of_fits positive⟩
  · rw [length_dumpRows, length_rows]
  · rw [getElem?_dumpRows] at found
    obtain ⟨block, at_k, rfl⟩ := Option.map_eq_some_iff.1 found
    have nonempty := ne_nil_of_mem_rows (List.mem_of_getElem? at_k)
    rw [Nat.zero_add, ← (block_of_getElem?_rows at_k).2]
    exact rowOf_dumpRow nonempty
  · rw [mapM_rowBytes? _ _ fun block => ne_nil_of_mem_rows, Option.map_some, flatten_rows]
  · obtain ⟨k, block, at_k, rfl⟩ := exists_of_mem_dumpRows mem
    obtain ⟨inside, rfl⟩ := block_of_getElem?_rows at_k
    refine idxOf_bar_dumpRow ?_ positive (by omega)
    exact List.length_take_le _ _

theorem dump_readable_bar :
    let bytes : Bytes := [0x41, 0x7C, 0x1B]
    let rows := dumpLines (dump 2 bytes)
    0 < 2 ∧ rows = ["00000000  41 7c  |A||".toList, "00000002  1b     |.|".toList] ∧
      rows.length = 3 ⌈/⌉ 2 ∧ (rows.mapM rowBytes?).map List.flatten = some bytes ∧
      ∀ row ∈ rows, row.idxOf '|' = 17 := by
  intro bytes rows
  have rows_eq : rows = ["00000000  41 7c  |A||".toList, "00000002  1b     |.|".toList] := by
    decide +kernel
  obtain ⟨count, -, read, column, -⟩ := @dump_readable 2 (by decide) bytes
  exact ⟨by decide, rows_eq, count, read, column (by decide)⟩

end Bytes

end ReceiptPress

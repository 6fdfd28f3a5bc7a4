import ReceiptPress.Proofs.Canvas
import ReceiptPress.Proofs.Settings
import ReceiptPress.Proofs.Stream.Framing

namespace ReceiptPress.Raster

/-! ## Dots -/

theorem testBit_foldl (dot : Nat → Bool) (bits : List Nat) (packed : UInt8) (j : Nat) :
    (bits.foldl
      (fun packed bit => if dot bit then packed ||| (0x80 >>> UInt8.ofNat bit) else packed)
      packed).toNat.testBit j =
      (packed.toNat.testBit j ||
        bits.any fun bit => dot bit && (0x80 >>> UInt8.ofNat bit : UInt8).toNat.testBit j) := by
  induction bits generalizing packed with
  | nil => simp
  | cons bit bits ih =>
    rw [List.foldl_cons, ih, List.any_cons]
    cases dot bit with
    | false => simp
    | true => rw [if_pos rfl, UInt8.toNat_or, Nat.testBit_or, Bool.true_and, Bool.or_assoc]

theorem testBit_pack (dot : Nat → Bool) {i : Nat} (h : i < 8) :
    (pack dot).toNat.testBit (7 - i) = dot i := by
  have mask : ∀ bit < 8, ∀ i < 8,
      (0x80 >>> UInt8.ofNat bit : UInt8).toNat.testBit (7 - i) = decide (bit = i) := by decide
  have blank : (0 : UInt8).toNat.testBit (7 - i) = false := Nat.zero_testBit _
  rw [pack, testBit_foldl, blank, Bool.false_or, Bool.eq_iff_iff, List.any_eq_true]
  constructor
  · rintro ⟨bit, mem, on⟩
    rw [mask bit (List.mem_range.1 mem) i h, Bool.and_eq_true, decide_eq_true_eq] at on
    exact on.2 ▸ on.1
  · intro on
    refine ⟨i, List.mem_range.2 h, ?_⟩
    rw [mask i h i h, on, decide_eq_true rfl]
    rfl

theorem getElem?_rows {α : Type} {row : Nat → List α} {size height y i : Nat}
    (length_row : ∀ y, (row y).length = size) (below : y < height) (within : i < size) :
    ((List.range height).flatMap row)[y * size + i]? = (row y)[i]? := by
  have length_rows (n : Nat) : ((List.range n).flatMap row).length = n * size := by
    simp only [List.length_flatMap, length_row]
    rw [List.map_const', List.sum_replicate_nat, List.length_range]
  induction height with
  | zero => exact absurd below (Nat.not_lt_zero y)
  | succ height ih =>
    rw [List.range_succ, List.flatMap_append, List.flatMap_singleton]
    rcases Nat.lt_succ_iff_lt_or_eq.1 below with above | rfl
    · have inside : y * size + i < height * size := by
        have rows_le := Nat.mul_le_mul_right size (Nat.succ_le_of_lt above)
        rw [Nat.succ_mul] at rows_le
        omega
      rw [List.getElem?_append_left (by rw [length_rows]; exact inside), ih above]
    · rw [List.getElem?_append_right (by rw [length_rows]; omega), length_rows,
        Nat.add_sub_cancel_left]

theorem length_header (widthBytes height : Nat) : (header widthBytes height).length = 8 := rfl

theorem Canvas.getElem?_image {c : Canvas} {x y : Nat} (left : x / 8 < c.widthBytes)
    (below : y < c.height) :
    c.image[8 + y * c.widthBytes + x / 8]? =
      some (pack fun bit => pixel c.width c.height (x / 8 * 8 + bit) y) := by
  have place : 8 + y * c.widthBytes + x / 8 =
      (header c.widthBytes c.height).length + (y * c.widthBytes + x / 8) := by
    rw [length_header, Nat.add_assoc]
  rw [image, place, List.getElem?_append_right (Nat.le_add_right _ _), Nat.add_sub_cancel_left,
    body, getElem?_rows (by simp) below left, List.getElem?_map, List.getElem?_range left]
  rfl

/-! ## Dimensions -/

theorem canvas_of_whole {p : Profile} {w h : Int} (width_eq : p.dotWidth = .int w)
    (height_eq : p.logoHeight = .int h) :
    canvas p =
      if w ≤ 0 ∨ h ≤ 0 then label p >>= fun l => .error (.rasterNotPositive l)
      else if w % 8 ≠ 0 then p.dotWidth.text >>= fun t => .error (.rasterNotAligned t.toText)
      else if 8 * 65535 < w ∨ 65535 < h then label p >>= fun l => .error (.rasterTooLarge l)
      else label p >>= fun l => .ok ⟨w.toNat, h.toNat, l⟩ := by
  have width : dimension p.dotWidth = .ok (.whole w) := by rw [width_eq]; rfl
  have height : dimension p.logoHeight = .ok (.whole h) := by rw [height_eq]; rfl
  unfold canvas
  simp only [width, height, ok_bind, throw_bind, isTooSmall_whole, Amount.isMultipleOf8,
    compareInt_whole]
  by_cases width_pos : w ≤ 0
  · simp only [width_pos, true_or, if_true]
  by_cases height_pos : h ≤ 0
  · simp only [width_pos, height_pos, or_true, if_true, if_false]
  by_cases aligned : w % 8 = 0
  · simp [width_pos, height_pos, aligned]
    rfl
  · simp [width_pos, height_pos, aligned]

theorem family_of_refusal {α : Type} {m : Except Fault α} {cause : α → Fault} {f : Fault}
    (encoder : ∀ a, (cause a).family = .encoder)
    (refused : (m >>= fun a => .error (cause a) : Except Fault Canvas) = .error f) :
    f.family = .encoder ∨ m = .error f := by
  rcases bind_eq_error.1 refused with unworded | ⟨a, -, worded⟩
  · exact .inr unworded
  · cases worded
    exact .inl (encoder a)

section Whole

variable {p : Profile} {w h : Int} (width_eq : p.dotWidth = .int w)
  (height_eq : p.logoHeight = .int h)

include width_eq height_eq

theorem label_of_isShort (width_short : Numeral.IsShort w) (height_short : Numeral.IsShort h) :
    ∃ l, label p = .ok l := by
  obtain ⟨width, width_text⟩ := Value.text_int_of_isShort width_short
  obtain ⟨height, height_text⟩ := Value.text_int_of_isShort height_short
  rw [label, width_eq, height_eq, width_text, height_text]
  exact ⟨_, rfl⟩

theorem label_error {f : Fault} (refused : label p = .error f) :
    f = .tooLongToWrite ∧ ¬(Numeral.IsShort w ∧ Numeral.IsShort h) := by
  rw [label, bind_eq_error, width_eq, height_eq] at refused
  rcases refused with refused | ⟨_, -, refused⟩
  · obtain ⟨rfl, long⟩ := Value.text_int_error refused
    exact ⟨rfl, fun short => long short.1⟩
  · obtain ⟨rfl, long⟩ := Value.text_int_error (bind_pure_eq_error.1 refused)
    exact ⟨rfl, fun short => long short.2⟩

theorem logo_error {f : Fault} (refused : logo p = .error f) :
    f.family = .encoder ∨ f = .tooLongToWrite ∧ ¬(Numeral.IsShort w ∧ Numeral.IsShort h) := by
  have refused : canvas p = .error f := map_eq_error.1 refused
  rw [canvas_of_whole width_eq height_eq] at refused
  split at refused
  · exact (family_of_refusal (fun _ => rfl) refused).imp_right (label_error width_eq height_eq)
  split at refused
  · refine (family_of_refusal (fun _ => rfl) refused).imp_right fun unwritten => ?_
    rw [width_eq] at unwritten
    obtain ⟨rfl, long⟩ := Value.text_int_error unwritten
    exact ⟨rfl, fun short => long short.1⟩
  split at refused
  · exact (family_of_refusal (fun _ => rfl) refused).imp_right (label_error width_eq height_eq)
  · exact .inr (label_error width_eq height_eq (bind_pure_eq_error.1 refused))

theorem canvas_ok_of_whole {c : Canvas} (drawn : canvas p = .ok c) :
    0 < w ∧ 0 < h ∧ w % 8 = 0 ∧ w ≤ 8 * 65535 ∧ h ≤ 65535 ∧ w = c.width ∧ h = c.height := by
  obtain ⟨_, _, width_read, height_read, checked⟩ := canvas_ok drawn
  rw [width_eq] at width_read
  rw [height_eq] at height_read
  cases width_read
  cases height_read
  omega

theorem exists_logo_iff :
    (∃ image, logo p = .ok image) ↔ 0 < w ∧ 0 < h ∧ w % 8 = 0 ∧ w / 8 ≤ 65535 ∧ h ≤ 65535 := by
  constructor
  · rintro ⟨image, made⟩
    obtain ⟨c, drawn, -⟩ := map_eq_ok.1 made
    have checked := canvas_ok_of_whole width_eq height_eq drawn
    omega
  · rintro ⟨width_pos, height_pos, aligned, width_le, height_le⟩
    have room : 524280 < Nat.pow 10 Numeral.digitLimit := by decide +kernel
    have width_short : Numeral.IsShort w := Nat.lt_of_le_of_lt (by omega) room
    have height_short : Numeral.IsShort h := Nat.lt_of_le_of_lt (by omega) room
    obtain ⟨l, labelled⟩ := label_of_isShort width_eq height_eq width_short height_short
    have made : canvas p = .ok ⟨w.toNat, h.toNat, l⟩ := by
      rw [canvas_of_whole width_eq height_eq, if_neg (by omega), if_neg (by omega),
        if_neg (by omega), labelled]
      rfl
    exact ⟨_, congrArg (Canvas.image <$> ·) made⟩

end Whole

/-! ## Images -/

theorem headerField_int {n : Nat} (n_lt : n < 65536) : headerField (.int n) = .ok n := by
  have in_word : ¬(Value.wordEnd ≤ (n : Int) ∨ (n : Int) < -Value.wordEnd) := by
    rw [Value.wordEnd]
    omega
  simp only [headerField, Value.whole?]
  rw [if_neg in_word, if_pos (by omega), Int.toNat_natCast]

theorem headerOf_int {widthBytes height : Nat} (width_lt : widthBytes < 65536)
    (height_lt : height < 65536) :
    headerOf (.int widthBytes) (.int height) = .ok (header widthBytes height) := by
  rw [headerOf, headerField_int width_lt, headerField_int height_lt]
  rfl

/-- A logo is made exactly for whole dimensions that are positive, fill whole bytes and fit the
header. Its image holds the header and behind it the dots, row by row and eight to a byte, and reads
as one token whatever follows. -/
theorem logo_of_whole {p : Profile} {w h : Int} (width_eq : p.dotWidth = .int w)
    (height_eq : p.logoHeight = .int h) :
    ((∃ image, logo p = .ok image) ↔
      0 < w ∧ 0 < h ∧ w % 8 = 0 ∧ w / 8 ≤ 65535 ∧ h ≤ 65535) ∧
    (∀ f, logo p = .error f →
      f.family = .encoder ∨ f = .tooLongToWrite ∧ ¬(Numeral.IsShort w ∧ Numeral.IsShort h)) ∧
    ∀ image, logo p = .ok image → ∃ widthBytes height : Nat, w = 8 * widthBytes ∧ h = height ∧
      image.length = 8 + widthBytes * height ∧
      headerOf (.int widthBytes) (.int height) = .ok (image.take 8) ∧
      (∃ wl wh hl hh : UInt8,
        image.take 8 = rasterOpening ++ [rasterNormalMode, wl, wh, hl, hh] ∧
        wl.toNat + 256 * wh.toNat = widthBytes ∧ hl.toNat + 256 * hh.toNat = height) ∧
      (∀ x < 8 * widthBytes, ∀ y < height, ∃ b, image[8 + y * widthBytes + x / 8]? = some b ∧
        b.toNat.testBit (7 - x % 8) = pixel (8 * widthBytes) height x y) ∧
      ∀ rest, Stream.listing (image ++ rest) =
        "[RASTER ".toList ++ Text.ofNat (8 * widthBytes) ++ 'x' :: Text.ofNat height ++
          ']' :: Stream.listing rest := by
  refine ⟨exists_logo_iff width_eq height_eq, fun f => logo_error width_eq height_eq, ?_⟩
  intro image made
  obtain ⟨c, drawn, rfl⟩ := map_eq_ok.1 made
  obtain ⟨width_lt, height_lt⟩ := canvas_lt drawn
  obtain ⟨width_pos, height_pos, aligned, -, -, rfl, rfl⟩ :=
    canvas_ok_of_whole width_eq height_eq drawn
  have width_whole : c.width = 8 * c.widthBytes := by
    rw [Canvas.widthBytes]
    omega
  have opening : c.image.take 8 = header c.widthBytes c.height := rfl
  refine ⟨c.widthBytes, c.height, by omega, rfl, ?_, ?_, ?_, ?_, ?_⟩
  · rw [Canvas.image, List.length_append, c.length_body, length_header]
  · rw [opening, headerOf_int width_lt height_lt]
  · exact ⟨_, _, _, _, rfl, Bytes.toNat_ofWord width_lt, Bytes.toNat_ofWord height_lt⟩
  · intro x left y below
    refine ⟨_, c.getElem?_image (by omega) below, ?_⟩
    have dot : x / 8 * 8 + x % 8 = x := by omega
    rw [testBit_pack _ (Nat.mod_lt x (by decide)), dot, width_whole]
  · intro rest
    have read := Stream.tokens_image width_lt height_lt c.length_body rest
    rw [Canvas.image, Stream.listing_of_tokens read, Stream.Token.text_raster, List.append_assoc,
      Nat.mul_comm c.widthBytes]
    rfl

theorem logo_of_whole_small :
    let p : Profile := { dotWidth := .int 48, logoHeight := .int 24 }
    p.dotWidth = .int 48 ∧ p.logoHeight = .int 24 ∧
      ∃ image, logo p = .ok image ∧ image.length = 152 ∧
        (∃ b, image[83]? = some b ∧ b.toNat.testBit 7 = true) ∧
        Stream.listing (image ++ [0x41]) = "[RASTER 48x24]A".toList := by
  intro p
  obtain ⟨made_iff, -, made⟩ := logo_of_whole (p := p) (w := 48) (h := 24) rfl rfl
  obtain ⟨image, image_eq⟩ := made_iff.2 (by decide)
  obtain ⟨widthBytes, height, width_eq, height_eq, length_eq, -, -, dots, listed⟩ :=
    made image image_eq
  obtain rfl : widthBytes = 6 := by omega
  obtain rfl : height = 24 := by omega
  obtain ⟨b, place, dot⟩ := dots 24 (by decide) 12 (by decide)
  refine ⟨rfl, rfl, image, image_eq, length_eq, ⟨b, place, dot.trans (by decide)⟩, ?_⟩
  rw [listed]
  decide

end ReceiptPress.Raster

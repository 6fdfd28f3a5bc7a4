import ReceiptPress.Barcode
import ReceiptPress.Proofs.Stream.Framing
import ReceiptPress.Proofs.Tag.Rendering

namespace ReceiptPress

theorem CodePoint.isAscii_iff (p : CodePoint) : p.isAscii = true ↔ p.toNat < 0x80 := by
  cases p with
  | char c => exact decide_eq_true_iff
  | surrogate place => exact iff_of_false Bool.false_ne_true (by rw [toNat]; omega)

theorem CodePoints.foreignRun?_eq_none_iff {s : CodePoints} :
    s.foreignRun? = none ↔ ∀ p ∈ s, p.toNat < 0x80 := by
  simp only [← CodePoint.isAscii_iff]
  induction s with
  | nil => exact iff_of_true rfl nofun
  | cons p ps ih =>
    rw [List.forall_mem_cons, ← ih, foreignRun?, List.dropWhile_cons]
    cases p.isAscii with
    | false => exact iff_of_false nofun fun all_ascii => nomatch all_ascii.1
    | true =>
      rw [if_pos rfl, foreignRun?]
      cases ps.dropWhile CodePoint.isAscii with
      | nil => simp
      | cons q qs => simp

theorem CodePoints.exists_text_of_ascii {s : CodePoints} (ascii : ∀ p ∈ s, p.toNat < 0x80) :
    ∃ t : Text, s = t.toCodePoints ∧ ∀ c ∈ t, Text.isAscii c = true := by
  induction s with
  | nil => exact ⟨[], rfl, nofun⟩
  | cons p ps ih =>
    obtain ⟨t, rfl, others⟩ := ih fun q mem => ascii q (List.mem_cons_of_mem p mem)
    have first := ascii p List.mem_cons_self
    cases p with
    | char c => exact ⟨c :: t, rfl, List.forall_mem_cons.2 ⟨decide_eq_true first, others⟩⟩
    | surrogate place => exact absurd first (by rw [CodePoint.toNat]; omega)

theorem Stream.Token.payloadChar_asciiByte {c : Char} (ascii : Text.isAscii c = true) :
    payloadChar (Text.asciiByte c) = c := by
  have same := Text.ofNat_asciiByte c
  have small : c.toNat < 128 := of_decide_eq_true ascii
  have below : (Text.asciiByte c).toNat < 128 := by
    rw [Text.asciiByte, if_pos ascii, UInt8.toNat_ofNat']
    omega
  rw [payloadChar, if_pos below, same, if_pos ascii]

namespace Barcode

variable {s : CodePoints} {bytes : Bytes}

theorem ofText_eq_ok_iff :
    ofText s = .ok bytes ↔
      (∀ p ∈ s, p.toNat < 0x80) ∧ 1 ≤ s.length ∧ s.length ≤ 255 ∧
        barcodeOpening ++ code128Symbology :: UInt8.ofNat s.length :: Text.toAscii s.toText =
          bytes := by
  rw [← CodePoints.foreignRun?_eq_none_iff, ofText]
  cases s.foreignRun? with
  | some run => exact iff_of_false nofun fun checked => nomatch checked.1
  | none =>
    by_cases empty : s.isEmpty
    · rw [List.isEmpty_iff.1 empty]
      exact iff_of_false nofun fun checked => absurd checked.2.1 (by decide)
    by_cases long : maxPayload < s.length
    · simp only [empty, long, if_true, Bool.false_eq_true, if_false]
      exact iff_of_false nofun fun checked => Nat.not_le.2 long checked.2.2.1
    · have some : 1 ≤ s.length := List.length_pos_iff.2 (mt List.isEmpty_iff.2 empty)
      simp only [empty, long, Bool.false_eq_true, if_false]
      exact ⟨fun made => ⟨trivial, some, Nat.not_lt.1 long, Except.ok.inj made⟩,
        fun checked => congrArg Except.ok checked.2.2.2⟩

theorem ofText_error {f : Fault} (refused : ofText s = .error f) : f.family = .encoder := by
  unfold ofText at refused
  split at refused
  · cases refused
    rfl
  split at refused
  · cases refused
    rfl
  split at refused
  · cases refused
    rfl
  · cases refused

/-- A barcode is made exactly for payloads of between one and 255 ASCII characters. Its fourth byte
counts those behind it, and it reads as its payload whatever follows. -/
theorem ofText_listed (s : CodePoints) :
    ((∃ bytes, ofText s = .ok bytes) ↔
      1 ≤ s.length ∧ s.length ≤ 255 ∧ ∀ p ∈ s, p.toNat < 0x80) ∧
    (∀ f, ofText s = .error f → f.family = .encoder) ∧
    ∀ bytes, ofText s = .ok bytes →
      bytes[2]? = some 73 ∧ (∃ size, bytes[3]? = some size ∧ size.toNat = (bytes.drop 4).length) ∧
        ∃ t : Text, s = t.toCodePoints ∧ ∀ rest, Stream.listing (bytes ++ rest) =
          "[BARCODE ".toList ++ t ++ ']' :: Stream.listing rest := by
  refine ⟨⟨?_, ?_⟩, fun f => ofText_error, ?_⟩
  · rintro ⟨bytes, made⟩
    obtain ⟨ascii, some, short, -⟩ := ofText_eq_ok_iff.1 made
    exact ⟨some, short, ascii⟩
  · rintro ⟨some, short, ascii⟩
    exact ⟨_, ofText_eq_ok_iff.2 ⟨ascii, some, short, rfl⟩⟩
  intro bytes made
  obtain ⟨ascii, -, short, rfl⟩ := ofText_eq_ok_iff.1 made
  obtain ⟨t, rfl, plain⟩ := CodePoints.exists_text_of_ascii ascii
  rw [Text.length_toCodePoints] at short
  rw [Text.length_toCodePoints, CodePoints.toText_toCodePoints, ← Text.length_toAscii t]
  have fits : (Text.toAscii t).length < 256 := by
    rw [Text.length_toAscii]
    omega
  refine ⟨rfl, ⟨_, rfl, ?_⟩, t, rfl, fun rest => ?_⟩
  · rw [UInt8.toNat_ofNat', Nat.mod_eq_of_lt fits]
    rfl
  · have shown : (Text.toAscii t).map Stream.Token.payloadChar = t := by
      rw [Text.toAscii, List.map_map]
      have back (c : Char) (mem : c ∈ t) : Stream.Token.payloadChar (Text.asciiByte c) = id c :=
        Stream.Token.payloadChar_asciiByte (plain c mem)
      exact (List.map_congr_left back).trans (List.map_id t)
    rw [Stream.listing_of_tokens (Stream.tokens_barcode fits rest), Stream.Token.text_barcode,
      shown, List.append_assoc]
    rfl

end Barcode

end ReceiptPress

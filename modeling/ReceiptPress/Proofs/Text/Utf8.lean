import ReceiptPress.Text.Utf8

namespace ReceiptPress.Utf8

theorem toNat_ofNat_of_lt {n : Nat} (small : n < 0x100) : (UInt8.ofNat n).toNat = n :=
  UInt8.toNat_ofNat_of_lt small

theorem continuation?_ofNat (n : Nat) :
    continuation? (UInt8.ofNat (0x80 + n % 64)) = some (n % 64) := by
  rw [continuation?, toNat_ofNat_of_lt (by omega), if_pos (by omega), Nat.add_sub_cancel_left]

theorem charAtLeast?_toNat {least : Nat} {c : Char} (enough : least ≤ c.toNat) :
    charAtLeast? least c.toNat = some c := by
  have valid : c.toNat.isValidChar := c.valid
  have same : Char.ofNatAux c.toNat valid = c := (dif_pos valid).symm.trans (Char.ofNat_toNat c)
  rw [charAtLeast?, dif_pos valid, if_pos enough, same]

section

variable {before : Text} {a b c d : UInt8} {rest : List UInt8} {x y z : Nat} {read : Char}

theorem decodeOnto_one (high : a.toNat < 0x80) :
    decodeOnto before (a :: rest) = decodeOnto (Char.ofNat a.toNat :: before) rest := by
  conv => lhs; rw [decodeOnto.eq_def]
  exact if_pos high

theorem decodeOnto_two (low : 0xC0 ≤ a.toNat) (high : a.toNat < 0xE0)
    (second : continuation? b = some x)
    (whole : charAtLeast? 0x80 ((a.toNat - 0xC0) * 64 + x) = some read) :
    decodeOnto before (a :: b :: rest) = decodeOnto (read :: before) rest := by
  rw [decodeOnto, if_neg (by omega), if_neg (by omega), if_pos high]
  simp only [second, Option.bind_eq_bind, Option.bind_some, whole]

theorem decodeOnto_three (low : 0xE0 ≤ a.toNat) (high : a.toNat < 0xF0)
    (second : continuation? b = some x) (third : continuation? c = some y)
    (whole : charAtLeast? 0x800 ((a.toNat - 0xE0) * 4096 + x * 64 + y) = some read) :
    decodeOnto before (a :: b :: c :: rest) = decodeOnto (read :: before) rest := by
  rw [decodeOnto, if_neg (by omega), if_neg (by omega), if_neg (by omega), if_pos high]
  simp only [second, third, Option.bind_eq_bind, Option.bind_some, whole]

theorem decodeOnto_four (low : 0xF0 ≤ a.toNat) (high : a.toNat < 0xF8)
    (second : continuation? b = some x) (third : continuation? c = some y)
    (fourth : continuation? d = some z)
    (whole : charAtLeast? 0x10000 ((a.toNat - 0xF0) * 262144 + x * 4096 + y * 64 + z) =
      some read) :
    decodeOnto before (a :: b :: c :: d :: rest) = decodeOnto (read :: before) rest := by
  rw [decodeOnto, if_neg (by omega), if_neg (by omega), if_neg (by omega), if_neg (by omega),
    if_pos high]
  -- One bind after another: the kernel must not be asked to compute with the large factors.
  dsimp only
  rw [second, third, fourth, Option.bind_eq_bind, Option.bind_some, Option.bind_eq_bind,
    Option.bind_some, Option.bind_some, whole, Option.bind_some]

end

theorem decodeOnto_encodeChar (before : Text) (c : Char) (rest : List UInt8) :
    decodeOnto before (encodeChar c ++ rest) = decodeOnto (c :: before) rest := by
  have last : c.toNat < 0x110000 := by
    have valid : c.toNat.isValidChar := c.valid
    rcases valid with small | ⟨-, large⟩ <;> omega
  unfold encodeChar
  dsimp only
  split
  · have lead := toNat_ofNat_of_lt (n := c.toNat) (by omega)
    rw [List.singleton_append, decodeOnto_one (by omega), lead, Char.ofNat_toNat]
  · split
    · have lead := toNat_ofNat_of_lt (n := 0xC0 + c.toNat / 64) (by omega)
      have whole : (0xC0 + c.toNat / 64 - 0xC0) * 64 + c.toNat % 64 = c.toNat := by omega
      refine decodeOnto_two (by omega) (by omega) (continuation?_ofNat _) ?_
      rw [lead, whole, charAtLeast?_toNat (by omega)]
    · split
      · have lead := toNat_ofNat_of_lt (n := 0xE0 + c.toNat / 4096) (by omega)
        have whole : (0xE0 + c.toNat / 4096 - 0xE0) * 4096 + c.toNat / 64 % 64 * 64 +
            c.toNat % 64 = c.toNat := by omega
        refine decodeOnto_three (by omega) (by omega) (continuation?_ofNat _)
          (continuation?_ofNat _) ?_
        rw [lead, whole, charAtLeast?_toNat (by omega)]
      · have lead := toNat_ofNat_of_lt (n := 0xF0 + c.toNat / 262144) (by omega)
        have whole : (0xF0 + c.toNat / 262144 - 0xF0) * 262144 + c.toNat / 4096 % 64 * 4096 +
            c.toNat / 64 % 64 * 64 + c.toNat % 64 = c.toNat := by omega
        refine decodeOnto_four (by omega) (by omega) (continuation?_ofNat _)
          (continuation?_ofNat _) (continuation?_ofNat _) ?_
        rw [lead, whole, charAtLeast?_toNat (by omega)]

theorem decode_encode (t : Text) : decode (encode t) = some t := by
  have onto (before : Text) : decodeOnto before (encode t) = some (before.reverse ++ t) := by
    induction t generalizing before with
    | nil => rw [List.append_nil]; rfl
    | cons c t ih =>
      rw [encode, List.flatMap_cons, decodeOnto_encodeChar]
      exact (ih (c :: before)).trans (by simp)
  exact onto []

end ReceiptPress.Utf8

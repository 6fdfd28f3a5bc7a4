import ReceiptPress.Text.Basic

namespace ReceiptPress.Utf8

def encodeChar (c : Char) : List UInt8 :=
  let n := c.toNat
  if n < 0x80 then [UInt8.ofNat n]
  else if n < 0x800 then [UInt8.ofNat (0xC0 + n / 64), UInt8.ofNat (0x80 + n % 64)]
  else if n < 0x10000 then
    [UInt8.ofNat (0xE0 + n / 4096), UInt8.ofNat (0x80 + n / 64 % 64), UInt8.ofNat (0x80 + n % 64)]
  else
    [UInt8.ofNat (0xF0 + n / 262144), UInt8.ofNat (0x80 + n / 4096 % 64),
      UInt8.ofNat (0x80 + n / 64 % 64), UInt8.ofNat (0x80 + n % 64)]

def encode (t : Text) : List UInt8 := t.flatMap encodeChar

def continuation? (b : UInt8) : Option Nat :=
  if 0x80 ≤ b.toNat ∧ b.toNat < 0xC0 then some (b.toNat - 0x80) else none

def charAtLeast? (least n : Nat) : Option Char :=
  if h : n.isValidChar then
    if least ≤ n then some (Char.ofNatAux n h) else none
  else none

def decodeOnto (before : Text) : List UInt8 → Option Text
  | [] => some before.reverse
  | a :: rest =>
    if a.toNat < 0x80 then decodeOnto (Char.ofNat a.toNat :: before) rest
    else if a.toNat < 0xC0 then none
    else if a.toNat < 0xE0 then
      match rest with
      | b :: rest => do
        let x ← continuation? b
        let c ← charAtLeast? 0x80 ((a.toNat - 0xC0) * 64 + x)
        decodeOnto (c :: before) rest
      | _ => none
    else if a.toNat < 0xF0 then
      match rest with
      | b :: c :: rest => do
        let x ← continuation? b
        let y ← continuation? c
        let c ← charAtLeast? 0x800 ((a.toNat - 0xE0) * 4096 + x * 64 + y)
        decodeOnto (c :: before) rest
      | _ => none
    else if a.toNat < 0xF8 then
      match rest with
      | b :: c :: d :: rest => do
        let x ← continuation? b
        let y ← continuation? c
        let z ← continuation? d
        let c ← charAtLeast? 0x10000 ((a.toNat - 0xF0) * 262144 + x * 4096 + y * 64 + z)
        decodeOnto (c :: before) rest
      | _ => none
    else none

def decode (bytes : List UInt8) : Option Text := decodeOnto [] bytes

end ReceiptPress.Utf8

import ReceiptPress.Text.Basic

namespace ReceiptPress.Text

def hexDigit (n : Nat) : Char := Nat.digitChar n

def upperHexDigit (n : Nat) : Char := (Nat.digitChar n).toUpper

def hex (width n : Nat) : Text := (Nat.toDigits 16 n).leftpad width '0'

def hexPair (b : UInt8) : Text := [hexDigit (b.toNat / 16), hexDigit (b.toNat % 16)]

def upperHexPair (b : UInt8) : Text := [upperHexDigit (b.toNat / 16), upperHexDigit (b.toNat % 16)]

def hexValue? (c : Char) : Option Nat :=
  let n := c.toNat
  if 48 ≤ n ∧ n ≤ 57 then some (n - 48)
  else if 97 ≤ n ∧ n ≤ 102 then some (n - 87)
  else if 65 ≤ n ∧ n ≤ 70 then some (n - 55)
  else none

end ReceiptPress.Text

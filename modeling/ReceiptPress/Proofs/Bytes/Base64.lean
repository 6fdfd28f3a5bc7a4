import ReceiptPress.Bytes.Base64

namespace ReceiptPress.Bytes

def base64Value? (c : Char) : Option Nat :=
  let n := c.toNat
  if 65 ≤ n ∧ n ≤ 90 then some (n - 65)
  else if 97 ≤ n ∧ n ≤ 122 then some (n - 97 + 26)
  else if 48 ≤ n ∧ n ≤ 57 then some (n - 48 + 52)
  else if c = '+' then some 62
  else if c = '/' then some 63
  else none

def ofBase64? : Text → Option Bytes
  | [] => some []
  | [a, b, '=', '='] => do
    let n := (← base64Value? a) * 64 + (← base64Value? b)
    return [UInt8.ofNat (n / 16)]
  | [a, b, c, '='] => do
    let n := (← base64Value? a) * 4096 + (← base64Value? b) * 64 + (← base64Value? c)
    return [UInt8.ofNat (n / 1024), UInt8.ofNat (n / 4)]
  | a :: b :: c :: d :: rest => do
    let n := (← base64Value? a) * 262144 + (← base64Value? b) * 4096 + (← base64Value? c) * 64 +
      (← base64Value? d)
    return UInt8.ofNat (n / 65536) :: UInt8.ofNat (n / 256) :: UInt8.ofNat n :: (← ofBase64? rest)
  | _ => none

theorem base64Value?_base64Digit {n : Nat} (small : n < 64) :
    base64Value? (base64Digit n) = some n := by
  have all : ∀ k < 64, base64Value? (base64Digit k) = some k := by decide
  exact all n small

theorem base64Digit_ne {n : Nat} (small : n < 64) : base64Digit n ≠ '=' := by
  intro filled
  have value := base64Value?_base64Digit small
  rw [filled] at value
  cases value

theorem ofNat_eq {n : Nat} {b : UInt8} (same : n % 256 = b.toNat) : UInt8.ofNat n = b :=
  UInt8.toNat_inj.1 (UInt8.toNat_ofNat'.trans same)

theorem ofBase64?_base64 (bytes : Bytes) : ofBase64? (base64 bytes) = some bytes := by
  fun_induction base64 bytes with
  | case1 => rfl
  | case2 a n =>
    have below := a.toNat_lt
    have first := base64Value?_base64Digit (n := n / 262144) (by omega)
    have second := base64Value?_base64Digit (n := n / 4096 % 64) (by omega)
    have byte : UInt8.ofNat ((n / 262144 * 64 + n / 4096 % 64) / 16) = a := ofNat_eq (by omega)
    simp [ofBase64?, first, second, byte]
  | case3 a b n =>
    have below := a.toNat_lt
    have below' := b.toNat_lt
    have first := base64Value?_base64Digit (n := n / 262144) (by omega)
    have second := base64Value?_base64Digit (n := n / 4096 % 64) (by omega)
    have third := base64Value?_base64Digit (n := n / 64 % 64) (by omega)
    have ends := base64Digit_ne (n := n / 64 % 64) (by omega)
    have byte : UInt8.ofNat ((n / 262144 * 4096 + n / 4096 % 64 * 64 + n / 64 % 64) / 1024) = a :=
      ofNat_eq (by omega)
    have byte' : UInt8.ofNat ((n / 262144 * 4096 + n / 4096 % 64 * 64 + n / 64 % 64) / 4) = b :=
      ofNat_eq (by omega)
    simp [ofBase64?, first, second, third, byte, byte']
  | case4 a b c rest n ih =>
    have below := a.toNat_lt
    have below' := b.toNat_lt
    have below'' := c.toNat_lt
    have first := base64Value?_base64Digit (n := n / 262144) (by omega)
    have second := base64Value?_base64Digit (n := n / 4096 % 64) (by omega)
    have third := base64Value?_base64Digit (n := n / 64 % 64) (by omega)
    have fourth := base64Value?_base64Digit (n := n % 64) (by omega)
    have ends := base64Digit_ne (n := n % 64) (by omega)
    have whole : n / 262144 * 262144 + n / 4096 % 64 * 4096 + n / 64 % 64 * 64 + n % 64 = n := by
      omega
    have byte : UInt8.ofNat (n / 65536) = a := ofNat_eq (by omega)
    have byte' : UInt8.ofNat (n / 256) = b := ofNat_eq (by omega)
    have byte'' : UInt8.ofNat n = c := ofNat_eq (by omega)
    simp [ofBase64?, first, second, third, fourth, ends, whole, byte, byte', byte'', ih,
      -UInt8.ofNat_add]

end ReceiptPress.Bytes

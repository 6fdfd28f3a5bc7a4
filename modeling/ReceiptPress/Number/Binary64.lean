import ReceiptPress.Number.Rounding

/-!
# Binary64 numbers

A finite number is a sign and a magnitude `mantissa * 2 ^ exponent`, kept exact. Every number made
here comes from rounding a quotient once to 53 bits, ties to the even mantissa: below the smallest
exponent it loses bits, beyond the largest it becomes infinite.
-/

namespace ReceiptPress

inductive Binary64 where
  | finite (negative : Bool) (mantissa : Nat) (exponent : Int)
  | infinite (negative : Bool)
  | nan
  deriving DecidableEq

namespace Binary64

def leastExponent : Int := -1074

def greatestExponent : Int := 971

def zero (negative : Bool) : Binary64 := .finite negative 0 leastExponent

def pack (negative : Bool) (mantissa : Nat) (exponent : Int) : Binary64 :=
  let (mantissa, exponent) :=
    if mantissa = Nat.pow 2 53 then (Nat.pow 2 52, exponent + 1) else (mantissa, exponent)
  if greatestExponent < exponent then .infinite negative
  else .finite negative mantissa exponent

def ofRatio (negative : Bool) (num den : Nat) : Binary64 :=
  if num = 0 then zero negative
  else
    let exponent := max (floorLog2 num den - 52) leastExponent
    let mantissa :=
      if 0 ≤ exponent then roundDiv num (den * Nat.pow 2 exponent.toNat)
      else roundDiv (num * Nat.pow 2 (-exponent).toNat) den
    pack negative mantissa exponent

def ofScaled (negative : Bool) (mantissa : Nat) (exponent : Int) : Binary64 :=
  if 0 ≤ exponent then ofRatio negative (mantissa * Nat.pow 2 exponent.toNat) 1
  else ofRatio negative mantissa (Nat.pow 2 (-exponent).toNat)

/-- The number nearest to `digits * 10 ^ exponent`, where `digits` has `size` decimal digits.
Magnitudes from `10 ^ 400` on are infinite and those below `10 ^ -400` are zero, whatever their
digits. -/
def ofDecimal (negative : Bool) (digits size : Nat) (exponent : Int) : Binary64 :=
  if digits = 0 then zero negative
  else if 400 < exponent + size then .infinite negative
  else if exponent + size < -400 then zero negative
  else if 0 ≤ exponent then ofRatio negative (digits * Nat.pow 10 exponent.toNat) 1
  else ofRatio negative digits (Nat.pow 10 (-exponent).toNat)

def ofInt? (n : Int) : Option Binary64 :=
  match ofRatio (n < 0) n.natAbs 1 with
  | .infinite _ => none
  | x => some x

def signed (negative : Bool) (magnitude : Nat) : Int :=
  if negative then -(magnitude : Int) else magnitude

/-- The sum of two numbers: the exact sum rounded once. Zeros that cancel leave a positive zero. -/
def add : Binary64 → Binary64 → Binary64
  | .nan, _ | _, .nan => .nan
  | .infinite s, .infinite t => if s = t then .infinite s else .nan
  | .infinite s, .finite _ _ _ | .finite _ _ _, .infinite s => .infinite s
  | .finite s m p, .finite t n q =>
    let exponent := min p q
    let sum :=
      signed s (m * Nat.pow 2 (p - exponent).toNat) + signed t (n * Nat.pow 2 (q - exponent).toNat)
    if sum = 0 then zero (s && t) else ofScaled (sum < 0) sum.natAbs exponent

def isZero : Binary64 → Bool
  | .finite _ m _ => m = 0
  | _ => false

def compareInt (n : Int) : Binary64 → Option Ordering
  | .nan => none
  | .infinite negative => some (if negative then .lt else .gt)
  | .finite negative m e =>
    if 0 ≤ e then some (compare (signed negative (m * Nat.pow 2 e.toNat)) n)
    else some (compare (signed negative m) (n * Nat.pow 2 (-e).toNat))

def isMultipleOf8 : Binary64 → Bool
  | .finite _ m e => if 3 ≤ e then true else m % Nat.pow 2 (3 - e).toNat = 0
  | _ => false

def hundredths (mantissa : Nat) (exponent : Int) : Nat :=
  if 0 ≤ exponent then 100 * mantissa * Nat.pow 2 exponent.toNat
  else roundDiv (100 * mantissa) (Nat.pow 2 (-exponent).toNat)

end Binary64

end ReceiptPress

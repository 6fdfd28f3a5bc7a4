import ReceiptPress.Number.Binary64
import ReceiptPress.Text.Basic

/-!
# Shortest decimals

A binary64 number is written with the fewest decimal digits that read back as the same number, and
among those with the digits nearest to it. The decimals that read back form an interval around the
number, half a step wide on either side; its ends belong to it when the mantissa is even. For each
count of digits the two neighbours of the number on that decimal grid are tried.
-/

namespace ReceiptPress.Binary64

structure Decimal where
  digits : Nat
  exponent : Int
  deriving DecidableEq

def decimalPlaces (num den : Nat) : Int :=
  let guess := floorLog2 num den * 30103 / 100000
  let below (k : Int) : Bool :=
    if 0 ≤ k then num < den * Nat.pow 10 k.toNat else num * Nat.pow 10 (-k).toNat < den
  if below guess then guess else if below (guess + 1) then guess + 1 else guess + 2

def nearestOnGrid? (mantissa : Nat) (narrow : Bool) (unit den : Nat) : Option Nat :=
  let value := 4 * mantissa * unit
  let low := (4 * mantissa - if narrow then 1 else 2) * unit
  let high := (4 * mantissa + 2) * unit
  let readsBack (n : Nat) : Bool :=
    if mantissa % 2 = 0 then low ≤ n * den && n * den ≤ high
    else low < n * den && n * den < high
  let below := value / den
  let twice := 2 * (value % den)
  if value % den = 0 then some below
  else match readsBack below, readsBack (below + 1) with
    | true, true =>
      some (if twice < den then below else if den < twice then below + 1 else below + below % 2)
    | true, false => some below
    | false, true => some (below + 1)
    | false, false => none

/-- The shortest decimal that reads back as `mantissa * 2 ^ exponent`, for a positive mantissa. -/
def shortest (mantissa : Nat) (exponent : Int) : Decimal :=
  let up (e : Int) : Nat := e.toNat
  let num := mantissa * Nat.pow 2 (up exponent)
  let den := Nat.pow 2 (up (-exponent))
  let places := decimalPlaces num den
  let narrow := mantissa = Nat.pow 2 52 && leastExponent < exponent
  let found := (List.range 17).findSome? fun (i : Nat) =>
    let grid := places - ((i : Int) + 1)
    let unit := Nat.pow 2 (up (exponent - 2)) * Nat.pow 10 (up (-grid))
    let size := Nat.pow 2 (up (2 - exponent)) * Nat.pow 10 (up grid)
    (nearestOnGrid? mantissa narrow unit size).map (Decimal.mk · grid)
  found.getD ⟨num / den, 0⟩

def dropTrailingZeros (digits : Text) : Text :=
  (digits.reverse.dropWhile (· = '0')).reverse

/-- The text of a positive decimal: positional from `10 ^ -4` to below `10 ^ 16`, with at least one
digit behind the point, and in any other case one digit before the point and a signed exponent of
at least two digits. -/
def Decimal.text (d : Decimal) : Text :=
  let all := Text.ofNat d.digits
  let point := d.exponent + all.length
  let digits := dropTrailingZeros all
  if -4 < point ∧ point ≤ 16 then
    if point ≤ 0 then '0' :: '.' :: List.replicate (-point).toNat '0' ++ digits
    else
      let fraction := digits.drop point.toNat
      (digits.take point.toNat).rightpad point.toNat '0' ++
        '.' :: (if fraction.isEmpty then ['0'] else fraction)
  else
    let e := point - 1
    let fraction := digits.drop 1
    digits.take 1 ++ (if fraction.isEmpty then [] else '.' :: fraction) ++
      'e' :: (if e < 0 then '-' else '+') :: (Text.ofNat e.natAbs).leftpad 2 '0'

def text : Binary64 → Text
  | .nan => "nan".toList
  | .infinite negative => if negative then "-inf".toList else "inf".toList
  | .finite negative m e =>
    let magnitude := if m = 0 then "0.0".toList else (shortest m e).text
    if negative then '-' :: magnitude else magnitude

end ReceiptPress.Binary64

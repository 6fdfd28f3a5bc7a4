import ReceiptPress.Fault
import ReceiptPress.Number.Binary64
import ReceiptPress.Text.Basic

namespace ReceiptPress

inductive Amount where
  | whole (n : Int)
  | real (x : Binary64)
  deriving DecidableEq

namespace Amount

def kind : Amount → Kind
  | .whole _ => .int
  | .real _ => .float

def toBinary64 : Amount → Except Fault Binary64
  | .whole n =>
    match Binary64.ofInt? n with
    | some x => .ok x
    | none => .error .tooLargeForBinary64
  | .real x => .ok x

def add (a b : Amount) : Except Fault Amount :=
  match a, b with
  | .whole m, .whole n => .ok (.whole (m + n))
  | a, b => do
    let x ← a.toBinary64
    let y ← b.toBinary64
    return .real (x.add y)

def compareInt (n : Int) : Amount → Option Ordering
  | .whole m => some (compare m n)
  | .real x => x.compareInt n

def isMultipleOf8 : Amount → Bool
  | .whole n => n % 8 = 0
  | .real x => x.isMultipleOf8

def hundredthsText (n : Nat) : Text :=
  Text.ofNat (n / 100) ++ '.' :: (Text.ofNat (n % 100)).leftpad 2 '0'

/-- A binary64 number with two decimals: the exact value is rounded, a half to the even neighbour,
and the sign is kept even when nothing else is left. -/
def fixedBinary64 : Binary64 → Text
  | .nan => "nan".toList
  | .infinite negative => if negative then "-inf".toList else "inf".toList
  | .finite negative m e =>
    let magnitude := hundredthsText (Binary64.hundredths m e)
    if negative then '-' :: magnitude else magnitude

def fixedText (a : Amount) : Except Fault Text := fixedBinary64 <$> a.toBinary64

end Amount

end ReceiptPress

import ReceiptPress.Text.CodePoint

namespace ReceiptPress

namespace Text

def isAscii (c : Char) : Bool := c.toNat < 128

def asciiByte (c : Char) : UInt8 := if isAscii c then UInt8.ofNat c.toNat else 63

def toAscii (t : Text) : List UInt8 := t.map asciiByte

@[simp] theorem length_toAscii (t : Text) : (toAscii t).length = t.length := by
  simp [toAscii]

end Text

def CodePoint.isAscii : CodePoint → Bool
  | char c => Text.isAscii c
  | surrogate _ => false

structure ForeignRun where
  opening : CodePoint
  start : Nat
  size : Nat
  deriving DecidableEq

def CodePoints.foreignRun? (s : CodePoints) : Option ForeignRun :=
  match s.dropWhile CodePoint.isAscii with
  | [] => none
  | p :: ps =>
    some ⟨p, (s.takeWhile CodePoint.isAscii).length,
      1 + (ps.takeWhile (!CodePoint.isAscii ·)).length⟩

end ReceiptPress

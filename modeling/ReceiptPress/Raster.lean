import ReceiptPress.Instruction
import ReceiptPress.Profile
import ReceiptPress.Value.Printed

namespace ReceiptPress.Raster

def header (widthBytes height : Nat) : Bytes :=
  rasterOpening ++ rasterNormalMode :: Bytes.ofWord widthBytes ++ Bytes.ofWord height

def headerField (v : Value) : Except Fault Nat :=
  match v.whole? with
  | none => .error .headerKind
  | some n =>
    if Value.wordEnd ≤ n ∨ n < -Value.wordEnd then .error .headerWord
    else if 0 ≤ n ∧ n ≤ 65535 then .ok n.toNat
    else .error .headerRange

def headerOf (widthBytes height : Value) : Except Fault Bytes := do
  let widthBytes ← headerField widthBytes
  let height ← headerField height
  return header widthBytes height

def pixel (width height x y : Nat) : Bool :=
  let dx : Int := (x : Int) - (width / 2 : Nat)
  let dy : Int := (y : Int) - (height / 2 : Nat)
  let bar := dx.natAbs < width / 12 && dy.natAbs < height / 3
  let disc := dx * dx + dy * dy < (height / 8 * (height / 8) : Nat)
  bar || disc

def pack (dot : Nat → Bool) : UInt8 :=
  (List.range 8).foldl
    (fun packed bit => if dot bit then packed ||| (0x80 >>> UInt8.ofNat bit) else packed) 0

structure Canvas where
  width : Nat
  height : Nat
  label : Text

namespace Canvas

def widthBytes (c : Canvas) : Nat := c.width / 8

def body (c : Canvas) : Bytes :=
  (List.range c.height).flatMap fun y =>
    (List.range c.widthBytes).map fun i => pack fun bit => pixel c.width c.height (i * 8 + bit) y

def image (c : Canvas) : Bytes := header c.widthBytes c.height ++ c.body

end Canvas

def label (p : Profile) : Except Fault Text := do
  let width ← p.dotWidth.text
  let height ← p.logoHeight.text
  return width.toText ++ 'x' :: height.toText

def dimension (v : Value) : Except Fault Amount :=
  match v.amount? with
  | some a => .ok a
  | none => .error (.notComparable "<=" v.kind .int)

def isTooSmall (a : Amount) : Bool :=
  match a.compareInt 0 with
  | some o => o.isLE
  | none => false

/-- The canvas of a profile. The dimensions must be positive, the width must fill whole bytes, and
both must fit the header. -/
def canvas (p : Profile) : Except Fault Canvas := do
  let width ← dimension p.dotWidth
  if isTooSmall width then throw (.rasterNotPositive (← label p))
  let height ← dimension p.logoHeight
  if isTooSmall height then throw (.rasterNotPositive (← label p))
  if !width.isMultipleOf8 then throw (.rasterNotAligned (← p.dotWidth.text).toText)
  if width.compareInt (8 * 0xFFFF) = some .gt || height.compareInt 0xFFFF = some .gt then
    throw (.rasterTooLarge (← label p))
  match width, height with
  | .whole w, .whole h => return ⟨w.toNat, h.toNat, ← label p⟩
  | _, _ => throw (.notABitmapSize .float)

def logo (p : Profile) : Except Fault Bytes := Canvas.image <$> canvas p

end ReceiptPress.Raster

import ReceiptPress.Proofs.Stream.Framing

namespace ReceiptPress

inductive Reading where
  | text (skip : Nat)
  | escape
  | group
  | emphasis
  | justification
  | size
  | cut
  | symbology
  | length
  | raster (seen : Bytes)
  deriving DecidableEq

namespace Reading

def next : Reading → UInt8 → Reading
  | text 0, b => if b = 0x1B then escape else if b = 0x1D then group else text 0
  | text (skip + 1), _ => text skip
  | escape, b => if b = 0x45 then emphasis else if b = 0x61 then justification else text 0
  | group, b =>
    if b = 0x21 then size
    else if b = 0x56 then cut
    else if b = 0x6B then symbology
    else if b = 0x76 then raster []
    else text 0
  | emphasis, _ => text 0
  | justification, _ => text 0
  | size, _ => text 0
  -- A cut behind which the paper is fed says how far.
  | cut, b => text (if b = 0x41 ∨ b = 0x42 then 1 else 0)
  | symbology, b => if b = code128Symbology then length else text 0
  | length, b => text b.toNat
  | raster [_, _, xl, xh, yl], yh =>
    text ((xl.toNat + 256 * xh.toNat) * (yl.toNat + 256 * yh.toNat))
  | raster seen, b => raster (seen ++ [b])

end Reading

structure Printer where
  bold : Bool := false
  doubleHeight : Bool := false
  doubleWidth : Bool := false
  alignment : Alignment := .left
  reading : Reading := .text 0
  deriving DecidableEq

namespace Printer

def alignmentOf? (n : UInt8) : Option Alignment :=
  if n = 0 then some .left
  else if n = 1 then some .center
  else if n = 2 then some .right
  else if n = 3 then some .justify
  else none

def step (p : Printer) (b : UInt8) : Printer :=
  let after := { p with reading := p.reading.next b }
  match p.reading with
  | .escape => if b = 0x40 then {} else after
  | .emphasis => { after with bold := b ≠ 0 }
  | .justification => { after with alignment := (alignmentOf? b).getD p.alignment }
  | .size => { after with doubleHeight := b % 16 ≠ 0, doubleWidth := b / 16 ≠ 0 }
  | _ => after

def execute (p : Printer) (bytes : Bytes) : Printer := bytes.foldl step p

variable {p : Printer}

theorem execute_append (p : Printer) (before after : Bytes) :
    p.execute (before ++ after) = (p.execute before).execute after :=
  List.foldl_append

theorem execute_plain (idle : p.reading = .text 0) {bytes : Bytes} (plain : bytes.Plain) :
    p.execute bytes = p := by
  induction bytes with
  | nil => rfl
  | cons b bytes ih =>
    have here : p.step b = p := by
      obtain ⟨no_escape, no_group⟩ := plain b List.mem_cons_self
      obtain ⟨bold, height, width, alignment, reading⟩ := p
      cases idle
      simp [step, Reading.next, no_escape, no_group]
    rw [execute, List.foldl_cons, here]
    exact ih fun x mem => plain x (List.mem_cons_of_mem b mem)

theorem execute_skip {bytes : Bytes} (skips : p.reading = .text bytes.length) :
    p.execute bytes = { p with reading := .text 0 } := by
  induction bytes generalizing p with
  | nil =>
    obtain ⟨bold, height, width, alignment, reading⟩ := p
    cases skips
    rfl
  | cons b bytes ih =>
    have here : p.step b = { p with reading := .text bytes.length } := by
      obtain ⟨bold, height, width, alignment, reading⟩ := p
      cases skips
      rfl
    rw [execute, List.foldl_cons, here]
    exact ih rfl

theorem execute_header (idle : p.reading = .text 0) {header body : Bytes}
    (announced : p.execute header = { p with reading := .text body.length }) :
    p.execute (header ++ body) = p := by
  rw [execute_append, announced, execute_skip rfl]
  obtain ⟨bold, height, width, alignment, reading⟩ := p
  cases idle
  rfl

theorem execute_image (idle : p.reading = .text 0) {widthBytes height : Nat} {body : Bytes}
    (width_lt : widthBytes < 65536) (height_lt : height < 65536)
    (length_eq : body.length = widthBytes * height) :
    p.execute (Raster.header widthBytes height ++ body) = p := by
  have header (mode xl xh yl yh : UInt8) : p.execute [0x1D, 0x76, 0x30, mode, xl, xh, yl, yh] =
      { p with
        reading := .text ((xl.toNat + 256 * xh.toNat) * (yl.toNat + 256 * yh.toNat)) } := by
    obtain ⟨bold, height, width, alignment, reading⟩ := p
    cases idle
    rfl
  apply execute_header idle
  have announced := header rasterNormalMode (UInt8.ofNat (widthBytes % 256))
    (UInt8.ofNat (widthBytes / 256)) (UInt8.ofNat (height % 256)) (UInt8.ofNat (height / 256))
  rwa [Bytes.toNat_ofWord width_lt, Bytes.toNat_ofWord height_lt, ← length_eq] at announced

theorem execute_barcode (idle : p.reading = .text 0) {body : Bytes}
    (length_lt : body.length < 256) :
    p.execute (barcodeOpening ++ code128Symbology :: UInt8.ofNat body.length :: body) = p := by
  have header (n : UInt8) : p.execute [0x1D, 0x6B, code128Symbology, n] =
      { p with reading := .text n.toNat } := by
    obtain ⟨bold, height, width, alignment, reading⟩ := p
    cases idle
    rfl
  have size_eq : (UInt8.ofNat body.length).toNat = body.length := by
    rw [UInt8.toNat_ofNat']
    omega
  have shape : barcodeOpening ++ code128Symbology :: UInt8.ofNat body.length :: body =
      [0x1D, 0x6B, code128Symbology, UInt8.ofNat body.length] ++ body := rfl
  rw [shape]
  apply execute_header idle
  rw [header, size_eq]

end Printer

end ReceiptPress

import ReceiptPress.Instruction
import ReceiptPress.Text.Hex

namespace ReceiptPress.Stream

inductive Token where
  | raster (widthBytes height : Nat)
  | barcode (payload : Bytes)
  | instruction (i : Instruction)
  | byte (b : UInt8)
  deriving DecidableEq

namespace Token

def payloadChar (b : UInt8) : Char := if b.toNat < 128 then Char.ofNat b.toNat else '\uFFFD'

def text : Token → Text
  | raster widthBytes height =>
    "[RASTER ".toList ++ Text.ofNat (widthBytes * 8) ++ 'x' :: Text.ofNat height ++ [']']
  | barcode payload => "[BARCODE ".toList ++ payload.map payloadChar ++ [']']
  | instruction i => '[' :: i.name.toList ++ [']']
  | byte b =>
    if b = 0x0A then ['\n']
    else if Bytes.isGraphic b then [Char.ofNat b.toNat]
    else "[0x".toList ++ Text.hexPair b ++ [']']

theorem text_raster (widthBytes height : Nat) :
    (raster widthBytes height).text =
      "[RASTER ".toList ++ Text.ofNat (widthBytes * 8) ++ 'x' :: Text.ofNat height ++ [']'] := rfl

theorem text_barcode (payload : Bytes) :
    (barcode payload).text = "[BARCODE ".toList ++ payload.map payloadChar ++ [']'] := rfl

theorem text_instruction (i : Instruction) :
    (instruction i).text = '[' :: i.name.toList ++ [']'] := rfl

theorem text_byte (b : UInt8) :
    (byte b).text =
      if b = 0x0A then ['\n']
      else if Bytes.isGraphic b then [Char.ofNat b.toNat]
      else "[0x".toList ++ Text.hexPair b ++ [']'] := rfl

def raster? : Bytes → Option (Token × Nat)
  | 0x1D :: 0x76 :: 0x30 :: _ :: wl :: wh :: hl :: hh :: rest =>
    let widthBytes := wl.toNat + 256 * wh.toNat
    let height := hl.toNat + 256 * hh.toNat
    if widthBytes * height ≤ rest.length then
      some (.raster widthBytes height, 8 + widthBytes * height)
    else none
  | _ => none

def barcode? : Bytes → Option (Token × Nat)
  | 0x1D :: 0x6B :: symbology :: size :: rest =>
    if symbology = code128Symbology ∧ size.toNat ≤ rest.length then
      some (.barcode (rest.take size.toNat), 4 + size.toNat)
    else none
  | _ => none

def instruction? (bytes : Bytes) : Option (Token × Nat) :=
  (Instruction.all.find? (·.bytes.isPrefixOf bytes)).map fun i =>
    (.instruction i, i.bytes.length)

def next (b : UInt8) (rest : Bytes) : Token × Nat :=
  ((raster? (b :: rest)).or ((barcode? (b :: rest)).or (instruction? (b :: rest)))).getD
    (.byte b, 1)

end Token

def tokensFrom : (skip : Nat) → Bytes → List Token
  | _, [] => []
  | skip + 1, _ :: rest => tokensFrom skip rest
  | 0, b :: rest =>
    let (token, size) := Token.next b rest
    token :: tokensFrom (size - 1) rest

def tokens (bytes : Bytes) : List Token := tokensFrom 0 bytes

def listing (bytes : Bytes) : Text := (tokens bytes).flatMap Token.text

end ReceiptPress.Stream

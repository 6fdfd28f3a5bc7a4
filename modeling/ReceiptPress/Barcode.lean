import ReceiptPress.Fault
import ReceiptPress.Instruction
import ReceiptPress.Value.Basic

namespace ReceiptPress.Barcode

def maxPayload : Nat := 255

def ofText (s : CodePoints) : Except Fault Bytes :=
  match s.foreignRun? with
  | some run => .error (.barcodeForeign run)
  | none =>
    if s.isEmpty then .error .barcodeEmpty
    else if maxPayload < s.length then .error (.barcodeTooLong s.length)
    else
      .ok (barcodeOpening ++ code128Symbology :: UInt8.ofNat s.length :: Text.toAscii s.toText)

def ofValue : Value → Except Fault Bytes
  | .str s => ofText s
  | v => .error (.notEncodable v.kind)

end ReceiptPress.Barcode

import ReceiptPress.Text.Hex

namespace ReceiptPress

abbrev Bytes := List UInt8

namespace Bytes

def spacedHex (bytes : Bytes) : Text := Text.join [' '] (bytes.map Text.upperHexPair)

def ofWord (n : Nat) : Bytes := [UInt8.ofNat (n % 256), UInt8.ofNat (n / 256)]

def isGraphic (b : UInt8) : Bool := 32 ≤ b.toNat && b.toNat ≤ 126

end Bytes

end ReceiptPress

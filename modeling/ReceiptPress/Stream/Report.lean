import ReceiptPress.Bytes.Base64
import ReceiptPress.Bytes.Hexdump
import ReceiptPress.Chunk
import ReceiptPress.Profile

namespace ReceiptPress.Stream

def previewMark : Text := " ... [EOF]".toList

/-- The first bytes of the first chunk, up to a bound, and a mark if the stream holds more. A stream
without a first byte in its first chunk shows as one zero byte. -/
def preview (bound : Option Int) (chunks : List Chunk) : Text :=
  match chunks with
  | [] => "00".toList
  | first :: _ =>
    if first.bytes.isEmpty then "00".toList
    else
      let shown := Value.cutAt bound first.bytes
      Bytes.spacedHex shown ++ if shown.length < streamSize chunks then previewMark else []

/-- The preview with a bound of any kind. The bound is only looked at if there is a byte to show. -/
def previewOf (bound : Value) (chunks : List Chunk) : Except Fault Text :=
  match chunks with
  | [] => .ok (preview none [])
  | first :: rest =>
    if first.bytes.isEmpty then .ok (preview none (first :: rest))
    else do return preview (← bound.cutBound) (first :: rest)

structure Summary where
  size : Nat
  preview : Text

def summarize (p : Profile) (chunks : List Chunk) : Except Fault Summary := do
  return ⟨streamSize chunks, ← previewOf p.previewBytes chunks⟩

def dumpOf (width : Int) (bytes : Bytes) : Except Fault Text :=
  if width = 0 then .error .emptyRows
  else if width < 0 ∨ bytes.isEmpty then .ok []
  else if Value.wordEnd ≤ width * 3 - 1 then .error .tooLargeForRow
  else if Value.widestColumn < width * 3 - 1 then .error .noRoom
  else .ok (Bytes.dump width.toNat bytes)

def usualWidth : Nat := 16

end ReceiptPress.Stream

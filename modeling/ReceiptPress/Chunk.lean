import ReceiptPress.Bytes.Basic

namespace ReceiptPress

inductive ChunkType where
  | text
  | image
  | barcode
  deriving DecidableEq

def ChunkType.name : ChunkType → String
  | .text => "TEXT"
  | .image => "IMAGE"
  | .barcode => "BARCODE"

structure Chunk where
  type : ChunkType
  bytes : Bytes
  deriving DecidableEq

namespace Chunk

def ofText (bytes : Bytes) : Chunk := ⟨.text, bytes⟩

def size (c : Chunk) : Nat := c.bytes.length

end Chunk

def payload (chunks : List Chunk) : Bytes := chunks.flatMap Chunk.bytes

def streamSize (chunks : List Chunk) : Nat := chunks.foldr (fun c size => c.size + size) 0

theorem length_payload (chunks : List Chunk) : (payload chunks).length = streamSize chunks := by
  induction chunks with
  | nil => rfl
  | cons c chunks ih =>
    rw [payload, List.flatMap_cons, List.length_append]
    exact congrArg (c.size + ·) ih

end ReceiptPress

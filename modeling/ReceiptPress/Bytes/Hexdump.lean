import ReceiptPress.Bytes.Basic

namespace ReceiptPress.Bytes

def rows (width : Nat) (bytes : Bytes) : List Bytes :=
  match bytes with
  | [] => []
  | b :: rest => (b :: rest.take width) :: rows width (rest.drop width)
termination_by bytes.length
decreasing_by
  simp only [List.length_drop, List.length_cons]
  omega

theorem flatten_rows (width : Nat) (bytes : Bytes) : (rows width bytes).flatten = bytes := by
  fun_induction rows width bytes with
  | case1 => rfl
  | case2 b rest ih => simp [ih]

def shownChar (b : UInt8) : Char := if isGraphic b then Char.ofNat b.toNat else '.'

def dumpRow (width offset : Nat) (row : Bytes) : Text :=
  Text.hex 8 offset ++ [' ', ' '] ++
    (Text.join [' '] (row.map Text.hexPair)).rightpad (width * 3 - 1) ' ' ++
    [' ', ' ', '|'] ++ row.map shownChar ++ ['|']

def dumpRows (width : Nat) : (offset : Nat) → List Bytes → List Text
  | _, [] => []
  | offset, row :: rest => dumpRow width offset row :: dumpRows width (offset + width) rest

def dump (width : Nat) (bytes : Bytes) : Text :=
  Text.join ['\n'] (dumpRows width 0 (rows (width - 1) bytes))

end ReceiptPress.Bytes

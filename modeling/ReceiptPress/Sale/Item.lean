import ReceiptPress.Profile
import ReceiptPress.Value.Printed

namespace ReceiptPress

structure Item where
  name : Value
  price : Value

namespace Item

def toValue (i : Item) : Value := .item i.name i.price

def readPrice : Value → Except Fault Value
  | .str s =>
    match Numeral.readBinary64 s.toText with
    | some x => .ok (.float x)
    | none => .error (.notANumeral s)
  | v => .ok v

def ofRecord (v : Value) : Except Fault Item := do
  let fields ← v.fields
  let price ← readPrice ((Value.field? "price".toList fields).getD (.int 0))
  let name ← ((Value.field? "name".toList fields).getD (.str [])).text
  return ⟨.str name, price⟩

/-- The item that a value stands for. A finished item is kept as it is; anything else must be a
record that tells of one. -/
def ofValue : Value → Except Fault Item
  | .item name price => .ok ⟨name, price⟩
  | v => ofRecord v

def nameColumn (width : Value) : Value → Except Fault Text
  | .str s => do
    let bound ← width.cutBound
    let size ← width.columnWidth
    return (Value.cutAt bound s.toText).rightpad size ' '
  | .list _ => do
    let _ ← width.cutBound
    throw (.notPaddable .list)
  | .object _ => .error .sliceOfRecord
  | v => .error (.notSliceable v.kind)

def priceColumn (width price : Value) : Except Fault Text := do
  let amount ← price.fixedText
  let size ← width.columnWidth
  return ('$' :: amount).leftpad size ' '

def row (p : Profile) (i : Item) : Except Fault Text := do
  let name ← nameColumn p.nameWidth i.name
  let price ← priceColumn p.priceWidth i.price
  return name ++ price ++ ['\n']

end Item

end ReceiptPress

import ReceiptPress.Sale.Item

namespace ReceiptPress

structure Sale where
  identifier : Value := .str []
  items : List Item := []
  total : Value := .str []

namespace Sale

def addend (sum : Amount) (price : Value) : Except Fault Amount :=
  match price.amount? with
  | some a => .ok a
  | none => .error (.notAddable sum.kind price.kind)

def sumFrom (sum : Amount) : List Value → Except Fault Amount
  | [] => .ok sum
  | price :: rest => do
    let sum ← sum.add (← addend sum price)
    sumFrom sum rest

def sum (prices : List Value) : Except Fault Amount := sumFrom (.whole 0) prices

def ofItems (identifier items : Value) : Except Fault Sale := do
  let items ← (← items.elements).mapM Item.ofValue
  let total ← (← sum (items.map Item.price)).fixedText
  return { identifier, items, total := .ofText total }

def ofValue (v : Value) : Except Fault Sale := do
  let fields ← v.fields
  let items ← (← (Value.fieldOr "items".toList (.list []) fields).elements).mapM Item.ofValue
  let total ← (Value.fieldOr "total".toList (.str []) fields).text
  return {
    identifier := Value.fieldOr "identifier".toList (.str []) fields
    items
    total := .str total }

/-- The field that a tag asks for by its name. Only the data of a sale is found, and none of the
operations and other attributes that its class has. -/
def field? (s : Sale) (name : Text) : Option Value :=
  if name = "identifier".toList then some s.identifier
  else if name = "items".toList then some (.list (s.items.map Item.toValue))
  else if name = "total".toList then some s.total
  else none

end Sale

end ReceiptPress

import ReceiptPress.Value.Basic

namespace ReceiptPress

/-- What a source of transaction ids answers to each call, counted from zero. -/
abbrev IdSource := Nat → Except Fault Value

namespace TransactionId

def opening : Text := "ANT-".toList

def alphabet : Text := "0123456789ABCDEFGHIJKLMNOPQRSTUVWXYZ".toList

def usualLength : Nat := 6

def characterAt (place : Int) : Char :=
  alphabet.getD (place % alphabet.length).toNat '0'

def ofPicks (picks : List Int) : Text := opening ++ picks.map characterAt

end TransactionId

namespace IdSource

def ofList (ids : List Value) : IdSource := fun call =>
  match ids[call]? with
  | some id => .ok id
  | none => .error (.idSource "no more ids".toList)

def failing (message : Text) : IdSource := fun _ => .error (.idSource message)

def constant (id : Text) : IdSource := fun _ => .ok (.ofText id)

def ofPicks (pick : Nat → Int) : IdSource := fun call =>
  .ok (.ofText (TransactionId.ofPicks
    ((List.range TransactionId.usualLength).map fun i =>
      pick (call * TransactionId.usualLength + i))))

end IdSource

end ReceiptPress

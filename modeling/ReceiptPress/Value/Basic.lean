import ReceiptPress.Number.Amount

namespace ReceiptPress

inductive Value where
  | null
  | bool (b : Bool)
  | int (n : Int)
  | float (x : Binary64)
  | str (s : CodePoints)
  | list (elements : List Value)
  | object (fields : List (CodePoints × Value))
  | item (name price : Value)

namespace Value

def kind : Value → Kind
  | null => .null
  | bool _ => .bool
  | int _ => .int
  | float _ => .float
  | str _ => .str
  | list _ => .list
  | object _ => .object
  | item _ _ => .item

/-- Whether a value counts as given: it is neither missing nor false, zero or empty. -/
def isGiven : Value → Bool
  | null => false
  | bool b => b
  | int n => n ≠ 0
  | float x => !x.isZero
  | str s => !s.isEmpty
  | list elements => !elements.isEmpty
  | object fields => !fields.isEmpty
  | item _ _ => true

def orElse (v other : Value) : Value := if v.isGiven then v else other

def ofText (t : Text) : Value := .str t.toCodePoints

def insertField (name : CodePoints) (v : Value) :
    List (CodePoints × Value) → List (CodePoints × Value)
  | [] => [(name, v)]
  | (other, w) :: rest =>
    if other = name then (name, v) :: rest else (other, w) :: insertField name v rest

def field? (name : Text) (fields : List (CodePoints × Value)) : Option Value :=
  (fields.find? (·.1 = name.toCodePoints)).map (·.2)

def fieldOr (name : Text) (default : Value) (fields : List (CodePoints × Value)) : Value :=
  ((field? name fields).getD .null).orElse default

theorem field?_insertField_self (name : Text) (v : Value) (fields : List (CodePoints × Value)) :
    field? name (insertField name.toCodePoints v fields) = some v := by
  induction fields with
  | nil => simp [insertField, field?]
  | cons f rest ih =>
    obtain ⟨other, w⟩ := f
    rw [insertField]
    split
    · simp [field?]
    · rename_i h
      simp only [field?, List.find?_cons, h, decide_false]
      exact ih

theorem field?_insertField_of_ne {name : CodePoints} {other : Text} (h : other.toCodePoints ≠ name)
    (v : Value) (fields : List (CodePoints × Value)) :
    field? other (insertField name v fields) = field? other fields := by
  induction fields with
  | nil => simp [insertField, field?, Ne.symm h]
  | cons f rest ih =>
    obtain ⟨key, w⟩ := f
    rw [insertField]
    split
    · rename_i hk
      subst hk
      simp [field?, Ne.symm h]
    · simp only [field?, List.find?_cons]
      split
      · rfl
      · exact ih

def fields : Value → Except Fault (List (CodePoints × Value))
  | object fields => .ok fields
  | v => .error (.notARecord v.kind)

/-- The elements of a value: of a list its elements, of a text its characters, and of a record the
names of its fields. -/
def elements : Value → Except Fault (List Value)
  | list elements => .ok elements
  | str s => .ok (s.map fun p => str [p])
  | object fields => .ok (fields.map fun f => str f.1)
  | v => .error (.notIterable v.kind)

def whole? : Value → Option Int
  | bool b => some (if b then 1 else 0)
  | int n => some n
  | _ => none

def amount? : Value → Option Amount
  | bool b => some (.whole (if b then 1 else 0))
  | int n => some (.whole n)
  | float x => some (.real x)
  | _ => none

def cutBound : Value → Except Fault (Option Int)
  | null => .ok none
  | v =>
    match v.whole? with
    | some n => .ok (some n)
    | none => .error .sliceBound

def cutAt {α : Type} (bound : Option Int) (xs : List α) : List α :=
  match bound with
  | none => xs
  | some n => if 0 ≤ n then xs.take n.toNat else xs.take (xs.length - n.natAbs)

def wordEnd : Int := 0x8000000000000000

def widestColumn : Nat := 0x1000000000

/-- The width of a column, which must fit a signed machine word and leave room for the column. A
negative width pads nothing. -/
def columnWidth (v : Value) : Except Fault Nat :=
  match v.whole? with
  | none => .error (.notAWidth v.kind)
  | some n =>
    if n < -wordEnd ∨ wordEnd ≤ n then .error .tooLargeForWidth
    else if widestColumn < n then .error .noRoom
    else .ok n.toNat

def fixedText (v : Value) : Except Fault Text :=
  match v.amount? with
  | some a => a.fixedText
  | none =>
    match v with
    | str _ => .error .textAsAmount
    | v => .error (.notAnAmount v.kind)

end Value

end ReceiptPress

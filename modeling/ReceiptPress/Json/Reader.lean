import ReceiptPress.Json.Token

/-!
# Reading JSON

A reader takes one token after another and keeps the lists and records that are still open on a
stack. A whole number must not have more digits than are read, and lists and records must not nest
too deep; anything else that goes wrong makes the text no JSON.
-/

namespace ReceiptPress.Json

inductive Refusal where
  | malformed
  | tooLong (digits : Nat)
  | listTooDeep
  | recordTooDeep

/-- A list or record that is still open; elements and fields already read. -/
inductive Frame where
  | list (elements : List Value)
  | object (fields : List (CodePoints × Value))
  | field (fields : List (CodePoints × Value)) (name : CodePoints)

inductive Expected where
  | value
  | element
  | firstName
  | name
  | colon
  | separator
  | done (v : Value)

/-- The state of reading: what is open, the innermost first, and what may come next. -/
structure Reading where
  stack : List Frame
  expected : Expected

namespace Reading

def deliver (stack : List Frame) (v : Value) : Option Reading :=
  match stack with
  | [] => some ⟨[], .done v⟩
  | .list elements :: rest => some ⟨.list (v :: elements) :: rest, .separator⟩
  | .field fields name :: rest =>
    some ⟨.object (Value.insertField name v fields) :: rest, .separator⟩
  | .object _ :: _ => none

def close (stack : List Frame) (mark : Token) : Option Reading :=
  match stack, mark with
  | .list elements :: rest, .closeList => deliver rest (.list elements.reverse)
  | .object fields :: rest, .closeObject => deliver rest (.object fields)
  | _, _ => none

def next (stack : List Frame) : Option Reading :=
  match stack with
  | .list _ :: _ => some ⟨stack, .value⟩
  | .object _ :: _ => some ⟨stack, .name⟩
  | _ => none

def named (stack : List Frame) (name : CodePoints) : Option Reading :=
  match stack with
  | .object fields :: rest => some ⟨.field fields name :: rest, .colon⟩
  | _ => none

/-- How many lists and records may be open at once. -/
def depthLimit : Nat := 988

def begin (stack : List Frame) : Token → Except Refusal (Option Reading)
  | .openList =>
    if depthLimit ≤ stack.length then .error .listTooDeep
    else .ok (some ⟨.list [] :: stack, .element⟩)
  | .openObject =>
    if depthLimit ≤ stack.length then .error .recordTooDeep
    else .ok (some ⟨.object [] :: stack, .firstName⟩)
  | .string s => .ok (deliver stack (.str s))
  | .null => .ok (deliver stack .null)
  | .truth b => .ok (deliver stack (.bool b))
  | .real x => .ok (deliver stack (.float x))
  | .whole negative digits =>
    if Numeral.digitLimit < digits.length then .error (.tooLong digits.length)
    else .ok (deliver stack (.int (Binary64.signed negative (Numeral.ofDigits digits))))
  | _ => .ok none

def step (r : Reading) (token : Token) : Except Refusal Reading := do
  let after ←
    match r.expected, token with
    | .value, token => begin r.stack token
    | .element, .closeList => pure (close r.stack .closeList)
    | .element, token => begin r.stack token
    | .firstName, .closeObject => pure (close r.stack .closeObject)
    | .firstName, .string s => pure (named r.stack s)
    | .name, .string s => pure (named r.stack s)
    | .colon, .colon => pure (some ⟨r.stack, .value⟩)
    | .separator, .comma => pure (next r.stack)
    | .separator, mark => pure (close r.stack mark)
    | _, _ => pure none
  match after with
  | some r => return r
  | none => throw .malformed

end Reading

def read (t : Text) : Except Refusal Value := do
  let reading ← (tokens t).foldlM Reading.step ⟨[], .value⟩
  match reading.expected with
  | .done v => return v
  | _ => throw .malformed

end ReceiptPress.Json

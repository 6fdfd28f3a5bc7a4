import ReceiptPress.Number.Numeral
import ReceiptPress.Number.Shortest
import ReceiptPress.Text.Quoted
import ReceiptPress.Value.Basic

/-!
# Printed values

Any value can stand in for a name, an identifier or a total, and then shows as text: a text as it
is, and every other value in its literal form, in which texts are quoted. The form of a value is
written inside that of the value which holds it, and the host lets only so many calls be in progress
at once: a value that nests deeper than the room that a call of the program leaves has no text.
-/

namespace ReceiptPress.Value

def intText (n : Int) : Except Fault Text :=
  if Nat.pow 10 Numeral.digitLimit ≤ n.natAbs then .error .tooLongToWrite else .ok (Text.ofInt n)

/-- How many calls may be in progress at once while a value is written. -/
def writingRoom : Nat := 990

mutual

-- An item takes three calls, any other value one. That a room of one or two ends up at zero behind
-- the other two is what makes the difference below right for an item as well.
def literalWithin (room : Nat) (v : Value) : Except Fault Text :=
  match room, v with
  | 0, _ => .error .tooDeepToWrite
  | _ + 1, null => .ok "None".toList
  | _ + 1, bool b => .ok (if b then "True".toList else "False".toList)
  | _ + 1, int n => intText n
  | _ + 1, float x => .ok x.text
  | _ + 1, str s => .ok s.quoted
  | room + 1, list elements => do
    let parts ← literalsWithin room elements
    return '[' :: Text.join ", ".toList parts ++ [']']
  | room + 1, object fields => do
    let parts ← fieldLiteralsWithin room fields
    return '{' :: Text.join ", ".toList parts ++ ['}']
  | room + 1, item name price => do
    let name ← literalWithin (room - 2) name
    let price ← literalWithin (room - 2) price
    return "ReceiptItem(name=".toList ++ name ++ ", price=".toList ++ price ++ [')']

def literalsWithin (room : Nat) (vs : List Value) : Except Fault (List Text) :=
  match vs with
  | [] => .ok []
  | v :: rest => do
    let first ← literalWithin room v
    let others ← literalsWithin room rest
    return first :: others

def fieldLiteralsWithin (room : Nat) (fields : List (CodePoints × Value)) :
    Except Fault (List Text) :=
  match fields with
  | [] => .ok []
  | (name, v) :: rest => do
    let first ← literalWithin room v
    let others ← fieldLiteralsWithin room rest
    return (name.quoted ++ ':' :: ' ' :: first) :: others

end

def literal (v : Value) : Except Fault Text := literalWithin writingRoom v

def text : Value → Except Fault CodePoints
  | str s => .ok s
  | v => Text.toCodePoints <$> literal v

end ReceiptPress.Value

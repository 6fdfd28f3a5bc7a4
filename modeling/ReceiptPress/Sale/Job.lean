import ReceiptPress.Sale.Basic

namespace ReceiptPress

structure Job where
  template : CodePoints
  sale : Sale

namespace Job

/-- The job that a value describes. The template must be a text, and the items, if given, a list. -/
def ofValue (v : Value) (identifier : Option Text) : Except Fault Job :=
  match v with
  | .object fields =>
    match Value.field? "template".toList fields with
    | some (.str template) =>
      match Value.fieldOr "items".toList (.list []) fields with
      | .list items => do
        let identifier ←
          match identifier with
          | some t => pure t.toCodePoints
          | none => (Value.fieldOr "identifier".toList (.str []) fields).text
        return { template, sale := ← Sale.ofItems (.str identifier) (.list items) }
      | _ => .error .jobItems
    | _ => .error .jobWithoutTemplate
  | _ => .error .jobNotARecord

end Job

end ReceiptPress

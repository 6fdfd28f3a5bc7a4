import ReceiptPress.Tag.Segment

namespace ReceiptPress.Tag

inductive Operation where
  | register (e : Entry)
  | get (tag : Text)
  | sibling (tag : Text)
  | contains (tag : Text)
  | size
  | list
  | ofCategories (categories : List Category)
  | find (t : Text)
  | split (line : Text)

inductive Answer where
  | entry (e : Option Entry)
  | truth (b : Bool)
  | count (n : Nat)
  | tags (ts : List Text)
  | finds (fs : List (Nat × Text))
  | chunks (cs : List Chunk)
  | refused (f : Fault)
  deriving DecidableEq

def Dictionary.perform (d : Dictionary) : Operation → Answer × Dictionary
  | .register e =>
    match d.register e with
    | .ok after => (.count after.size, after)
    | .error f => (.refused f, d)
  | .get tag => (.entry (d.get? tag), d)
  | .sibling tag => (.entry (d.sibling? tag), d)
  | .contains tag => (.truth (d.contains tag), d)
  | .size => (.count d.size, d)
  | .list => (.tags (d.entries.map Entry.tag), d)
  | .ofCategories categories => (.tags ((d.ofCategories categories).map Entry.tag), d)
  | .find t => (.finds (d.emitterFinds t), d.keeping)
  | .split line => (.chunks (d.splitLine line), d.keeping)

def Dictionary.performAll (d : Dictionary) : List Operation → List Answer
  | [] => []
  | op :: ops =>
    let (answer, after) := d.perform op
    answer :: after.performAll ops

end ReceiptPress.Tag

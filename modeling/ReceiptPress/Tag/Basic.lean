import ReceiptPress.Text.Scan

namespace ReceiptPress.Tag

def isNameChar (c : Char) : Bool :=
  (65 ≤ c.toNat && c.toNat ≤ 90) || (48 ≤ c.toNat && c.toNat ≤ 57) || c = '_'

def named (name : String) : Text := '{' :: '{' :: name.toList ++ ['}', '}']

def size : Text.Recogniser
  | '{' :: '{' :: cs =>
    let name := cs.takeWhile isNameChar
    match cs.dropWhile isNameChar with
    | '}' :: '}' :: _ => if name.isEmpty then 0 else name.length + 4
    | _ => 0
  | _ => 0

theorem size_le_length (t : Text) : size t ≤ t.length := by
  unfold size
  split
  · rename_i cs
    have h := congrArg List.length (List.takeWhile_append_dropWhile (p := isNameChar) (l := cs))
    simp only
    split
    · rename_i rest hd
      rw [hd] at h
      simp only [List.length_append, List.length_cons] at h
      split <;> simp
      omega
    · simp
  · simp

def isTag (t : Text) : Bool := 0 < size t && size t = t.length

def finds (t : Text) : List (Nat × Text) := Text.finds size t

def words (t : Text) : List Text := Text.words size t

def visible (t : Text) : Text := Text.remainder size t

end ReceiptPress.Tag

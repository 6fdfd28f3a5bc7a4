import ReceiptPress.Text.Basic

/-!
# Code points

A file may spell one half of a surrogate pair without the other, so the text of a value is a list of
code points of which some are no characters. Such a surrogate counts like a character and prints
like one that the printer does not have; only the quoted form of a text tells them apart.
-/

namespace ReceiptPress

inductive CodePoint where
  | char (c : Char)
  | surrogate (place : Fin 0x800)
  deriving DecidableEq

abbrev CodePoints := List CodePoint

namespace CodePoint

def toNat : CodePoint → Nat
  | char c => c.toNat
  | surrogate place => 0xD800 + place

def ofNat (n : Nat) : CodePoint :=
  if 0xD800 ≤ n ∧ n < 0xE000 then surrogate (Fin.ofNat 0x800 (n - 0xD800)) else char (Char.ofNat n)

def toChar : CodePoint → Char
  | char c => c
  | surrogate _ => '\uFFFD'

@[simp] theorem toChar_char (c : Char) : toChar (char c) = c := rfl

theorem ofNat_toNat (p : CodePoint) : ofNat p.toNat = p := by
  cases p with
  | char c =>
    have h : c.toNat < 0xD800 ∨ 0xDFFF < c.toNat ∧ c.toNat < 0x110000 := c.valid
    rw [toNat, ofNat, if_neg (by omega), Char.ofNat_toNat]
  | surrogate place =>
    rw [toNat, ofNat, if_pos (by omega), Nat.add_sub_cancel_left]
    exact congrArg surrogate (Fin.ext (Nat.mod_eq_of_lt place.isLt))

end CodePoint

def Text.toCodePoints (t : Text) : CodePoints := t.map .char

namespace CodePoints

def toText (s : CodePoints) : Text := s.map CodePoint.toChar

@[simp] theorem toText_toCodePoints (t : Text) : toText t.toCodePoints = t := by
  simp [toText, Text.toCodePoints, Function.comp_def]

@[simp] theorem length_toText (s : CodePoints) : s.toText.length = s.length := by simp [toText]

end CodePoints

@[simp] theorem Text.length_toCodePoints (t : Text) : t.toCodePoints.length = t.length := by
  simp [toCodePoints]

end ReceiptPress

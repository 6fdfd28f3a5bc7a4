namespace ReceiptPress

abbrev Text := List Char

namespace Text

/-- The lines of a text. Only a line feed ends a line, and what follows the last one is a line. -/
def lines : Text → List Text
  | [] => [[]]
  | c :: cs =>
    if c = '\n' then [] :: lines cs
    else match lines cs with
      | [] => [[c]]
      | line :: rest => (c :: line) :: rest

theorem lines_ne_nil (t : Text) : lines t ≠ [] := by
  cases t with
  | nil => simp [lines]
  | cons c cs =>
    rw [lines]
    split
    · simp
    · split <;> simp

theorem lines_append_newline (s t : Text) : lines (s ++ '\n' :: t) = lines s ++ lines t := by
  induction s with
  | nil => simp [lines]
  | cons c cs ih =>
    by_cases h : c = '\n'
    · simp [lines, h, ih]
    · simp only [List.cons_append, lines, h, if_false, ih]
      cases hs : lines cs with
      | nil => exact absurd hs (lines_ne_nil cs)
      | cons line rest => rfl

def blanks : List (Nat × Nat) :=
  [(0x09, 0x0D), (0x1C, 0x20), (0x85, 0x85), (0xA0, 0xA0), (0x1680, 0x1680), (0x2000, 0x200A),
    (0x2028, 0x2029), (0x202F, 0x202F), (0x205F, 0x205F), (0x3000, 0x3000)]

def isBlank (c : Char) : Bool :=
  blanks.any fun (first, last) => first ≤ c.toNat && c.toNat ≤ last

def trim (t : Text) : Text :=
  ((t.dropWhile isBlank).reverse.dropWhile isBlank).reverse

/-- Line ends brought to one form: a carriage return, alone or with a line feed behind it, is a line
feed. -/
def unifyNewlines : Text → Text
  | [] => []
  | '\r' :: '\n' :: cs => '\n' :: unifyNewlines cs
  | c :: cs => (if c = '\r' then '\n' else c) :: unifyNewlines cs

theorem unifyNewlines_eq_self {t : Text} (h : '\r' ∉ t) : unifyNewlines t = t := by
  fun_induction unifyNewlines t with
  | case1 => rfl
  | case2 cs ih => simp at h
  | case3 c cs _ ih =>
    simp only [List.mem_cons, not_or] at h
    rw [ih h.2, if_neg (Ne.symm h.1)]

def ofNat (n : Nat) : Text := Nat.toDigits 10 n

def ofInt (n : Int) : Text :=
  if n < 0 then '-' :: ofNat n.natAbs else ofNat n.natAbs

def join (separator : Text) (parts : List Text) : Text := List.intercalate separator parts

theorem join_lines (t : Text) : join ['\n'] (lines t) = t := by
  induction t with
  | nil => rfl
  | cons c cs ih =>
    rw [lines]
    cases h : lines cs with
    | nil => exact absurd h (lines_ne_nil cs)
    | cons line rest =>
      rw [h] at ih
      by_cases hc : c = '\n'
      · simp only [hc, if_true]
        rw [← ih]
        simp [join, List.intercalate]
      · simp only [hc, if_false]
        rw [← ih]
        cases rest <;> simp [join, List.intercalate]

end Text

end ReceiptPress

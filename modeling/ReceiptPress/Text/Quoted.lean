import ReceiptPress.Text.CodePoint
import ReceiptPress.Text.Hex
import ReceiptPress.Text.Printable

namespace ReceiptPress

namespace Text

/-- The quote that needs no escape inside the text, if there is one; single quotes come first. -/
def quoteFor (t : Text) : Char :=
  if t.contains '\'' && !t.contains '"' then '"' else '\''

def spellCodePoint (n : Nat) : Text :=
  if n < 0x100 then '\\' :: 'x' :: hex 2 n
  else if n < 0x10000 then '\\' :: 'u' :: hex 4 n
  else '\\' :: 'U' :: hex 8 n

def quoteChar (quote c : Char) : Text :=
  if c = quote || c = '\\' then ['\\', c]
  else if c = '\n' then ['\\', 'n']
  else if c = '\r' then ['\\', 'r']
  else if c = '\t' then ['\\', 't']
  else if isPrintable c then [c]
  else spellCodePoint c.toNat

def quoted (t : Text) : Text :=
  let quote := quoteFor t
  quote :: t.flatMap (quoteChar quote) ++ [quote]

end Text

def CodePoint.quoted (quote : Char) : CodePoint → Text
  | char c => Text.quoteChar quote c
  | p => Text.spellCodePoint p.toNat

def CodePoints.quoted (s : CodePoints) : Text :=
  let quote := Text.quoteFor s.toText
  quote :: s.flatMap (CodePoint.quoted quote) ++ [quote]

@[simp] theorem CodePoints.quoted_toCodePoints (t : Text) :
    CodePoints.quoted t.toCodePoints = Text.quoted t := by
  rw [quoted, toText_toCodePoints, Text.toCodePoints, List.flatMap_map]
  rfl

end ReceiptPress

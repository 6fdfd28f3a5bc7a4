import ReceiptPress.Fault
import ReceiptPress.Number.Binary64
import ReceiptPress.Text.DecimalDigit

namespace ReceiptPress.Numeral

def isDigit (c : Char) : Bool := 48 ≤ c.toNat && c.toNat ≤ 57

def plainChar (c : Char) : Char :=
  if c.toNat < 127 then c
  else if Text.isBlank c then ' '
  else match Text.digitValue? c with
    | some n => Nat.digitChar n
    | none => '?'

def plain (t : Text) : Text := if t.all Text.isAscii then t else t.map plainChar

def isSpace (c : Char) : Bool := c = ' ' || (9 ≤ c.toNat && c.toNat ≤ 13)

def bare (t : Text) : Text :=
  (((plain t).dropWhile isSpace).reverse.dropWhile isSpace).reverse

def splitSign : Text → Bool × Text
  | '-' :: cs => (true, cs)
  | '+' :: cs => (false, cs)
  | cs => (false, cs)

def ofDigits (digits : Text) : Nat := digits.foldl (fun n c => 10 * n + (c.toNat - 48)) 0

def withoutUnderscores : (afterDigit : Bool) → Text → Option Text
  | _, [] => some []
  | afterDigit, '_' :: cs =>
    if afterDigit && (cs.head?.map isDigit).getD false then withoutUnderscores false cs else none
  | _, c :: cs => (withoutUnderscores (isDigit c) cs).map (c :: ·)

def digitLimit : Nat := 4300

def underscoresSeparate : (afterDigit : Bool) → Text → Bool
  | afterDigit, [] => afterDigit
  | afterDigit, c :: cs =>
    if c = '_' then afterDigit && underscoresSeparate false cs else underscoresSeparate true cs

/-- The whole number that a text stands for. The count of digits is limited, and it is looked at
before what may follow the digits. -/
def readInt (t : Text) : Except Fault Int :=
  let (negative, body) := splitSign (bare t)
  let isPart (c : Char) : Bool := isDigit c || c = '_'
  let run := body.takeWhile isPart
  let digits := run.filter isDigit
  if !underscoresSeparate false run then .error (.notAWholeNumeral t)
  else if digitLimit < digits.length then .error (.tooLongToRead digits.length)
  else if !(body.dropWhile isPart).isEmpty then .error (.notAWholeNumeral t)
  else .ok (Binary64.signed negative (ofDigits digits))

def readExponent : Text → Option Int
  | [] => some 0
  | c :: cs =>
    if c = 'e' || c = 'E' then
      let (negative, digits) := splitSign cs
      if digits.isEmpty || !digits.all isDigit then none
      else some (Binary64.signed negative (ofDigits digits))
    else none

/-- The number that an unsigned decimal numeral stands for: digits with an optional point among
them, at least one of them a digit, and an optional exponent. -/
def readDecimal (negative : Bool) (t : Text) : Option Binary64 :=
  let whole := t.takeWhile isDigit
  let (fraction, rest) :=
    match t.dropWhile isDigit with
    | '.' :: cs => (cs.takeWhile isDigit, cs.dropWhile isDigit)
    | rest => ([], rest)
  if whole.isEmpty && fraction.isEmpty then none
  else do
    let exponent ← readExponent rest
    let digits := (whole ++ fraction).dropWhile (· = '0')
    some (Binary64.ofDecimal negative (ofDigits digits) digits.length
      (exponent - fraction.length))

def readName (negative : Bool) (t : Text) : Option Binary64 :=
  let name := t.map Char.toLower
  if name = "inf".toList || name = "infinity".toList then some (.infinite negative)
  else if name = "nan".toList then some .nan
  else none

def readBinary64 (t : Text) : Option Binary64 := do
  let (negative, body) := splitSign (← withoutUnderscores false (bare t))
  (readName negative body) <|> readDecimal negative body

end ReceiptPress.Numeral

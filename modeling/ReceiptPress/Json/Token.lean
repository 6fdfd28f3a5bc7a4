import ReceiptPress.Number.Numeral
import ReceiptPress.Value.Basic

namespace ReceiptPress.Json

inductive Token where
  | openList
  | closeList
  | openObject
  | closeObject
  | comma
  | colon
  | string (s : CodePoints)
  | whole (negative : Bool) (digits : Text)
  | null
  | truth (b : Bool)
  | real (x : Binary64)
  | unreadable

def mark? : Char → Option Token
  | '[' => some .openList
  | ']' => some .closeList
  | '{' => some .openObject
  | '}' => some .closeObject
  | ',' => some .comma
  | ':' => some .colon
  | _ => none

def isSpace (c : Char) : Bool := c = ' ' || c = '\t' || c = '\n' || c = '\r'

def escape? : Char → Option Nat
  | '"' => some 0x22
  | '\\' => some 0x5C
  | '/' => some 0x2F
  | 'b' => some 0x08
  | 'f' => some 0x0C
  | 'n' => some 0x0A
  | 'r' => some 0x0D
  | 't' => some 0x09
  | _ => none

def ofUnits : List Nat → CodePoints
  | [] => []
  | [n] => [.ofNat n]
  | n :: m :: rest =>
    if 0xD800 ≤ n ∧ n < 0xDC00 ∧ 0xDC00 ≤ m ∧ m < 0xE000 then
      .ofNat (0x10000 + (n - 0xD800) * 0x400 + (m - 0xDC00)) :: ofUnits rest
    else .ofNat n :: ofUnits (m :: rest)

def splitWhole (t : Text) : Text × Text :=
  match t with
  | '0' :: cs => (['0'], cs)
  | _ => (t.takeWhile Numeral.isDigit, t.dropWhile Numeral.isDigit)

def skipFraction (t : Text) : Text :=
  match t with
  | '.' :: c :: cs => if Numeral.isDigit c then cs.dropWhile Numeral.isDigit else t
  | _ => t

def skipExponent (t : Text) : Text :=
  match t with
  | e :: cs =>
    if e = 'e' || e = 'E' then
      let unsigned :=
        match cs with
        | '+' :: cs | '-' :: cs => cs
        | cs => cs
      match unsigned with
      | c :: cs => if Numeral.isDigit c then cs.dropWhile Numeral.isDigit else t
      | [] => t
    else t
  | [] => t

def ofNumber (t : Text) : List Token :=
  let (negative, unsigned) :=
    match t with
    | '-' :: cs => (true, cs)
    | cs => (false, cs)
  let (digits, rest) := splitWhole unsigned
  let behind := skipExponent (skipFraction rest)
  let trailing := if behind.isEmpty then [] else [Token.unreadable]
  if digits.isEmpty then [.unreadable]
  else if behind.length = rest.length then .whole negative digits :: trailing
  else
    match Numeral.readBinary64 (t.take (t.length - behind.length)) with
    | some x => .real x :: trailing
    | none => [.unreadable]

def ofWord (t : Text) : List Token :=
  if t = "null".toList then [.null]
  else if t = "true".toList then [.truth true]
  else if t = "false".toList then [.truth false]
  else if t = "NaN".toList then [.real .nan]
  else if t = "Infinity".toList then [.real (.infinite false)]
  else if t = "-Infinity".toList then [.real (.infinite true)]
  else ofNumber t

/-- Where the automaton stands; what it has seen of a token is kept in reverse. -/
inductive Place where
  | between
  | word (seen : Text)
  | string (seen : List Nat)
  | escape (seen : List Nat)
  | unit (seen : List Nat) (missing value : Nat)

def Place.finish : Place → List Token
  | .between => []
  | .word seen => ofWord seen.reverse
  | _ => [.unreadable]

def tokensFrom : Place → Text → List Token
  | place, [] => place.finish
  | .string seen, c :: cs =>
    if c = '"' then .string (ofUnits seen.reverse) :: tokensFrom .between cs
    else if c = '\\' then tokensFrom (.escape seen) cs
    else if c.toNat < 0x20 then [.unreadable]
    else tokensFrom (.string (c.toNat :: seen)) cs
  | .escape seen, c :: cs =>
    if c = 'u' then tokensFrom (.unit seen 3 0) cs
    else match escape? c with
      | some n => tokensFrom (.string (n :: seen)) cs
      | none => [.unreadable]
  | .unit seen missing value, c :: cs =>
    match Text.hexValue? c with
    | none => [.unreadable]
    | some d =>
      let value := 16 * value + d
      match missing with
      | 0 => tokensFrom (.string (value :: seen)) cs
      | missing + 1 => tokensFrom (.unit seen missing value) cs
  | .between, c :: cs =>
    if isSpace c then tokensFrom .between cs
    else if c = '"' then tokensFrom (.string []) cs
    else match mark? c with
      | some m => m :: tokensFrom .between cs
      | none => tokensFrom (.word [c]) cs
  | .word seen, c :: cs =>
    if isSpace c then ofWord seen.reverse ++ tokensFrom .between cs
    else if c = '"' then ofWord seen.reverse ++ tokensFrom (.string []) cs
    else match mark? c with
      | some m => ofWord seen.reverse ++ m :: tokensFrom .between cs
      | none => tokensFrom (.word (c :: seen)) cs

def tokens (t : Text) : List Token := tokensFrom .between t

end ReceiptPress.Json

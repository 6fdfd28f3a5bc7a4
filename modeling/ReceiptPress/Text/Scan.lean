import ReceiptPress.Text.Basic

namespace ReceiptPress.Text

/-- The length of the match that begins at the head of a text, zero if there is none. -/
abbrev Recogniser := Text → Nat

inductive Piece where
  | char (c : Char)
  | found (word : Text)
  deriving DecidableEq

/-- The pieces of a text of which the first `skip` characters belong to a match already taken. -/
def piecesFrom (recognise : Recogniser) : (skip : Nat) → Text → List Piece
  | _, [] => []
  | skip + 1, _ :: cs => piecesFrom recognise skip cs
  | 0, c :: cs =>
    match recognise (c :: cs) with
    | 0 => .char c :: piecesFrom recognise 0 cs
    | size + 1 => .found ((c :: cs).take (size + 1)) :: piecesFrom recognise size cs

def pieces (recognise : Recogniser) (t : Text) : List Piece := piecesFrom recognise 0 t

namespace Piece

def text : Piece → Text
  | .char c => [c]
  | .found word => word

def char? : Piece → Option Char
  | .char c => some c
  | .found _ => none

def word? : Piece → Option Text
  | .char _ => none
  | .found word => some word

def starts : (offset : Nat) → List Piece → List (Nat × Text)
  | _, [] => []
  | offset, .char _ :: ps => starts (offset + 1) ps
  | offset, .found word :: ps => (offset, word) :: starts (offset + word.length) ps

end Piece

theorem flatMap_text_piecesFrom (recognise : Recogniser) (skip : Nat) (t : Text) :
    (piecesFrom recognise skip t).flatMap Piece.text = t.drop skip := by
  fun_induction piecesFrom recognise skip t with
  | case1 => simp
  | case2 skip c cs ih => simpa using ih
  | case3 c cs h ih => simp [Piece.text, ih]
  | case4 c cs size h ih => simp [Piece.text, ih]

def finds (recognise : Recogniser) (t : Text) : List (Nat × Text) :=
  Piece.starts 0 (pieces recognise t)

def words (recognise : Recogniser) (t : Text) : List Text :=
  (pieces recognise t).filterMap Piece.word?

def remainder (recognise : Recogniser) (t : Text) : Text :=
  (pieces recognise t).filterMap Piece.char?

def literal (word : Text) : Recogniser := fun t => if word.isPrefixOf t then word.length else 0

def replace (word replacement t : Text) : Text :=
  (pieces (literal word) t).flatMap fun
    | .char c => [c]
    | .found _ => replacement

def occurs (word : Text) : Text → Bool
  | [] => word.isEmpty
  | c :: cs => word.isPrefixOf (c :: cs) || occurs word cs

end ReceiptPress.Text

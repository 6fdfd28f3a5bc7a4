import ReceiptPress.Profile
import ReceiptPress.Tag.Dictionary

namespace ReceiptPress

inductive TypeAttribute where
  | bold
  | doubleHeight
  | doubleWidth
  deriving DecidableEq

namespace TypeAttribute

def name : TypeAttribute → String
  | bold => "bold"
  | doubleHeight => "double_height"
  | doubleWidth => "double_width"

def all : List TypeAttribute := [bold, doubleHeight, doubleWidth]

def ofName? (t : Text) : Option TypeAttribute := all.find? (·.name.toList = t)

def isNamedBy (a : TypeAttribute) (e : Tag.Entry) : Bool := e.attributeName = some a.name.toList

end TypeAttribute

structure Tracker where
  bold : Bool := false
  doubleHeight : Bool := false
  doubleWidth : Bool := false
  alignment : Alignment := .left
  deriving DecidableEq

namespace Tracker

def isOn (t : Tracker) : TypeAttribute → Bool
  | .bold => t.bold
  | .doubleHeight => t.doubleHeight
  | .doubleWidth => t.doubleWidth

def switch (t : Tracker) (a : TypeAttribute) (on : Bool) : Tracker :=
  match a with
  | .bold => { t with bold := on }
  | .doubleHeight => { t with doubleHeight := on }
  | .doubleWidth => { t with doubleWidth := on }

/-- The tracker after an entry: toggles switch the attributes that are tracked, alignments align,
and nothing else has an effect. -/
def applyEntry (t : Tracker) (e : Tag.Entry) : Tracker :=
  match e.category with
  | .toggle =>
    match e.attributeName.bind TypeAttribute.ofName? with
    | some a => t.switch a e.enabled
    | none => t
  | .align =>
    match e.alignment with
    | some a => { t with alignment := a }
    | none => t
  | _ => t

def applyTag (d : Tag.Dictionary) (t : Tracker) (tag : Text) : Tracker :=
  match d.get? tag with
  | some e => t.applyEntry e
  | none => t

def apply (d : Tag.Dictionary) (t : Tracker) (tags : List Text) : Tracker :=
  tags.foldl (applyTag d) t

def limit (t : Tracker) (p : Profile) : Value :=
  if t.doubleWidth then p.maxCharsDouble else p.maxCharsNormal

/-- The name of what switches an attribute on: the first toggle tag that does, or else the attribute
itself in capitals. -/
def switchName (d : Tag.Dictionary) (a : TypeAttribute) : Text :=
  match (d.ofCategories [.toggle]).find? fun e => a.isNamedBy e && e.enabled with
  | some e => e.tag
  | none => a.name.toList.map Char.toUpper

def leaks (t : Tracker) (d : Tag.Dictionary) : List Text :=
  (TypeAttribute.all.filter t.isOn).map (switchName d)

end Tracker

def leakMessage (switch : Text) : String :=
  "STATE_LEAK: " ++ String.ofList switch ++
    " instruction active at EOF. Implicit reset applied."

end ReceiptPress

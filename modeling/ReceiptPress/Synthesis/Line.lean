import ReceiptPress.Barcode
import ReceiptPress.Raster
import ReceiptPress.Sale.Basic
import ReceiptPress.Synthesis.Event
import ReceiptPress.Tag.Segment
import ReceiptPress.TransactionId

namespace ReceiptPress.Synthesis

structure Setting where
  sale : Sale
  profile : Profile
  dictionary : Tag.Dictionary
  ids : IdSource

structure Progress where
  tracker : Tracker := {}
  idsUsed : Nat := 0
  deriving DecidableEq

structure Expansion where
  events : List Event
  progress : Progress
  fault : Option Fault := none

/-! ## Data tags -/

def dataText (sale : Sale) (e : Tag.Entry) : Except Fault Text :=
  match e.field.bind sale.field? with
  | some v => if v.isGiven then CodePoints.toText <$> v.text else .ok e.fallback
  | none => .ok e.fallback

def substituteAll (sale : Sale) : List Tag.Entry → Text → Except Fault Text
  | [], line => .ok line
  | e :: rest, line =>
    if Text.occurs e.tag line then do
      let value ← dataText sale e
      substituteAll sale rest (Text.replace e.tag value line)
    else substituteAll sale rest line

def substitute (sale : Sale) (d : Tag.Dictionary) (line : Text) : Except Fault Text :=
  substituteAll sale (d.ofCategories [.data]) line

/-! ## The length of a line -/

def isOver (count : Nat) (limit : Value) : Except Fault Bool :=
  match limit.amount? with
  | some a => .ok (a.compareInt count = some .lt)
  | none => .error (.notComparable ">" .int limit.kind)

def lengthNotices (count : Nat) (limit : Value) (line : Nat) : Except Fault (List Event) := do
  if ← isOver count limit then return [.notice (.overflow count (← limit.text).toText line)]
  else return []

/-! ## Block lines -/

def rows (p : Profile) : List Item → List Event × Option Fault
  | [] => ([], none)
  | item :: rest =>
    match item.row p with
    | .error f => ([], some f)
    | .ok row =>
      let (events, fault) := rows p rest
      (.emit (.ofText (Text.toAscii row)) :: events, fault)

def logoLine (s : Setting) (progress : Progress) (line : Nat) : Expansion :=
  match Raster.canvas s.profile with
  | .error f => { events := [.problem (.logoFault f line)], progress }
  | .ok canvas =>
    { events := [.drawn canvas.label canvas.body.length, .emit ⟨.image, canvas.image⟩], progress }

def barcodeLine (s : Setting) (progress : Progress) (line : Nat) : Expansion :=
  let after := { progress with idsUsed := progress.idsUsed + 1 }
  match s.ids progress.idsUsed with
  | .error f => { events := [], progress := after, fault := some f }
  | .ok id =>
    match Barcode.ofValue id with
    | .error f => { events := [.problem (.barcodeFault f line)], progress := after }
    | .ok bytes => { events := [.emit ⟨.barcode, bytes⟩], progress := after }

def itemsLine (s : Setting) (progress : Progress) (line : Nat) : Expansion :=
  if s.sale.items.isEmpty then { events := [.notice (.noItems line)], progress }
  else
    let (events, fault) := rows s.profile s.sale.items
    { events, progress, fault }

def blockLine (s : Setting) (progress : Progress) (tag : Text) (line : Nat) : Expansion :=
  if tag = Tag.logo then logoLine s progress line
  else if tag = Tag.barcode then barcodeLine s progress line
  else if tag = Tag.items then itemsLine s progress line
  else { events := [.problem (.noExpansion tag line)], progress }

/-! ## Lines of text, and all lines -/

def inlineText (s : Setting) (progress : Progress) (t : Text) (line : Nat) : Expansion :=
  let tracker := progress.tracker.apply s.dictionary (Tag.words t)
  let progress := { progress with tracker }
  match lengthNotices (Tag.visible t).length (tracker.limit s.profile) line with
  | .error f => { events := [], progress, fault := some f }
  | .ok notices =>
    { events :=
        notices ++ (s.dictionary.splitLine t).map .emit ++ [.emit (.ofText lineFeed)]
      progress }

def inlineLine (s : Setting) (progress : Progress) (t : Text) (line : Nat) : Expansion :=
  match substitute s.sale s.dictionary t with
  | .error f => { events := [], progress, fault := some f }
  | .ok t => inlineText s progress t line

def isBlock (d : Tag.Dictionary) (line : Text) : Bool :=
  (d.ofCategories [.block]).any (·.tag = Text.trim line)

def printLine (s : Setting) (progress : Progress) (line : Text) (number : Nat) : Expansion :=
  if isBlock s.dictionary line then blockLine s progress (Text.trim line) number
  else inlineLine s progress line number

/-- Lines of the template, the first of which has a number; a fault ends them. -/
def printLines (s : Setting) (progress : Progress) : List Text → (number : Nat) → Expansion
  | [], _ => { events := [], progress }
  | line :: rest, number =>
    let here := printLine s progress line number
    match here.fault with
    | some _ => here
    | none =>
      let after := printLines s here.progress rest (number + 1)
      { after with events := here.events ++ after.events }

end ReceiptPress.Synthesis

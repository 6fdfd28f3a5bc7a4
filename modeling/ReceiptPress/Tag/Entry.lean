import ReceiptPress.Instruction
import ReceiptPress.Tag.Basic

namespace ReceiptPress.Tag

inductive Category where
  | toggle
  | align
  | block
  | data
  deriving DecidableEq

def Category.name : Category → String
  | .toggle => "TOGGLE"
  | .align => "ALIGN"
  | .block => "BLOCK"
  | .data => "DATA"

structure Entry where
  tag : Text
  title : Text
  category : Category
  bytes : Bytes := []
  pair : Option Text := none
  attributeName : Option Text := none
  enabled : Bool := false
  alignment : Option Alignment := none
  field : Option Text := none
  fallback : Text := []
  deriving DecidableEq

namespace Entry

def emitsBytes (e : Entry) : Bool := e.category = .toggle || e.category = .align

structure WellFormed (e : Entry) : Prop where
  isTag : isTag e.tag = true
  bytes_ne_nil : e.emitsBytes = true → e.bytes ≠ []

instance (e : Entry) : Decidable e.WellFormed :=
  decidable_of_iff (Tag.isTag e.tag = true ∧ (e.emitsBytes = true → e.bytes ≠ []))
    ⟨fun h => ⟨h.1, h.2⟩, fun h => ⟨h.1, h.2⟩⟩

end Entry

end ReceiptPress.Tag

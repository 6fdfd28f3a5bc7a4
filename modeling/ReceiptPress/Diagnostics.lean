namespace ReceiptPress

structure Finding where
  message : String
  line : Option Int := none
  deriving DecidableEq

def Finding.text (f : Finding) : String :=
  match f.line with
  | none => f.message
  | some n => "L" ++ toString n ++ ": " ++ f.message

structure Diagnostics where
  errors : List Finding := []
  warnings : List Finding := []
  deriving DecidableEq

namespace Diagnostics

def error (d : Diagnostics) (f : Finding) : Diagnostics := { d with errors := d.errors ++ [f] }

def warning (d : Diagnostics) (f : Finding) : Diagnostics :=
  { d with warnings := d.warnings ++ [f] }

def ok (d : Diagnostics) : Bool := d.errors.isEmpty

end Diagnostics

end ReceiptPress

import ReceiptPress.Diagnostics

namespace ReceiptPress

inductive LogLevel where
  | debug
  | info
  | error
  deriving DecidableEq

def LogLevel.name : LogLevel → String
  | .debug => "DEBUG"
  | .info => "INFO"
  | .error => "ERROR"

def LogLevel.number : LogLevel → Nat
  | .debug => 10
  | .info => 20
  | .error => 40

inductive LogSource where
  | diagnostics
  | drawing
  | synthesis
  | commandLine
  deriving DecidableEq

def LogSource.name : LogSource → String
  | .diagnostics => "receipt_stream.diagnostics"
  | .drawing => "receipt_stream.encoders"
  | .synthesis => "receipt_stream.synthesizer"
  | .commandLine => "receipt_stream.cli"

structure LogRecord where
  level : LogLevel
  source : LogSource
  message : String
  deriving DecidableEq

namespace LogRecord

def ofError (f : Finding) : LogRecord := ⟨.debug, .diagnostics, "error: " ++ f.text⟩

def ofWarning (f : Finding) : LogRecord := ⟨.debug, .diagnostics, "warning: " ++ f.text⟩

/-- What standard error shows of a record where no logging is set up: the message of a record above
general information, and nothing of the others. -/
def lastResort (r : LogRecord) : String :=
  if 30 ≤ r.level.number then r.message ++ "\n" else ""

end LogRecord

end ReceiptPress

import ReceiptPress.Journal
import ReceiptPress.Number.Numeral
import ReceiptPress.Profile

namespace ReceiptPress

structure Settings where
  profile : Profile := {}
  debugLevel : Value := .ofText "INFO".toList
  logFile : Value := .str []

namespace Settings

def metric (environment : Text → Option Text) (name : String) (default : Value) :
    Except Fault Value :=
  match environment name.toList with
  | none => .ok default
  | some t => Value.int <$> Numeral.readInt t

def word (environment : Text → Option Text) (name : String) (default : Value) : Value :=
  match environment name.toList with
  | none => default
  | some t => .ofText t

def ofEnvironment (environment : Text → Option Text) : Except Fault Settings := do
  let default : Settings := {}
  let metric := metric environment
  let maxCharsNormal ← metric "RECEIPT_MAX_CHARS_NORMAL" default.profile.maxCharsNormal
  let maxCharsDouble ← metric "RECEIPT_MAX_CHARS_DOUBLE" default.profile.maxCharsDouble
  let dotWidth ← metric "RECEIPT_DOT_WIDTH" default.profile.dotWidth
  let logoHeight ← metric "RECEIPT_LOGO_HEIGHT" default.profile.logoHeight
  let nameWidth ← metric "RECEIPT_NAME_WIDTH" default.profile.nameWidth
  let priceWidth ← metric "RECEIPT_PRICE_WIDTH" default.profile.priceWidth
  let previewBytes ← metric "RECEIPT_PREVIEW_BYTES" default.profile.previewBytes
  return {
    profile := { maxCharsNormal, maxCharsDouble, dotWidth, logoHeight, nameWidth, priceWidth,
                 previewBytes }
    debugLevel := word environment "DEBUG_LEVEL" default.debugLevel
    logFile := word environment "LOG_FILE" default.logFile }

def fields (s : Settings) : List (Text × Value) :=
  s.profile.fields ++ [("debug_level".toList, s.debugLevel), ("log_file".toList, s.logFile)]

def record (s : Settings) : List (CodePoints × Value) :=
  s.fields.map fun f => (f.1.toCodePoints, f.2)

end Settings

inductive LogColumn where
  | time
  | source
  | level
  | message

namespace LogColumn

def all : List LogColumn := [time, source, level, message]

def placeholder : LogColumn → String
  | time => "%(asctime)s"
  | source => "%(name)s"
  | level => "%(levelname)s"
  | message => "%(message)s"

def content (now : String) (r : LogRecord) : LogColumn → String
  | time => now
  | source => r.source.name
  | level => r.level.name
  | message => r.message

end LogColumn

inductive LogTarget where
  | stream
  | file
  deriving DecidableEq

structure LogSetup where
  level : Nat
  target : LogTarget

namespace LogSetup

def arrange (column : LogColumn → String) : String := " - ".intercalate (LogColumn.all.map column)

def layout : String := arrange LogColumn.placeholder

def line (now : String) (r : LogRecord) : String := arrange (LogColumn.content now r) ++ "\n"

def upper (c : Char) : Char :=
  if c = 'ı' then 'I' else if c = 'ſ' then 'S' else c.toUpper

/-- The number of a level by its name, in any case of its letters; an unknown name stands for the
level of general information. -/
def levelNumber (name : Text) : Nat :=
  match String.ofList (name.map upper) with
  | "CRITICAL" | "FATAL" => 50
  | "ERROR" => 40
  | "WARNING" | "WARN" => 30
  | "DEBUG" => 10
  | "NOTSET" => 0
  | _ => 20

def ofFields (fields : List (CodePoints × Value)) : Except Fault LogSetup := do
  let target :=
    match Value.field? "log_file".toList fields with
    | some v => if v.isGiven then LogTarget.file else .stream
    | none => .stream
  match ← Profile.setting "debug_level" fields with
  | .str name => return ⟨levelNumber name.toText, target⟩
  | v => throw (.notALevel v.kind)

def keeps (setup : LogSetup) (r : LogRecord) : Bool := setup.level ≤ r.level.number

end LogSetup

end ReceiptPress

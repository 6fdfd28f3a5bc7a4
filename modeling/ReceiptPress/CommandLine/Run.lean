import ReceiptPress.CommandLine.Arguments
import ReceiptPress.Json.Reader
import ReceiptPress.Sale.Job
import ReceiptPress.Stream.Listing
import ReceiptPress.Stream.Report
import ReceiptPress.Synthesis.Run
import ReceiptPress.Text.Utf8

namespace ReceiptPress.CommandLine

/-! ## Loading -/

inductive FileFault where
  | missing
  | directory
  | notADirectory
  | nullCharacter
  | refused
  deriving DecidableEq

abbrev Files := Text → Except FileFault Bytes

inductive LoadFault where
  | file (f : FileFault)
  | encoding
  | json
  | contents (f : Fault)
  deriving DecidableEq

def LoadFault.message : LoadFault → String
  | .file .missing => "no such file"
  | .file .directory => "the file is a directory"
  | .file .notADirectory => "a part of the path is no directory"
  | .file .nullCharacter => "embedded null byte"
  | .file .refused => "the file cannot be read"
  | .encoding => "the file is not UTF-8"
  | .json => "the file is not JSON"
  | .contents f => f.message

def LoadFault.record (f : LoadFault) : LogRecord :=
  ⟨.error, .commandLine, "Failed to load receipt job: " ++ f.message⟩

/-- Whether a run handles a fault while it loads. It handles those of files and formats, and of
values that are unacceptable or of the wrong kind. -/
def LoadFault.isHandled : LoadFault → Bool
  | .contents f =>
    match f.family with
    | .value | .encoder | .kind => true
    | _ => false
  | _ => true

def readText (files : Files) (name : Text) : Except LoadFault Text :=
  match files name with
  | .error f => .error (.file f)
  | .ok bytes =>
    match Utf8.decode bytes with
    | some t => .ok (Text.unifyNewlines t)
    | none => .error .encoding

def readJson (files : Files) (name : Text) : Except LoadFault Value := do
  match Json.read (← readText files name) with
  | .ok v => return v
  | .error .malformed => throw .json
  | .error (.tooLong digits) => throw (.contents (.tooLongToRead digits))
  | .error .listTooDeep => throw (.contents .listTooDeep)
  | .error .recordTooDeep => throw (.contents .recordTooDeep)

/-- The description of the job: the job file if one is named, and else the template with its items,
if there are any. -/
def readDescription (files : Files) (r : Request) : Except LoadFault Value := do
  if isNamed r.job then readJson files (r.job.getD [])
  else
    let template ← readText files (r.template.getD [])
    let items ←
      if isNamed r.items then
        pure [(Text.toCodePoints "items".toList, ← readJson files (r.items.getD []))]
      else pure []
    return .object ((Text.toCodePoints "template".toList, .ofText template) :: items)

def loadJob (files : Files) (r : Request) : Except LoadFault Job := do
  match Job.ofValue (← readDescription files r) r.identifier with
  | .ok job => return job
  | .error f => throw (.contents f)

/-! ## Releasing -/

def render (format : Format) (p : Profile) (chunks : List Chunk) : Except Fault Bytes :=
  match format with
  | .raw => .ok (payload chunks)
  | .hex => .ok (Utf8.encode (Bytes.dump Stream.usualWidth (payload chunks) ++ ['\n']))
  | .base64 => .ok (Utf8.encode (Bytes.base64 (payload chunks) ++ ['\n']))
  | .decode => .ok (Utf8.encode (Stream.listing (payload chunks) ++ ['\n']))
  | .summary => do
    let s ← Stream.summarize p chunks
    return Utf8.encode
      (Text.ofNat s.size ++ " BYTES\n".toList ++ s.preview ++ ['\n'])

def Request.files (r : Request) : List Text :=
  ([r.job, r.template, r.items].filter isNamed).map (·.getD [])

/-- What a run tells apart from its output: a record, for logging to show or not, or a line that it
writes to standard error itself. -/
inductive Message where
  | record (r : LogRecord)
  | line (text : String)
  deriving DecidableEq

def Message.shown (record : LogRecord → String) : Message → String
  | .record r => record r
  | .line text => text

inductive Outcome where
  | usage (e : UsageError)
  | help
  | notLoaded (f : LoadFault)
  | unhandled (f : Fault)
  | withheld (r : Synthesis.Result)
  | released (r : Synthesis.Result) (output : Bytes)

namespace Outcome

def status : Outcome → Nat
  | usage _ => 2
  | help => 0
  | notLoaded _ => 2
  | unhandled _ => 1
  | withheld _ => 1
  | released _ _ => 0

def output : Outcome → Bytes
  | released _ bytes => bytes
  | _ => []

def report (r : Synthesis.Result) : List String :=
  (r.errors.map fun e => "ERROR: " ++ e ++ "\n") ++
    r.warnings.map fun w => "WARNING: " ++ w ++ "\n"

def withholding (r : Synthesis.Result) : LogRecord :=
  ⟨.error, .commandLine, "Stream withheld: " ++ toString r.errors.length ++ " error(s)"⟩

def journal : Outcome → List LogRecord
  | withheld r => r.journal ++ [withholding r]
  | released r _ => r.journal
  | _ => []

/-- What a run that returns tells apart from its output, in order. -/
def messages : Outcome → List Message
  | notLoaded f => [.record f.record]
  | withheld r => r.journal.map .record ++ (report r).map .line ++ [.record (withholding r)]
  | released r _ => r.journal.map .record ++ (report r).map .line
  | _ => []

/-- What a run that returns leaves on standard error, if logging shows records there as given. -/
def stderr (shown : LogRecord → String) (o : Outcome) : String :=
  String.join (o.messages.map (Message.shown shown))

def reported (o : Outcome) : String := o.stderr fun _ => ""

end Outcome

/-! ## Running -/

def idsFor (r : Request) (ids : IdSource) : IdSource :=
  if isNamed r.transactionId then .constant (r.transactionId.getD []) else ids

def runRequest (files : Files) (p : Profile) (ids : IdSource) (r : Request) : Outcome :=
  match loadJob files r with
  | .error f =>
    match f with
    | .contents cause => if f.isHandled then .notLoaded f else .unhandled cause
    | f => .notLoaded f
  | .ok job =>
    let result := Synthesis.run
      { sale := job.sale, profile := p, dictionary := Tag.Dictionary.standard,
        ids := idsFor r ids } (.str job.template)
    if result.ok then
      match render r.format p result.chunks with
      | .ok bytes => .released result bytes
      | .error f => .unhandled f
    else .withheld result

def run (files : Files) (p : Profile) (ids : IdSource) (arguments : List Text) : Outcome :=
  match parse arguments with
  | .error e => .usage e
  | .ok .help => .help
  | .ok (.request r) => runRequest files p ids r

end ReceiptPress.CommandLine

import ReceiptPress.Text.DecimalDigit
import ReceiptPress.Text.Quoted

namespace ReceiptPress.CommandLine

/-! ## Options and refusals -/

inductive Opt where
  | help
  | template
  | items
  | identifier
  | transactionId
  | format
  deriving DecidableEq

def spellings : List (Text × Opt) :=
  [("-h".toList, .help), ("--help".toList, .help), ("--template".toList, .template),
    ("--items".toList, .items), ("--identifier".toList, .identifier),
    ("--transaction-id".toList, .transactionId), ("--format".toList, .format)]

def Opt.title (o : Opt) : Text :=
  Text.join ['/'] ((spellings.filter (·.2 = o)).map (·.1))

inductive Format where
  | summary
  | hex
  | base64
  | decode
  | raw
  deriving DecidableEq

def formats : List (Text × Format) :=
  [("summary".toList, .summary), ("hex".toList, .hex), ("base64".toList, .base64),
    ("decode".toList, .decode), ("raw".toList, .raw)]

inductive UsageError where
  | ambiguous (argument : Text) (candidates : List Text)
  | valueMissing (o : Opt)
  | valueIgnored (o : Opt) (value : Text)
  | unknownFormat (value : Text)
  | unrecognized (arguments : List Text)
  | nothingToDo
  deriving DecidableEq

def UsageError.message : UsageError → String
  | ambiguous argument candidates =>
    "ambiguous option: " ++ String.ofList argument ++ " could match " ++
      String.ofList (Text.join ", ".toList candidates)
  | valueMissing o => "argument " ++ String.ofList o.title ++ ": expected one argument"
  | valueIgnored o value =>
    "argument " ++ String.ofList o.title ++ ": ignored explicit argument " ++
      String.ofList (Text.quoted value)
  | unknownFormat value =>
    "argument " ++ String.ofList Opt.format.title ++ ": invalid choice: " ++
      String.ofList (Text.quoted value) ++ " (choose from " ++
      String.ofList (Text.join ", ".toList (formats.map fun f => Text.quoted f.1)) ++ ")"
  | unrecognized arguments =>
    "unrecognized arguments: " ++ String.ofList (Text.join [' '] arguments)
  | nothingToDo => "either a job file or --template is required"

/-! ## Classes of arguments -/

def doubleDash : Text := ['-', '-']

inductive Argument where
  | plain (t : Text)
  | separator
  | option (o : Opt) (value : Option Text)
  | shortHelp (more : Text)
  | unknown (t : Text)

def splitEquals (t : Text) : Text × Option Text :=
  match t.dropWhile (· ≠ '=') with
  | [] => (t, none)
  | _ :: value => (t.takeWhile (· ≠ '='), some value)

/-- A minus sign and a decimal numeral without an exponent. One line feed may follow. -/
def isNegativeNumber (t : Text) : Bool :=
  match t with
  | '-' :: cs =>
    let body := if cs.getLast? = some '\n' then cs.dropLast else cs
    let fraction := body.dropWhile Text.isDecimalDigit
    match fraction with
    | [] => !body.isEmpty
    | '.' :: digits => !digits.isEmpty && digits.all Text.isDecimalDigit
    | _ => false
  | _ => false

def candidates (name : Text) : List (Text × Opt) :=
  spellings.filter fun s => name.isPrefixOf s.1

def behindShortHelp? : Text → Option Text
  | '-' :: 'h' :: '=' :: value => some value
  | '-' :: 'h' :: more => some more
  | _ => none

def classifyDashed (t : Text) : Except UsageError Argument :=
  let (name, value) := splitEquals t
  let other : Argument :=
    if isNegativeNumber t || t.contains ' ' then .plain t else .unknown t
  match t with
  | '-' :: '-' :: _ =>
    match candidates name with
    | [] => .ok other
    | [s] => .ok (.option s.2 value)
    | several => .error (.ambiguous t (several.map (·.1)))
  | _ => .ok other

def classify (t : Text) : Except UsageError Argument :=
  match t with
  | '-' :: _ :: _ =>
    match spellings.find? (·.1 = t) with
    | some s => .ok (.option s.2 none)
    | none =>
      match behindShortHelp? t with
      | some more => .ok (.shortHelp more)
      | none =>
        let (name, value) := splitEquals t
        match value, spellings.find? (·.1 = name) with
        | some value, some s => .ok (.option s.2 (some value))
        | _, _ => classifyDashed t
  | _ => .ok (.plain t)

def classifyAll : List Text → Except UsageError (List Argument)
  | [] => .ok []
  | t :: rest =>
    if t = doubleDash then .ok (.separator :: rest.map .plain)
    else do
      let first ← classify t
      let others ← classifyAll rest
      return first :: others

/-! ## Requests -/

structure Request where
  job : Option Text := none
  template : Option Text := none
  items : Option Text := none
  identifier : Option Text := none
  transactionId : Option Text := none
  format : Format := .summary

structure Taken where
  request : Request := {}
  jobOpen : Bool := true
  extras : List Text := []

inductive Parsed where
  | request (r : Request)
  | help

def shortHelp : Text → Except UsageError Parsed
  | ['h'] => .ok .help
  | 'h' :: more => shortHelp more
  | value => .error (.valueIgnored .help value)

def Request.setOption (r : Request) (o : Opt) (value : Text) : Except UsageError Request :=
  match o with
  | .help => .error (.valueIgnored .help value)
  | .template => .ok { r with template := some value }
  | .items => .ok { r with items := some value }
  | .identifier => .ok { r with identifier := some value }
  | .transactionId => .ok { r with transactionId := some value }
  | .format =>
    match formats.find? (·.1 = value) with
    | some f => .ok { r with format := f.2 }
    | none => .error (.unknownFormat value)

/-- The request with an option that is given nothing: its value is empty, and the output has its
usual form. -/
def Request.clearOption (r : Request) : Opt → Except UsageError Request
  | .format => .ok { r with format := .summary }
  | o => r.setOption o []

def Request.setExplicit (r : Request) (o : Opt) (value : Text) : Except UsageError Request :=
  if o ≠ .help && value = doubleDash then r.clearOption o else r.setOption o value

/-- Takes classified arguments from left to right. The first word by itself names the job file; a
double dash next to it is dropped. -/
def take (s : Taken) : List Argument → Except UsageError Parsed
  | [] =>
    if s.extras.isEmpty then .ok (.request s.request)
    else .error (.unrecognized s.extras.reverse)
  | .option .help none :: _ => .ok .help
  | .option o (some value) :: rest => do
    take { s with request := ← s.request.setExplicit o value } rest
  | .option o none :: .plain value :: rest => do
    take { s with request := ← s.request.setOption o value } rest
  | .option o none :: _ => .error (.valueMissing o)
  | .shortHelp more :: _ => shortHelp more
  | .unknown t :: rest => take { s with extras := t :: s.extras } rest
  | .plain t :: rest =>
    if s.jobOpen then
      let s := { s with request := { s.request with job := some t }, jobOpen := false }
      match rest with
      | .separator :: rest => take s rest
      | rest => take s rest
    else take { s with extras := t :: s.extras } rest
  | .separator :: rest =>
    if s.jobOpen then take s rest else take { s with extras := doubleDash :: s.extras } rest

def isNamed (t : Option Text) : Bool := (t.map (!·.isEmpty)).getD false

def parse (arguments : List Text) : Except UsageError Parsed := do
  match ← take {} (← classifyAll arguments) with
  | .help => return .help
  | .request r =>
    if isNamed r.job || isNamed r.template then return .request r else throw .nothingToDo

end ReceiptPress.CommandLine

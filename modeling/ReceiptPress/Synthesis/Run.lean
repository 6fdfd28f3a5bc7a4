import ReceiptPress.Synthesis.Line

/-!
# Making a stream

A template is first audited as a whole: every tag that the dictionary does not hold is a problem,
and so is a sale without an identifier. Then the printer is initialised, the lines are printed, what
was left on is reported, and the paper is cut. A fault on the way keeps what was done before it and
leaves out the rest. Data that is no finished sale has to tell of one; where it does not, that is
reported in place of a stream.
-/

namespace ReceiptPress.Synthesis

def audit (s : Setting) (template : Text) : List Event :=
  ((Tag.words template).filter (!s.dictionary.contains ·)).map (.problem ∘ .unknownTag) ++
    if s.sale.identifier.isGiven then [] else [.problem .noIdentity]

def leaks (s : Setting) (t : Tracker) : List Event :=
  (t.leaks s.dictionary).map (.notice ∘ .leak)

def printing (s : Setting) (template : Text) : List Event :=
  let body := printLines s {} (Text.lines template) 1
  .emit (.ofText Instruction.init.bytes) :: body.events ++
    match body.fault with
    | some f => [.problem (.aborted f)]
    | none => leaks s body.progress.tracker ++ [.emit (.ofText Instruction.cut.bytes)]

/-- The events of a synthesis. The dictionary keeps its scan list for all lines. -/
def eventsOf (s : Setting) (template : Value) : List Event :=
  let s := { s with dictionary := s.dictionary.keeping }
  match template with
  | .str t => audit s t.toText ++ printing s t.toText
  | v => [.problem (.aborted (.notATemplate v.kind))]

structure Result where
  chunks : List Chunk
  problems : List Problem
  notices : List Notice
  journal : List LogRecord

namespace Result

def diagnostics (r : Result) : Diagnostics :=
  { errors := r.problems.map Problem.finding, warnings := r.notices.map Notice.finding }

def errors (r : Result) : List String := r.diagnostics.errors.map Finding.text

def warnings (r : Result) : List String := r.diagnostics.warnings.map Finding.text

def ok (r : Result) : Bool := r.diagnostics.ok

def payload (r : Result) : Bytes := ReceiptPress.payload r.chunks

def closing (chunks problems notices : Nat) : LogRecord :=
  ⟨.info, .synthesis,
    "Synthesized " ++ toString chunks ++ " chunks (" ++ toString problems ++ " errors, " ++
      toString notices ++ " warnings)"⟩

def ofEvents (events : List Event) : Result :=
  let chunks := events.filterMap Event.chunk?
  let problems := events.filterMap Event.problem?
  let notices := events.filterMap Event.notice?
  { chunks
    problems
    notices
    journal :=
      events.flatMap Event.records ++ [closing chunks.length problems.length notices.length] }

def unusable (f : Fault) : Result :=
  { chunks := []
    problems := [.aborted f]
    notices := []
    journal := [⟨.error, .synthesis, "Unusable receipt data: " ++ f.message⟩] }

end Result

def run (s : Setting) (template : Value) : Result := .ofEvents (eventsOf s template)

inductive Data where
  | sale (s : Sale)
  | value (v : Value)

/-- Whether a fault of a value that tells of no sale is reported in place of a stream: one of a
value that is not acceptable, of the wrong kind or without the operation asked of it. Any other goes
on to the caller. -/
def isReported (f : Fault) : Bool :=
  match f.family with
  | .value | .encoder | .kind | .member => true
  | _ => false

def runFor (data : Data) (profile : Profile) (dictionary : Tag.Dictionary) (ids : IdSource)
    (template : Value) : Except Fault Result :=
  match data with
  | .sale sale => .ok (run { sale, profile, dictionary, ids } template)
  | .value v =>
    match Sale.ofValue v with
    | .ok sale => .ok (run { sale, profile, dictionary, ids } template)
    | .error f => if isReported f then .ok (.unusable f) else .error f

end ReceiptPress.Synthesis

import ReceiptPress.Proofs.Bytes.Base64
import ReceiptPress.Proofs.CommandLine.Loading
import ReceiptPress.Proofs.Synthesis.Journal

namespace ReceiptPress.CommandLine

variable {files : Files} {p : Profile} {ids : IdSource} {r : Request}

/-! ## What is written -/

def Request.streamOf (r : Request) (p : Profile) (ids : IdSource) (job : Job) : Synthesis.Result :=
  Synthesis.run { sale := job.sale, profile := p, dictionary := .standard, ids := idsFor r ids }
    (.str job.template)

/-- Output is a stream in a form. From Base64 the bytes of the stream can be read back, and the
first line of a summary gives their number. -/
def Shows (p : Profile) (stream : Synthesis.Result) (output : Bytes) : Format → Prop
  | .raw => output = stream.payload
  | .hex => output = Utf8.encode (Bytes.dump 16 stream.payload ++ ['\n'])
  | .base64 =>
    let text := Bytes.base64 stream.payload
    Bytes.ofBase64? text = some stream.payload ∧ output = Utf8.encode (text ++ ['\n'])
  | .decode => output = Utf8.encode (Stream.listing stream.payload ++ ['\n'])
  | .summary =>
    ∃ preview, Stream.previewOf p.previewBytes stream.chunks = .ok preview ∧
      output = Utf8.encode
        (Text.ofNat stream.payload.length ++ " BYTES\n".toList ++ preview ++ ['\n'])

theorem shows_of_render {stream : Synthesis.Result} {output : Bytes} {format : Format}
    (rendered : render format p stream.chunks = .ok output) : Shows p stream output format := by
  cases format with
  | raw | hex | decode => exact (Except.ok.inj rendered).symm
  | base64 => exact ⟨Bytes.ofBase64?_base64 _, (Except.ok.inj rendered).symm⟩
  | summary =>
    obtain ⟨summary, summed, written⟩ := bind_eq_ok.1 rendered
    obtain ⟨preview, previewed, made⟩ := bind_eq_ok.1 summed
    cases made
    refine ⟨preview, previewed, ?_⟩
    rw [Synthesis.Result.payload, length_payload]
    exact (Except.ok.inj written).symm

/-! ## What standard error shows -/

theorem join_map_eq_empty {records : List LogRecord} {shown : LogRecord → String}
    (silent : ∀ record ∈ records, shown record = "") : String.join (records.map shown) = "" := by
  rw [List.map_eq_replicate_iff.2 silent]
  induction records.length with
  | zero => rfl
  | succ n ih => rw [List.replicate_succ, String.join_cons, ih, String.append_empty]

/-- A run tells of records, then of lines of its own, and then of more records. -/
def Outcome.Tells (o : Outcome) (before : List LogRecord) (lines : List String)
    (after : List LogRecord) : Prop :=
  o.messages = before.map Message.record ++ lines.map Message.line ++ after.map Message.record

namespace Outcome.Tells

variable {o : Outcome} {before after : List LogRecord} {lines : List String}

theorem stderr_eq (tells : o.Tells before lines after) (shown : LogRecord → String) :
    o.stderr shown =
      String.join (before.map shown) ++ String.join lines ++ String.join (after.map shown) := by
  have of_records : Message.shown shown ∘ Message.record = shown := rfl
  have of_lines : Message.shown shown ∘ Message.line = id := rfl
  rw [Outcome.stderr, tells]
  simp only [List.map_append, List.map_map, of_records, of_lines, List.map_id, String.join_append]

theorem reported_eq (tells : o.Tells before lines after) : o.reported = String.join lines := by
  rw [Outcome.reported, tells.stderr_eq, join_map_eq_empty fun _ _ => rfl,
    join_map_eq_empty fun _ _ => rfl, String.append_empty, String.empty_append]

theorem stderr_of_silent (tells : o.Tells before lines []) {shown : LogRecord → String}
    (silent : ∀ record ∈ before, shown record = "") : o.stderr shown = String.join lines := by
  rw [tells.stderr_eq, join_map_eq_empty silent, String.empty_append, List.map_nil,
    String.join_nil, String.append_empty]

end Outcome.Tells

theorem lastResort_of_level {record : LogRecord} (level_ne : record.level ≠ .error) :
    record.lastResort = "" := by
  refine if_neg fun high => ?_
  cases level : record.level with
  | debug | info =>
    rw [level] at high
    contradiction
  | error => exact level_ne level

theorem lastResort_of_clean {s : Synthesis.Setting} {template : Value}
    (clean : (Synthesis.run s template).errors = []) {record : LogRecord}
    (mem : record ∈ (Synthesis.run s template).journal) : record.lastResort = "" :=
  lastResort_of_level ((Synthesis.isFaithful_ofEvents _).level_ne_error clean mem)

/-! ## How a run returns -/

/-- The status that a run returns. A run does not return if its arguments are not understood or ask
for help, or if a fault gets past it. -/
def Outcome.returned? : Outcome → Option Nat
  | usage _ | help | unhandled _ => none
  | o => some o.status

theorem errors_eq_nil_iff {stream : Synthesis.Result} :
    stream.errors = [] ↔ stream.ok = true := by
  rw [Synthesis.Result.errors, List.map_eq_nil_iff, Synthesis.Result.ok, Diagnostics.ok,
    List.isEmpty_iff]

inductive Returned (files : Files) (p : Profile) (ids : IdSource) (r : Request) : Outcome → Prop
  | notLoaded {f : LoadFault} (refused : loadJob files r = .error f) :
      Returned files p ids r (.notLoaded f)
  | withheld {job : Job} (loaded : loadJob files r = .ok job)
      (errors : (r.streamOf p ids job).errors ≠ []) :
      Returned files p ids r (.withheld (r.streamOf p ids job))
  | released {job : Job} {output : Bytes} (loaded : loadJob files r = .ok job)
      (clean : (r.streamOf p ids job).errors = [])
      (shows : Shows p (r.streamOf p ids job) output r.format) :
      Returned files p ids r (.released (r.streamOf p ids job) output)

theorem runRequest_of_rendered {job : Job} (loaded : loadJob files r = .ok job)
    (clean : (r.streamOf p ids job).errors = []) {output : Bytes}
    (rendered : render r.format p (r.streamOf p ids job).chunks = .ok output) :
    runRequest files p ids r = .released (r.streamOf p ids job) output := by
  rw [errors_eq_nil_iff] at clean
  unfold Request.streamOf at clean rendered
  simp only [runRequest, loaded, clean, if_true, rendered]
  rfl

theorem runRequest_of_not_rendered {job : Job} (loaded : loadJob files r = .ok job)
    (clean : (r.streamOf p ids job).errors = []) {f : Fault}
    (refused : render r.format p (r.streamOf p ids job).chunks = .error f) :
    runRequest files p ids r = .unhandled f := by
  rw [errors_eq_nil_iff] at clean
  unfold Request.streamOf at clean refused
  simp only [runRequest, loaded, clean, if_true, refused]

theorem runRequest_of_errors {job : Job} (loaded : loadJob files r = .ok job)
    (errors : (r.streamOf p ids job).errors ≠ []) :
    runRequest files p ids r = .withheld (r.streamOf p ids job) := by
  rw [Ne, errors_eq_nil_iff] at errors
  rw [runRequest, loaded]
  exact if_neg errors

theorem returned_of_runRequest {code : Nat}
    (returned : (runRequest files p ids r).returned? = some code) :
    Returned files p ids r (runRequest files p ids r) := by
  cases loaded : loadJob files r with
  | error f =>
    have refused : runRequest files p ids r = .notLoaded f ∧ _ ∨ _ := runRequest_of_error loaded
    rcases refused with ⟨ended, -⟩ | ⟨_, -, -, ended⟩
    · rw [ended]
      exact .notLoaded loaded
    · rw [ended] at returned
      cases returned
  | ok job =>
    by_cases clean : (r.streamOf p ids job).errors = []
    · cases rendered : render r.format p (r.streamOf p ids job).chunks with
      | ok output =>
        rw [runRequest_of_rendered loaded clean rendered]
        exact .released loaded clean (shows_of_render rendered)
      | error f =>
        rw [runRequest_of_not_rendered loaded clean rendered] at returned
        cases returned
    · rw [runRequest_of_errors loaded clean]
      exact .withheld loaded clean

theorem exists_request_of_returned {arguments : List Text} {code : Nat}
    (returned : (run files p ids arguments).returned? = some code) :
    ∃ r, parse arguments = .ok (.request r) ∧
      run files p ids arguments = runRequest files p ids r := by
  unfold run at returned ⊢
  split at returned
  · cases returned
  · cases returned
  · rename_i r parsed
    exact ⟨r, parsed, rfl⟩

section

variable {o : Outcome} {job : Job}

theorem Returned.status_eq (ended : Returned files p ids r o) :
    (o.status = 0 ↔ ∃ job, loadJob files r = .ok job ∧ (r.streamOf p ids job).errors = []) ∧
      (o.status = 1 ↔ ∃ job, loadJob files r = .ok job ∧ (r.streamOf p ids job).errors ≠ []) ∧
      (o.status = 2 ↔ ∃ f, loadJob files r = .error f) ∧ (o.status = 0 ∨ o.output = []) := by
  cases ended with
  | notLoaded refused => simp [refused, Outcome.status, Outcome.output]
  | withheld loaded errors => simp [loaded, errors, Outcome.status, Outcome.output]
  | released loaded clean => simp [loaded, clean, Outcome.status]

theorem Returned.tells_of_refused (ended : Returned files p ids r o) {f : LoadFault}
    (refused : loadJob files r = .error f) : o.Tells [] [] [f.record] := by
  cases ended with
  | notLoaded refused' =>
    cases refused.symm.trans refused'
    rfl
  | withheld loaded | released loaded => cases refused.symm.trans loaded

theorem Returned.tells_of_loaded (ended : Returned files p ids r o)
    (loaded : loadJob files r = .ok job) :
    let stream := r.streamOf p ids job
    o.Tells stream.journal (Outcome.report stream)
      (if o.status = 0 then [] else [Outcome.withholding stream]) := by
  cases ended with
  | notLoaded refused => cases refused.symm.trans loaded
  | withheld loaded' =>
    cases loaded.symm.trans loaded'
    rfl
  | released loaded' =>
    cases loaded.symm.trans loaded'
    exact (List.append_nil _).symm

theorem Returned.shows (ended : Returned files p ids r o) (loaded : loadJob files r = .ok job)
    (done : o.status = 0) :
    (r.streamOf p ids job).errors = [] ∧ Shows p (r.streamOf p ids job) o.output r.format := by
  cases ended with
  | notLoaded | withheld => cases done
  | released loaded' clean shows =>
    cases loaded.symm.trans loaded'
    exact ⟨clean, shows⟩

end

theorem status_of_returned {o : Outcome} {code : Nat} (returned : o.returned? = some code) :
    code = o.status := by
  cases o <;> cases returned <;> rfl

/-- A run that returns gives status 0 exactly if the job can be loaded and its stream has no errors,
1 if the stream has errors, and 2 if the job cannot be loaded. Only with status 0 is anything
written, and then it shows the stream in the form asked for. Standard error gets one line for each
finding on the stream, the errors first, and the records that logging shows there: those of the
synthesis before these lines, and one for a stream withheld or a job not loaded after them. Where no
logging is set up, a released stream shows no record. -/
theorem run_of_returned {arguments : List Text} {code : Nat}
    (returned : (run files p ids arguments).returned? = some code) :
    ∃ r, parse arguments = .ok (.request r) ∧
      let outcome := run files p ids arguments
      let stream := r.streamOf p ids
      (code = 0 ↔ ∃ job, loadJob files r = .ok job ∧ (stream job).errors = []) ∧
        (code = 1 ↔ ∃ job, loadJob files r = .ok job ∧ (stream job).errors ≠ []) ∧
        (code = 2 ↔ ∃ f, loadJob files r = .error f) ∧
        (code = 0 ∨ outcome.output = []) ∧
        (∀ f, loadJob files r = .error f →
          outcome.reported = "" ∧
            outcome.Tells [] []
              [⟨.error, .commandLine, "Failed to load receipt job: " ++ f.message⟩]) ∧
        ∀ job, loadJob files r = .ok job →
          let errors := (stream job).errors
          let lines := errors.map (fun e => "ERROR: " ++ e ++ "\n") ++
            (stream job).warnings.map fun w => "WARNING: " ++ w ++ "\n"
          let withheld := "Stream withheld: " ++ toString errors.length ++ " error(s)"
          outcome.reported = String.join lines ∧
            outcome.Tells (stream job).journal lines
              (if code = 0 then [] else [⟨.error, .commandLine, withheld⟩]) ∧
            (code = 0 →
              outcome.stderr LogRecord.lastResort = String.join lines ∧
                Shows p (stream job) outcome.output r.format) := by
  obtain ⟨r, parsed, run_eq⟩ := exists_request_of_returned returned
  refine ⟨r, parsed, ?_⟩
  dsimp only
  rw [run_eq] at returned ⊢
  have ended := returned_of_runRequest returned
  rw [status_of_returned returned]
  obtain ⟨zero, one, two, silent⟩ := ended.status_eq
  refine ⟨zero, one, two, silent, fun f refused => ?_, fun job loaded => ?_⟩
  · have tells := ended.tells_of_refused refused
    exact ⟨tells.reported_eq, tells⟩
  · have tells := ended.tells_of_loaded loaded
    refine ⟨tells.reported_eq, tells, fun done => ?_⟩
    obtain ⟨clean, shows⟩ := ended.shows loaded done
    dsimp only at tells
    rw [if_pos done] at tells
    exact ⟨tells.stderr_of_silent fun _ => lastResort_of_clean clean, shows⟩

theorem run_of_returned_bold :
    let files := Files.single "job".toList
      "\x7b\"template\": \"\x7b\x7bB_ON\x7d\x7dTea\"\x7d".toList
    let arguments := ["job".toList, "--identifier".toList, "Tea Room".toList, "--format".toList,
      "base64".toList]
    let r : Request :=
      { job := some "job".toList, identifier := some "Tea Room".toList, format := .base64 }
    let outcome := run files {} (.ofList []) arguments
    outcome.returned? = some 0 ∧ ∃ job, loadJob files r = .ok job ∧
      let stream := r.streamOf {} (.ofList []) job
      stream.errors = [] ∧ outcome.reported = String.join (Outcome.report stream) ∧
        outcome.stderr LogRecord.lastResort = String.join (Outcome.report stream) ∧
        Shows {} stream outcome.output .base64 := by
  intro files arguments r outcome
  have parsed : parse arguments = .ok (.request r) := rfl
  have returned : outcome.returned? = some 0 := by decide +kernel
  obtain ⟨r', parsed', zero, -, -, -, -, reports⟩ := run_of_returned returned
  cases parsed.symm.trans parsed'
  obtain ⟨job, loaded, clean⟩ := zero.1 rfl
  obtain ⟨reported, -, released⟩ := reports job loaded
  obtain ⟨stderr_eq, shows⟩ := released rfl
  exact ⟨returned, job, loaded, clean, reported, stderr_eq, shows⟩

/-- A template with an unknown tag gives one error, and a job that is no record gives none. Where no
logging is set up, standard error shows one more line for each: the record of the stream withheld,
and that of the job not loaded. -/
theorem records_on_stderr :
    let template := Files.single "t".toList "\x7b\x7bFOO\x7d\x7d".toList
    let withheld := run template {} (.ofList [])
      ["--template".toList, "t".toList, "--identifier".toList, "X".toList]
    let refused := run (Files.single "j".toList "5".toList) {} (.ofList []) ["j".toList]
    let line := "ERROR: MALFORMED_TAG: \"\x7b\x7bFOO\x7d\x7d\" " ++
      "is not a recognized ESC/POS instruction.\n"
    withheld.returned? = some 1 ∧ withheld.reported = line ∧
      withheld.stderr LogRecord.lastResort = line ++ "Stream withheld: 1 error(s)\n" ∧
      refused.returned? = some 2 ∧ refused.reported = "" ∧
      refused.stderr LogRecord.lastResort =
        "Failed to load receipt job: Job must be a JSON object\n" := by
  decide +kernel

end ReceiptPress.CommandLine

import ReceiptPress.CommandLine.Run
import ReceiptPress.Proofs.Json.Nesting
import ReceiptPress.Proofs.Sale.Refusals

/-!
# Jobs that cannot be loaded

A run that is asked for a receipt withholds it, releases it or refuses the job, unless a fault gets
past it. `Escapes` says when one does (`run_of_request`): a file nests too deep, an element of the
items is no record, or the total is beyond the largest binary64 number.
-/

namespace ReceiptPress.CommandLine

variable {files : Files} {r : Request} {cause : Fault}

/-! ## What is handled -/

theorem family_of_not_handled (unhandled : (LoadFault.contents cause).isHandled = false) :
    cause.family ≠ .value ∧ cause.family ≠ .kind := by
  constructor <;> intro family <;> simp [LoadFault.isHandled, family] at unhandled

/-- What gets past a run while it loads the job of a request. -/
inductive Escapes (files : Files) (r : Request) : Fault → Prop
  | list (read : readDescription files r = .error (.contents .listTooDeep)) :
      Escapes files r .listTooDeep
  | record (read : readDescription files r = .error (.contents .recordTooDeep)) :
      Escapes files r .recordTooDeep
  | items {description : Value} {items : List Value} {cause : Fault}
      (read : readDescription files r = .ok description)
      (describes : Job.Describes r.identifier items description)
      (stops : Sale.Stops items cause) : Escapes files r cause

theorem Escapes.not_handled (escapes : Escapes files r cause) :
    (LoadFault.contents cause).isHandled = false := by
  cases escapes with
  | list | record => rfl
  | items _ _ stops => cases stops <;> rfl

/-! ## Reading -/

theorem readText_error {name : Text} {f : LoadFault} (refused : readText files name = .error f) :
    f.isHandled = true := by
  unfold readText at refused
  split at refused
  · rw [← Except.error.inj refused]
    rfl
  · split at refused
    · cases refused
    · rw [← Except.error.inj refused]
      rfl

theorem readJson_error {name : Text} {f : LoadFault} (refused : readJson files name = .error f) :
    f.isHandled = true ∨ f = .contents .listTooDeep ∨ f = .contents .recordTooDeep := by
  rcases bind_eq_error.1 refused with refused | ⟨t, -, refused⟩
  · exact .inl (readText_error refused)
  · split at refused
    · cases refused
    all_goals rw [← Except.error.inj refused]
    · exact .inl rfl
    · exact .inl rfl
    · exact .inr (.inl rfl)
    · exact .inr (.inr rfl)

theorem readDescription_error {f : LoadFault} (refused : readDescription files r = .error f) :
    f.isHandled = true ∨ f = .contents .listTooDeep ∨ f = .contents .recordTooDeep := by
  unfold readDescription at refused
  split at refused
  · exact readJson_error refused
  · rcases bind_eq_error.1 refused with refused | ⟨t, -, refused⟩
    · exact .inl (readText_error refused)
    · dsimp only at refused
      split at refused
      · exact readJson_error (bind_pure_eq_error.1 refused)
      · cases refused

theorem calls_of_readJson {name : Text} {v : Value} (read : readJson files name = .ok v) :
    v.calls < Value.writingRoom := by
  obtain ⟨t, -, read⟩ := bind_eq_ok.1 read
  split at read
  · rename_i w done
    cases read
    exact Nat.lt_of_le_of_lt (Json.calls_of_read done) (by decide)
  all_goals cases read

theorem calls_of_readDescription {v : Value} (read : readDescription files r = .ok v) :
    v.calls ≤ Value.writingRoom := by
  unfold readDescription at read
  split at read
  · exact Nat.le_of_lt (calls_of_readJson read)
  · obtain ⟨template, -, read⟩ := bind_eq_ok.1 read
    dsimp only at read
    split at read
    · obtain ⟨items, items_read, read⟩ := bind_eq_ok.1 read
      cases read
      have few := calls_of_readJson items_read
      have pos := items.calls_pos
      simp only [Value.calls, Value.callsOfFields, Value.ofText]
      omega
    · cases read
      exact Nat.le_of_ble_eq_true rfl

/-! ## Loading -/

theorem loadJob_error {f : LoadFault} (refused : loadJob files r = .error f) :
    readDescription files r = .error f ∨
      ∃ v cause, readDescription files r = .ok v ∧ Job.ofValue v r.identifier = .error cause ∧
        f = .contents cause := by
  rcases bind_eq_error.1 refused with refused | ⟨v, read, refused⟩
  · exact .inl refused
  · split at refused
    · cases refused
    · rename_i cause made
      exact .inr ⟨v, cause, read, made, (Except.error.inj refused).symm⟩

theorem escapes_iff :
    Escapes files r cause ↔
      loadJob files r = .error (.contents cause) ∧
        (LoadFault.contents cause).isHandled = false := by
  constructor
  · intro escapes
    refine ⟨?_, escapes.not_handled⟩
    obtain ⟨no_value, no_kind⟩ := family_of_not_handled escapes.not_handled
    cases escapes with
    | list read | record read => exact bind_eq_error.2 (.inl read)
    | items read describes stops =>
      have refused := (Job.ofValue_error_iff no_value no_kind (calls_of_readDescription read)).2
        ⟨_, describes, stops⟩
      refine bind_eq_error.2 (.inr ⟨_, read, ?_⟩)
      rw [refused]
      rfl
  · rintro ⟨refused, unhandled⟩
    obtain ⟨no_value, no_kind⟩ := family_of_not_handled unhandled
    rcases loadJob_error refused with refused | ⟨v, cause, read, made, eq⟩
    · rcases readDescription_error refused with handled | deep | deep
      · rw [unhandled] at handled
        cases handled
      · cases deep
        exact .list refused
      · cases deep
        exact .record refused
    · cases eq
      obtain ⟨items, describes, stops⟩ :=
        (Job.ofValue_error_iff no_value no_kind (calls_of_readDescription read)).1 made
      exact .items read describes stops

/-! ## Running -/

def Outcome.unhandled? : Outcome → Option Fault
  | unhandled f => some f
  | _ => none

theorem Outcome.unhandled?_eq_some {o : Outcome} :
    o.unhandled? = some cause ↔ o = .unhandled cause := by
  cases o <;> simp [unhandled?]

theorem exists_render {p : Profile} {n : Int} (preview_eq : p.previewBytes = .int n)
    (format : Format) (chunks : List Chunk) : ∃ bytes, render format p chunks = .ok bytes := by
  cases format with
  | summary =>
    have previewed : ∃ preview, Stream.previewOf p.previewBytes chunks = .ok preview := by
      rw [preview_eq]
      unfold Stream.previewOf
      split
      · exact ⟨_, rfl⟩
      · split <;> exact ⟨_, rfl⟩
    obtain ⟨preview, eq⟩ := previewed
    rw [render, Stream.summarize, eq]
    exact ⟨_, rfl⟩
  | hex | base64 | decode | raw => exact ⟨_, rfl⟩

theorem runRequest_of_error {p : Profile} {ids : IdSource} {f : LoadFault}
    (refused : loadJob files r = .error f) :
    runRequest files p ids r = .notLoaded f ∧ f.isHandled = true ∨
      ∃ cause, f = .contents cause ∧ f.isHandled = false ∧
        runRequest files p ids r = .unhandled cause := by
  unfold runRequest
  rw [refused]
  cases f with
  | file | encoding | json => exact .inl ⟨rfl, rfl⟩
  | contents cause =>
    dsimp only
    cases handled : (LoadFault.contents cause).isHandled with
    | true => exact .inl ⟨rfl, rfl⟩
    | false => exact .inr ⟨cause, rfl, rfl, rfl⟩

theorem runRequest_of_ok {p : Profile} (ids : IdSource) {n : Int} {job : Job}
    (preview_eq : p.previewBytes = .int n) (loaded : loadJob files r = .ok job) :
    let outcome := runRequest files p ids r
    let result := Synthesis.run
      { sale := job.sale, profile := p, dictionary := .standard, ids := idsFor r ids }
      (.str job.template)
    if result.ok then ∃ bytes, outcome = .released result bytes ∧ outcome.status = 0
    else outcome = .withheld result ∧ outcome.status = 1 := by
  intro outcome result
  obtain ⟨bytes, rendered⟩ := exists_render preview_eq r.format result.chunks
  have outcome_eq : outcome = if result.ok then .released result bytes else .withheld result := by
    show runRequest files p ids r = _
    rw [runRequest, loaded]
    dsimp only
    rw [rendered]
  rw [outcome_eq]
  split
  · exact ⟨bytes, rfl, rfl⟩
  · exact ⟨rfl, rfl⟩

theorem runRequest_unhandled_iff {p : Profile} {ids : IdSource} {n : Int}
    (preview_eq : p.previewBytes = .int n) :
    runRequest files p ids r = .unhandled cause ↔ Escapes files r cause := by
  rw [escapes_iff]
  cases loaded : loadJob files r with
  | error f =>
    rcases runRequest_of_error (p := p) loaded with
      ⟨ended, handled⟩ | ⟨other, rfl, unhandled, ended⟩
    · rw [ended]
      refine ⟨nofun, fun ⟨eq, unhandled⟩ => ?_⟩
      rw [Except.error.inj eq, unhandled] at handled
      cases handled
    · rw [ended]
      constructor
      · intro eq
        cases eq
        exact ⟨rfl, unhandled⟩
      · rintro ⟨eq, -⟩
        cases eq
        rfl
  | ok job =>
    have ended := runRequest_of_ok ids preview_eq loaded
    refine ⟨fun eq => ?_, nofun⟩
    dsimp only at ended
    rw [eq] at ended
    split at ended
    · obtain ⟨_, eq, -⟩ := ended
      cases eq
    · cases ended.1

/-- A fault gets past a run that is asked for a receipt exactly in the cases of `Escapes`. In every
other case the run ends with status 2 if the job cannot be loaded, with 1 if the stream has errors,
and else with 0 and the stream. -/
theorem run_of_request {p : Profile} {ids : IdSource} {arguments : List Text} {n : Int}
    (parsed : parse arguments = .ok (.request r)) (preview_eq : p.previewBytes = .int n) :
    let outcome := run files p ids arguments
    (∀ cause, outcome = .unhandled cause ↔ Escapes files r cause) ∧
      ((∀ cause, ¬ Escapes files r cause) →
        (∃ f, loadJob files r = .error f ∧ outcome = .notLoaded f ∧ outcome.status = 2) ∨
          ∃ job, loadJob files r = .ok job ∧
            let result := Synthesis.run
              { sale := job.sale, profile := p, dictionary := .standard, ids := idsFor r ids }
              (.str job.template)
            if result.ok then ∃ bytes, outcome = .released result bytes ∧ outcome.status = 0
            else outcome = .withheld result ∧ outcome.status = 1) := by
  intro outcome
  have outcome_eq : outcome = runRequest files p ids r := by
    show run files p ids arguments = _
    rw [run, parsed]
  rw [outcome_eq]
  refine ⟨fun cause => runRequest_unhandled_iff preview_eq, fun none => ?_⟩
  cases loaded : loadJob files r with
  | error f =>
    rcases runRequest_of_error (p := p) loaded with ⟨ended, -⟩ | ⟨cause, -, -, ended⟩
    · rw [ended]
      exact .inl ⟨f, rfl, rfl, rfl⟩
    · exact absurd ((runRequest_unhandled_iff preview_eq).1 ended) (none cause)
  | ok job => exact .inr ⟨job, rfl, runRequest_of_ok ids preview_eq loaded⟩

def Files.single (name text : Text) : Files := fun n =>
  if n = name then .ok (Utf8.encode text) else .error .missing

theorem run_of_request_tea :
    let files := Files.single "job".toList
      ("\x7b\"template\": \"\x7b\x7bITEMS\x7d\x7d\", ".toList ++
        "\"items\": [\x7b\"price\": \"2.50\"\x7d]\x7d".toList)
    let arguments := ["job".toList, "--identifier".toList, "Tea Room".toList]
    let r : Request := { job := some "job".toList, identifier := some "Tea Room".toList }
    let outcome := run files {} (.ofList []) arguments
    parse arguments = .ok (.request r) ∧ ({} : Profile).previewBytes = .int 32 ∧
      (∀ cause, ¬ Escapes files r cause) ∧ outcome.status = 0 ∧
      ∃ job, loadJob files r = .ok job := by
  intro files arguments r outcome
  have parsed : parse arguments = .ok (.request r) := rfl
  have preview_eq : ({} : Profile).previewBytes = .int 32 := rfl
  have handled : outcome.unhandled? = none := by decide +kernel
  have status_eq : outcome.status = 0 := by decide +kernel
  have no_escape : ∀ cause, ¬ Escapes files r cause := by
    intro cause escapes
    have unhandled : outcome = .unhandled cause :=
      ((run_of_request parsed preview_eq).1 cause).2 escapes
    rw [unhandled] at handled
    cases handled
  refine ⟨parsed, preview_eq, no_escape, status_eq, ?_⟩
  rcases (run_of_request parsed preview_eq).2 no_escape with ⟨f, -, -, refused⟩ | ⟨job, loaded, -⟩
  · cases status_eq.symm.trans refused
  · exact ⟨job, loaded⟩

/-- A number among the items gets past the run, although no job comes of it. -/
theorem number_item_unhandled :
    let files := Files.single "j".toList
      "\x7b\"template\": \"x\", \"items\": [5]\x7d".toList
    let arguments := ["j".toList]
    let r : Request := { job := some "j".toList }
    parse arguments = .ok (.request r) ∧ ({} : Profile).previewBytes = .int 32 ∧
      run files {} (.ofList []) arguments = .unhandled (.notARecord .int) := by
  intro files arguments r
  refine ⟨rfl, rfl, Outcome.unhandled?_eq_some.1 ?_⟩
  decide +kernel

end ReceiptPress.CommandLine

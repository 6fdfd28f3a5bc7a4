import Mathlib.Data.List.Basic
import ReceiptPress.Proofs.Synthesis.AnyData

/-!
# What the journal tells of a result

The journal of a pass tells of its errors and warnings one by one, raises one alarm for each fault,
and ends with the only record that sums up (`isFaithful_ofEvents`). It is read here by what its
records say, and not by the events behind them. Data of which no sale comes is the exception: then
the journal is one alarm and nothing else (`faithful_unless_unusable`).
-/

namespace ReceiptPress

/-! ## Reading records -/

namespace LogRecord

def told? (mark : String) (r : LogRecord) : Option String :=
  if r.level = .debug ∧ r.source = .diagnostics then
    (mark.toList.isPrefixOf? r.message.toList).map String.ofList
  else none

theorem told?_append (mark text : String) :
    told? mark ⟨.debug, .diagnostics, mark ++ text⟩ = some text := by
  have behind : mark.toList.isPrefixOf? (mark ++ text).toList = some text.toList :=
    List.isPrefixOf?_eq_some_iff_append_eq.2 String.toList_append.symm
  rw [told?, if_pos ⟨rfl, rfl⟩, behind, Option.map_some, String.ofList_toList]

theorem told?_error_ofError (f : Finding) : told? "error: " (.ofError f) = some f.text :=
  told?_append "error: " f.text

theorem told?_warning_ofWarning (f : Finding) : told? "warning: " (.ofWarning f) = some f.text :=
  told?_append "warning: " f.text

theorem told?_warning_ofError (f : Finding) : told? "warning: " (.ofError f) = none := by
  rw [told?, ofError, if_pos ⟨rfl, rfl⟩, String.toList_append]
  rfl

theorem told?_error_ofWarning (f : Finding) : told? "error: " (.ofWarning f) = none := by
  rw [told?, ofWarning, if_pos ⟨rfl, rfl⟩, String.toList_append]
  rfl

theorem told?_of_source {mark : String} {r : LogRecord} (other : r.source ≠ .diagnostics) :
    told? mark r = none :=
  if_neg fun h => other h.2

end LogRecord

namespace Synthesis

/-! ## A faithful journal -/

def Problem.cause? : Problem → Option Fault
  | logoFault cause _ | barcodeFault cause _ | aborted cause => some cause
  | _ => none

/-- Records against the problems that they tell of: each problem has its diagnostic, and one that a
fault is behind has one alarm before it, which ends with the wording of the fault. -/
inductive Alarmed : List LogRecord → List Problem → Prop
  | nil : Alarmed [] []
  | plain {p : Problem} {records : List LogRecord} {problems : List Problem}
      (no_fault : p.cause? = none) (rest : Alarmed records problems) :
      Alarmed (.ofError p.finding :: records) (p :: problems)
  | fault {p : Problem} {cause : Fault} {records : List LogRecord} {problems : List Problem}
      (opening : String) (made : p.cause? = some cause) (rest : Alarmed records problems) :
      Alarmed (⟨.error, .synthesis, opening ++ cause.message⟩ :: .ofError p.finding :: records)
        (p :: problems)

def concernsErrors (r : LogRecord) : Bool := r.level = .error || (r.told? "error: ").isSome

/-- The journal of a result tells of all that the result reports, and of nothing else. -/
structure Result.IsFaithful (r : Result) : Prop where
  errors : r.journal.filterMap (·.told? "error: ") = r.errors
  warnings : r.journal.filterMap (·.told? "warning: ") = r.warnings
  diagnostics : ∀ record ∈ r.journal, record.source = .diagnostics →
    record.level = .debug ∧ ((record.told? "error: ").isSome ∨ (record.told? "warning: ").isSome)
  alarms : Alarmed (r.journal.filter concernsErrors) r.problems
  closing : ∃ before,
    r.journal = before ++ [closing r.chunks.length r.errors.length r.warnings.length] ∧
      ∀ record ∈ before, record.level ≠ .info

theorem Result.IsFaithful.level_ne_error {r : Result} (faithful : r.IsFaithful)
    (clean : r.errors = []) {record : LogRecord} (mem : record ∈ r.journal) :
    record.level ≠ .error := by
  intro alarm
  have alarms := faithful.alarms
  rw [Result.errors_eq, List.map_eq_nil_iff] at clean
  rw [clean] at alarms
  have none : r.journal.filter concernsErrors = [] := by
    generalize r.journal.filter concernsErrors = records at alarms
    cases alarms
    rfl
  refine List.filter_eq_nil_iff.1 none record mem ?_
  rw [concernsErrors, alarm]
  rfl

/-! ## The records of events -/

theorem Alarmed.append {records others : List LogRecord} {problems more : List Problem}
    (first : Alarmed records problems) (last : Alarmed others more) :
    Alarmed (records ++ others) (problems ++ more) := by
  induction first with
  | nil => exact last
  | plain no_fault _ ih => exact .plain no_fault ih
  | fault opening made _ ih => exact .fault opening made ih

theorem concernsErrors_ofError (f : Finding) : concernsErrors (.ofError f) = true := by
  simp [concernsErrors, LogRecord.told?_error_ofError]

theorem concernsErrors_ofWarning (f : Finding) : concernsErrors (.ofWarning f) = false := by
  rw [concernsErrors, LogRecord.told?_error_ofWarning]
  rfl

namespace Event

variable (e : Event)

theorem filterMap_error_records :
    e.records.filterMap (·.told? "error: ") = (e.problem?.map (·.finding.text)).toList := by
  cases e with
  | emit | drawn => rfl
  | notice n => simp [records, problem?, LogRecord.told?_error_ofWarning]
  | problem p =>
    cases p <;>
      simp [records, problem?, alarm, LogRecord.told?_error_ofError, LogRecord.told?_of_source]

theorem filterMap_warning_records :
    e.records.filterMap (·.told? "warning: ") = (e.notice?.map (·.finding.text)).toList := by
  cases e with
  | emit | drawn => rfl
  | notice n => simp [records, notice?, LogRecord.told?_warning_ofWarning]
  | problem p =>
    cases p <;>
      simp [records, notice?, alarm, LogRecord.told?_warning_ofError, LogRecord.told?_of_source]

theorem alarmed_records : Alarmed (e.records.filter concernsErrors) e.problem?.toList := by
  cases e with
  | emit | drawn => exact .nil
  | notice n =>
    rw [records, List.filter_cons_of_neg (by simp [concernsErrors_ofWarning])]
    exact .nil
  | problem p =>
    have diagnostic : [LogRecord.ofError p.finding].filter concernsErrors = [.ofError p.finding] :=
      List.filter_cons_of_pos (concernsErrors_ofError p.finding)
    rw [records, List.filter_append, diagnostic]
    cases p with
    | unknownTag | noIdentity | noExpansion => exact .plain rfl .nil
    | logoFault | barcodeFault | aborted => exact .fault _ rfl .nil

theorem of_mem_records {e : Event} {record : LogRecord} (mem : record ∈ e.records) :
    (∃ f, record = .ofError f ∨ record = .ofWarning f) ∨
      record.source ≠ .diagnostics ∧ record.level ≠ .info := by
  cases e with
  | emit => cases mem
  | drawn =>
    rw [List.mem_singleton.1 mem]
    exact .inr ⟨LogSource.noConfusion, LogLevel.noConfusion⟩
  | notice n => exact .inl ⟨n.finding, .inr (List.mem_singleton.1 mem)⟩
  | problem p =>
    rcases List.mem_append.1 mem with mem | mem
    · cases p with
      | unknownTag | noIdentity | noExpansion => cases mem
      | logoFault | barcodeFault | aborted =>
        rw [List.mem_singleton.1 mem]
        exact .inr ⟨LogSource.noConfusion, LogLevel.noConfusion⟩
    · exact .inl ⟨p.finding, .inl (List.mem_singleton.1 mem)⟩

end Event

/-! ## The journal of a pass -/

section

variable (events : List Event)

theorem filterMap_journal {mark : String} {shown : Event → Option String}
    (reads : ∀ e : Event, e.records.filterMap (·.told? mark) = (shown e).toList) :
    (Result.ofEvents events).journal.filterMap (·.told? mark) = events.filterMap shown := by
  have told : (events.flatMap Event.records).filterMap (·.told? mark) = events.filterMap shown := by
    induction events with
    | nil => rfl
    | cons e rest ih =>
      rw [List.flatMap_cons, List.filterMap_append, reads, ih, List.filterMap_cons]
      cases shown e <;> rfl
  -- The summary is no record of the diagnostics, so it tells nothing under a mark.
  have summary (chunks problems notices : Nat) :
      [Result.closing chunks problems notices].filterMap (·.told? mark) = [] :=
    List.filterMap_cons_none (LogRecord.told?_of_source LogSource.noConfusion)
  rw [Result.ofEvents, List.filterMap_append, told, summary, List.append_nil]

theorem alarmed_of_events :
    Alarmed ((events.flatMap Event.records).filter concernsErrors)
      (events.filterMap Event.problem?) := by
  induction events with
  | nil => exact .nil
  | cons e rest ih =>
    have here := e.alarmed_records.append ih
    rw [List.flatMap_cons, List.filter_append, List.filterMap_cons]
    cases shown : e.problem? with
    | none => rwa [shown] at here
    | some p => rwa [shown] at here

end

theorem isFaithful_ofEvents (events : List Event) : (Result.ofEvents events).IsFaithful where
  errors := by
    rw [filterMap_journal events Event.filterMap_error_records, Result.errors_eq]
    exact List.map_filterMap.symm
  warnings := by
    rw [filterMap_journal events Event.filterMap_warning_records, Result.warnings_eq]
    exact List.map_filterMap.symm
  diagnostics record mem source := by
    rcases List.mem_append.1 mem with mem | mem
    · obtain ⟨e, -, mem⟩ := List.mem_flatMap.1 mem
      rcases Event.of_mem_records mem with ⟨f, rfl | rfl⟩ | ⟨other, -⟩
      · exact ⟨rfl, .inl (by rw [LogRecord.told?_error_ofError]; rfl)⟩
      · exact ⟨rfl, .inr (by rw [LogRecord.told?_warning_ofWarning]; rfl)⟩
      · exact absurd source other
    · rw [List.mem_singleton.1 mem] at source
      cases source
  alarms := by
    have summary (chunks problems notices : Nat) :
        [Result.closing chunks problems notices].filter concernsErrors = [] := rfl
    rw [Result.ofEvents, List.filter_append, summary, List.append_nil]
    exact alarmed_of_events events
  closing := by
    refine ⟨events.flatMap Event.records, ?_, fun record mem => ?_⟩
    · rw [Result.errors_eq, Result.warnings_eq, List.length_map, List.length_map]
      rfl
    · obtain ⟨e, -, mem⟩ := List.mem_flatMap.1 mem
      rcases Event.of_mem_records mem with ⟨f, rfl | rfl⟩ | ⟨-, other⟩
      · exact LogLevel.noConfusion
      · exact LogLevel.noConfusion
      · exact other

/-- Every call has a result unless its data nests too deep. Where the data tells of a sale, the
journal tells of all that the result reports: each error and each warning has its diagnostic, in
order, one alarm comes before that of each fault, and the last record sums up. Where the data tells
of no sale, the one error has an alarm and nothing else, so that the journal is not faithful. -/
theorem faithful_unless_unusable (data : Data) (p : Profile) (d : Tag.Dictionary) (ids : IdSource)
    (template : Value) :
    match runFor data p d ids template with
    | .error f => f = .tooDeepToWrite ∧ data.IsTooDeep
    | .ok r =>
      ¬ data.IsTooDeep ∧
        match data.read with
        | .ok _ => r.IsFaithful
        | .error f =>
          r.chunks = [] ∧ r.errors = ["PROTOCOL_ABORT: " ++ f.message] ∧ r.warnings = [] ∧
            r.journal = [⟨.error, .synthesis, "Unusable receipt data: " ++ f.message⟩] ∧
            ¬r.IsFaithful := by
  cases data with
  | sale sale => exact ⟨id, isFaithful_ofEvents _⟩
  | value v =>
    by_cases deep : Sale.IsTooDeep v
    · rw [runFor_of_isTooDeep deep]
      exact ⟨rfl, deep⟩
    · cases read : Sale.ofValue v with
      | ok sale =>
        rw [runFor_of_ok read, Data.read, read]
        exact ⟨deep, isFaithful_ofEvents _⟩
      | error f =>
        rw [runFor_of_error read deep, Data.read, read]
        refine ⟨deep, rfl, rfl, rfl, rfl, fun faithful => ?_⟩
        cases faithful.errors

/-- A number is no data for a receipt, and no diagnostic says so. -/
theorem number_unrecorded :
    let message := "PROTOCOL_ABORT: 'int' object has no attribute 'get'"
    ∃ r, runFor (.value (.int 5)) {} .standard (.ofList []) (.str []) = .ok r ∧
      r.errors = [message] ∧ .ofError { message } ∉ r.journal ∧
      (∀ record ∈ r.journal, record.level ≠ .info) ∧ ¬r.IsFaithful := by
  refine ⟨.unusable (.notARecord .int), rfl, by decide, by decide, by decide, fun faithful => ?_⟩
  cases faithful.errors

end Synthesis
end ReceiptPress

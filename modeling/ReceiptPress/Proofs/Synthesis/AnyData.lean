import ReceiptPress.Proofs.Sale.Refusals
import ReceiptPress.Proofs.Synthesis.Passes

/-!
# A result for data of any kind

A sale is read from data before anything is printed, so what goes wrong there is no part of a pass.
It is a fault that is reported, unless the data nests too deep (`isReported_of_ofValue`), and what
goes wrong in a pass is always its last problem (`problems_of_stop?`). So every call has a result
unless its data nests too deep (`result_unless_too_deep`).
-/

namespace ReceiptPress.Synthesis

variable {p : Profile} {d : Tag.Dictionary} {ids : IdSource} {template v : Value}

theorem isReported_of_ofValue {f : Fault} (refused : Sale.ofValue v = .error f)
    (shallow : ¬ Sale.IsTooDeep v) : isReported f = true := by
  rcases Sale.ofValue_error refused with family | family | family | ⟨-, deep⟩
  · rw [isReported, family]
  · rw [isReported, family]
  · rw [isReported, family]
  · exact absurd deep shallow

theorem runFor_of_ok {sale : Sale} (read : Sale.ofValue v = .ok sale) :
    runFor (.value v) p d ids template = runFor (.sale sale) p d ids template := by
  simp only [runFor, read]

theorem runFor_of_error {f : Fault} (refused : Sale.ofValue v = .error f)
    (shallow : ¬ Sale.IsTooDeep v) : runFor (.value v) p d ids template = .ok (.unusable f) := by
  simp only [runFor, refused, isReported_of_ofValue refused shallow, if_true]

theorem runFor_of_isTooDeep (deep : Sale.IsTooDeep v) :
    runFor (.value v) p d ids template = .error .tooDeepToWrite := by
  rw [runFor, deep.ofValue]
  rfl

def stop? (s : Setting) : Value → Option Fault
  | .str t => (printed s (Text.lines t.toText)).fault
  | v => some (.notATemplate v.kind)

theorem problems_of_stop? (s : Setting) (template : Value) :
    ∃ before, (∀ f, .aborted f ∉ before) ∧
      (run s template).problems = before ++ ((stop? s template).map Problem.aborted).toList := by
  cases template with
  | str t => exact ⟨_, aborted_not_mem s t.toText _, problems_run s t⟩
  | _ => exact ⟨[], nofun, rfl⟩

def Data.read : Data → Except Fault Sale
  | .sale s => .ok s
  | .value v => Sale.ofValue v

/-- Whether data that is no finished sale nests too deep for one to be told of. -/
def Data.IsTooDeep : Data → Prop
  | .sale _ => False
  | .value v => Sale.IsTooDeep v

/-- A call ends without a result exactly if the data nests too deep, for which it must take more
calls to be written than there is room for. Any other call has a result. Where the data tells of a
sale, it is the result for that sale; what stops the pass, if anything does, is its last error and
the only one of its kind. Where the data tells of no sale, nothing is printed and the reason is the
only error. -/
theorem result_unless_too_deep (data : Data) (p : Profile) (d : Tag.Dictionary) (ids : IdSource)
    (template : Value) :
    (data.IsTooDeep → ∃ v, data = .value v ∧ Value.writingRoom < v.calls) ∧
      match runFor data p d ids template with
      | .error f => f = .tooDeepToWrite ∧ data.IsTooDeep
      | .ok r =>
        ¬ data.IsTooDeep ∧
          match data.read with
          | .ok sale =>
            runFor (.sale sale) p d ids template = .ok r ∧
              ∃ before : List Problem, (∀ f, .aborted f ∉ before) ∧ r.errors =
                before.map (fun problem => problem.finding.text) ++
                  ((stop? ⟨sale, p, d, ids⟩ template).map
                    ("PROTOCOL_ABORT: " ++ ·.message)).toList
          | .error f =>
            r.chunks = [] ∧ r.warnings = [] ∧ r.errors = ["PROTOCOL_ABORT: " ++ f.message] := by
  have passed (sale : Sale) :
      ∃ before : List Problem, (∀ f, .aborted f ∉ before) ∧
        (run ⟨sale, p, d, ids⟩ template).errors =
          before.map (fun problem => problem.finding.text) ++
            ((stop? ⟨sale, p, d, ids⟩ template).map ("PROTOCOL_ABORT: " ++ ·.message)).toList := by
    obtain ⟨before, others, problems_eq⟩ := problems_of_stop? ⟨sale, p, d, ids⟩ template
    refine ⟨before, others, ?_⟩
    rw [Result.errors_eq, problems_eq, List.map_append]
    cases stop? ⟨sale, p, d, ids⟩ template <;> rfl
  cases data with
  | sale sale => exact ⟨False.elim, id, rfl, passed sale⟩
  | value v =>
    refine ⟨fun deep => ⟨v, rfl, deep.calls⟩, ?_⟩
    by_cases deep : Sale.IsTooDeep v
    · rw [runFor_of_isTooDeep deep]
      exact ⟨rfl, deep⟩
    · cases read : Sale.ofValue v with
      | error f =>
        rw [runFor_of_error read deep, Data.read, read]
        exact ⟨deep, rfl, rfl, rfl⟩
      | ok sale =>
        rw [runFor_of_ok read, Data.read, read]
        exact ⟨deep, rfl, passed sale⟩

def listsDeep : Nat → Value
  | 0 => .list []
  | n + 1 => .list [listsDeep n]

def itemsAround (v : Value) : Nat → Value
  | 0 => v
  | n + 1 => .item (itemsAround v n) (.int 0)

/-- A total of 310 items around a hundred lists keeps a call from having a result. -/
theorem wrapped_total_has_no_result :
    let total := itemsAround (listsDeep 99) 310
    let v := Value.object
      [(Text.toCodePoints "identifier".toList, .ofText "X".toList),
        (Text.toCodePoints "total".toList, total)]
    runFor (.value v) {} .standard (.ofList []) (.str []) = .error .tooDeepToWrite := by
  intro total v
  have deep : total.text = .error .tooDeepToWrite :=
    Value.text_of_calls (by decide +kernel) (by decide +kernel)
  exact runFor_of_isTooDeep (.total rfl rfl deep)

end ReceiptPress.Synthesis

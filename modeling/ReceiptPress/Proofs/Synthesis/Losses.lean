import ReceiptPress.Proofs.Synthesis.Accounting

/-!
# Lines that lose their chunk

A line with one chunk and nothing to report may have an error instead in another setting. If the
second setting is otherwise like the first on every line (`Weakens`), two passes over one template
are alike in all else (`Weakens.losesAt`).
-/

namespace ReceiptPress

namespace Synthesis

variable {first second : Setting} {q : Progress} {number : Nat}

/-! ## Line by line -/

def expansions (s : Setting) (q : Progress) : List Text → (number : Nat) → List Expansion
  | [], _ => []
  | line :: rest, number =>
    let here := printLine s q line number
    match here.fault with
    | some _ => [here]
    | none => here :: expansions s here.progress rest (number + 1)

theorem events_printLines (s : Setting) (q : Progress) (lines : List Text) (number : Nat) :
    (printLines s q lines number).events =
      (expansions s q lines number).flatMap Expansion.events := by
  induction lines generalizing q number with
  | nil => rfl
  | cons line rest ih =>
    rw [printLines_cons, Expansion.andThen, expansions]
    cases here : (printLine s q line number).fault with
    | some f => simp
    | none => simp [ih]

theorem filterMap_printLines {α : Type} (view : Event → Option α) (s : Setting) (q : Progress)
    (lines : List Text) (number : Nat) :
    (printLines s q lines number).events.filterMap view =
      (expansions s q lines number).flatMap fun e => e.events.filterMap view := by
  rw [events_printLines, List.filterMap_flatMap]

theorem getElem?_expansions {s : Setting} {q : Progress} {lines : List Text} {number i : Nat}
    {e : Expansion} (found : (expansions s q lines number)[i]? = some e) :
    ∃ line p, lines[i]? = some line ∧
      p.idsUsed = q.idsUsed + (lines.take i).countP (asksForId s.dictionary) ∧
      e = printLine s p line (number + i) := by
  induction lines generalizing q number i with
  | nil => simp [expansions] at found
  | cons line rest ih =>
    rw [expansions] at found
    cases i with
    | zero =>
      refine ⟨line, q, rfl, rfl, ?_⟩
      cases here : (printLine s q line number).fault with
      | some f => simpa [here] using found.symm
      | none => simpa [here] using found.symm
    | succ i =>
      cases here : (printLine s q line number).fault with
      | some f => simp [here] at found
      | none =>
        rw [here] at found
        obtain ⟨other, p, other_eq, used, e_eq⟩ := ih found
        refine ⟨other, p, other_eq, ?_, ?_⟩
        · rw [used, idsUsed_printLine, List.take_succ_cons, List.countP_cons]
          omega
        · rw [e_eq, Nat.add_assoc, Nat.add_comm 1]

theorem length_expansions {s : Setting} {q : Progress} {lines : List Text} {number : Nat}
    (ok : (printLines s q lines number).fault = none) :
    (expansions s q lines number).length = lines.length := by
  induction lines generalizing q number with
  | nil => rfl
  | cons line rest ih =>
    rw [printLines_cons] at ok
    obtain ⟨here, behind⟩ := Expansion.fault_of_andThen ok
    simp [expansions, here, ih behind]

/-! ## Lines that lose their chunk -/

def Expansion.orProblem (e : Expansion) (loss : Option Problem) : Expansion :=
  match loss with
  | none => e
  | some p => { e with events := [.problem p] }

@[simp] theorem Expansion.progress_orProblem (e : Expansion) (loss : Option Problem) :
    (e.orProblem loss).progress = e.progress := by
  cases loss <;> rfl

@[simp] theorem Expansion.fault_orProblem (e : Expansion) (loss : Option Problem) :
    (e.orProblem loss).fault = e.fault := by
  cases loss <;> rfl

/-- What a line loses is its one chunk, and it has nothing else to report. -/
structure Weakens (first second : Setting) (loss : Nat → Text → Nat → Option Problem) : Prop where
  step : ∀ q line number, printLine second q line number =
    (printLine first q line number).orProblem (loss q.idsUsed line number)
  only : ∀ q line number p, loss q.idsUsed line number = some p →
    (∃ chunk, (printLine first q line number).chunks = [chunk]) ∧
      (printLine first q line number).problems = [] ∧ (printLine first q line number).notices = []

namespace Weakens

variable {loss : Nat → Text → Nat → Option Problem} (weakens : Weakens first second loss)

include weakens

theorem progress_printLine (q : Progress) (line : Text) (number : Nat) :
    (printLine second q line number).progress = (printLine first q line number).progress := by
  rw [weakens.step, Expansion.progress_orProblem]

theorem fault_printLine (q : Progress) (line : Text) (number : Nat) :
    (printLine second q line number).fault = (printLine first q line number).fault := by
  rw [weakens.step, Expansion.fault_orProblem]

theorem expansions_eq (lines : List Text) :
    expansions second q lines number =
      (expansions first q lines number).mapIdx fun i e =>
        e.orProblem (atLine? first.dictionary loss q.idsUsed lines number i) := by
  induction lines generalizing q number with
  | nil => rfl
  | cons line rest ih =>
    rw [expansions, expansions, weakens.fault_printLine]
    cases here : (printLine first q line number).fault with
    | some f => simp [weakens.step, atLine?]
    | none =>
      simp only [List.mapIdx_cons, atLine?_zero, atLine?_succ]
      rw [weakens.progress_printLine, ih, idsUsed_printLine, weakens.step]

theorem printLines_eq (lines : List Text) :
    (printLines second q lines number).progress = (printLines first q lines number).progress ∧
      (printLines second q lines number).fault = (printLines first q lines number).fault := by
  induction lines generalizing q number with
  | nil => exact ⟨rfl, rfl⟩
  | cons line rest ih =>
    have progress_eq := weakens.progress_printLine q line number
    have fault_eq := weakens.fault_printLine q line number
    rw [printLines_cons, printLines_cons]
    cases here : (printLine first q line number).fault with
    | some f =>
      rw [Expansion.andThen_of_fault here, Expansion.andThen_of_fault (fault_eq.trans here)]
      exact ⟨progress_eq, fault_eq⟩
    | none =>
      rw [Expansion.andThen_of_ok here, Expansion.andThen_of_ok (fault_eq.trans here), progress_eq]
      exact ih

theorem filterMap_events {α : Type} {view other : Event → Option α}
    (alike : ∀ q line number, (printLine second q line number).events.filterMap view =
      (printLine first q line number).events.filterMap other) (lines : List Text) :
    (printLines second q lines number).events.filterMap view =
      (printLines first q lines number).events.filterMap other := by
  induction lines generalizing q number with
  | nil => rfl
  | cons line rest ih =>
    have fault_eq := weakens.fault_printLine q line number
    rw [printLines_cons, printLines_cons]
    cases here : (printLine first q line number).fault with
    | some f =>
      rw [Expansion.andThen_of_fault here, Expansion.andThen_of_fault (fault_eq.trans here), alike]
    | none =>
      rw [Expansion.filterMap_andThen here, Expansion.filterMap_andThen (fault_eq.trans here),
        alike, weakens.progress_printLine, ih]

theorem notices_printLines (lines : List Text) :
    (printLines second q lines number).notices =
      (printLines first q lines number).notices := by
  refine weakens.filterMap_events (fun q line number => ?_) lines
  rw [weakens.step]
  cases lost : loss q.idsUsed line number with
  | none => rfl
  | some p => exact (weakens.only q line number p lost).2.2.symm

end Weakens

/-! ## The passes -/

def lineChunks (s : Setting) (t : CodePoints) : List (List Chunk) :=
  (expansions s.ready {} (Text.lines t.toText) 1).map Expansion.chunks

def lineErrors (s : Setting) (t : CodePoints) : List (List String) :=
  (expansions s.ready {} (Text.lines t.toText) 1).map fun e => e.problems.map (·.finding.text)

def lastChunks (s : Setting) (t : CodePoints) : List Chunk :=
  if (printed s (Text.lines t.toText)).fault = none then [.ofText Instruction.cut.bytes] else []

def firstErrors (s : Setting) (t : CodePoints) : List String :=
  (unknownTags s t.toText ++ identityProblems s).map (·.finding.text)

def lastErrors (s : Setting) (t : CodePoints) : List String :=
  ((printed s (Text.lines t.toText)).fault.map fun f => "PROTOCOL_ABORT: " ++ f.message).toList

variable {s : Setting} {t : CodePoints}

theorem chunks_eq_lineChunks (s : Setting) (t : CodePoints) :
    (run s (.str t)).chunks =
      .ofText Instruction.init.bytes :: ((lineChunks s t).flatten ++ lastChunks s t) := by
  have lines_eq : (printed s (Text.lines t.toText)).chunks = (lineChunks s t).flatten :=
    filterMap_printLines Event.chunk? s.ready {} (Text.lines t.toText) 1
  rw [chunks_run, emitted, lines_eq, List.cons_append]
  rfl

theorem errors_eq_lineErrors (s : Setting) (t : CodePoints) :
    (run s (.str t)).errors = firstErrors s t ++ (lineErrors s t).flatten ++ lastErrors s t := by
  have lines_eq : (printed s (Text.lines t.toText)).problems.map (·.finding.text) =
      (lineErrors s t).flatten := by
    rw [printed, Expansion.problems, filterMap_printLines, List.map_flatMap]
    rfl
  rw [Result.errors_eq, problems_run, List.map_append, List.map_append, lines_eq, lastErrors]
  congr 1
  cases (printed s (Text.lines t.toText)).fault <;> rfl

/-- Two passes of which the second has an error in place of the chunk of some lines, and is like the
first in all else. -/
structure LosesAt (first second : Setting) (t : CodePoints) (lost : Nat → Option String) :
    Prop where
  completed_iff : (run second (.str t)).Completed ↔ (run first (.str t)).Completed
  all_lines : (run first (.str t)).Completed →
    (lineChunks first t).length = (Text.lines t.toText).length ∧
      (lineErrors first t).length = (Text.lines t.toText).length
  first_chunks : (run first (.str t)).chunks =
    .ofText Instruction.init.bytes :: ((lineChunks first t).flatten ++ lastChunks first t)
  second_chunks : (run second (.str t)).chunks = .ofText Instruction.init.bytes ::
    (((lineChunks first t).mapIdx fun i chunks => if (lost i).isSome then [] else chunks).flatten ++
      lastChunks first t)
  warnings_eq : (run second (.str t)).warnings = (run first (.str t)).warnings
  first_errors : (run first (.str t)).errors =
    firstErrors first t ++ (lineErrors first t).flatten ++ lastErrors first t
  second_errors : (run second (.str t)).errors = firstErrors first t ++
    ((lineErrors first t).mapIdx fun i errors => (lost i).elim errors ([·])).flatten ++
      lastErrors first t
  one_chunk : ∀ i < (lineChunks first t).length, (lost i).isSome →
    ∃ chunk, (lineChunks first t)[i]? = some [chunk] ∧ (lineErrors first t)[i]? = some []

theorem Expansion.chunks_orProblem {α : Type} (e : Expansion) (loss : Option Problem)
    (shown : Problem → α) :
    (e.orProblem loss).chunks = if (loss.map shown).isSome then [] else e.chunks := by
  cases loss <;> rfl

theorem Expansion.problems_orProblem {α : Type} (e : Expansion) (loss : Option Problem)
    (shown : Problem → α) :
    (e.orProblem loss).problems.map shown =
      (loss.map shown).elim (e.problems.map shown) ([·]) := by
  cases loss <;> rfl

theorem map_mapIdx {α β γ δ : Type} {f : Nat → α → β} {g : β → δ} {h : α → γ} {k : Nat → γ → δ}
    (same : ∀ i a, g (f i a) = k i (h a)) (l : List α) : (l.mapIdx f).map g = (l.map h).mapIdx k :=
  List.ext_getElem? fun i => by simp [same, Function.comp_def]

theorem Weakens.losesAt {loss : Nat → Text → Nat → Option Problem}
    (weakens : Weakens first.ready second.ready loss) (sale_eq : second.sale = first.sale)
    (dictionary_eq : second.dictionary = first.dictionary) (t : CodePoints) :
    LosesAt first second t fun i =>
      (atLine? first.dictionary loss 0 (Text.lines t.toText) 1 i).map (·.finding.text) := by
  have by_line : expansions second.ready {} (Text.lines t.toText) 1 = _ :=
    weakens.expansions_eq (Text.lines t.toText)
  have tracker_eq : (printed second (Text.lines t.toText)).progress =
      (printed first (Text.lines t.toText)).progress := (weakens.printLines_eq _).1
  have fault_eq : (printed second (Text.lines t.toText)).fault =
      (printed first (Text.lines t.toText)).fault := (weakens.printLines_eq _).2
  have notices_eq : (printed second (Text.lines t.toText)).notices =
      (printed first (Text.lines t.toText)).notices := weakens.notices_printLines _
  refine ⟨?_, ?_, chunks_eq_lineChunks first t, ?_, ?_, errors_eq_lineErrors first t, ?_, ?_⟩
  · rw [completed_iff, completed_iff, fault_eq]
  · intro completed
    have all := length_expansions ((completed_iff first t).1 completed)
    rw [lineChunks, lineErrors, List.length_map, List.length_map]
    exact ⟨all, all⟩
  · have last : lastChunks second t = lastChunks first t := by
      rw [lastChunks, lastChunks, fault_eq]
    rw [chunks_eq_lineChunks, last, lineChunks, lineChunks, by_line, map_mapIdx]
    exact fun i e => e.chunks_orProblem _ _
  · have same : (run second (.str t)).notices = (run first (.str t)).notices := by
      rw [notices_run, notices_run, notices_eq, fault_eq, tracker_eq, dictionary_eq]
    rw [Result.warnings, Result.warnings, Result.diagnostics, Result.diagnostics, same]
  · have last : lastErrors second t = lastErrors first t := by
      rw [lastErrors, lastErrors, fault_eq]
    have opening : firstErrors second t = firstErrors first t := by
      rw [firstErrors, firstErrors, unknownTags, unknownTags, identityProblems, identityProblems,
        sale_eq, dictionary_eq]
    rw [errors_eq_lineErrors, last, opening, lineErrors, lineErrors, by_line, map_mapIdx]
    exact fun i e => e.problems_orProblem _ _
  · intro i inside lost
    rw [lineChunks, List.length_map] at inside
    have found := List.getElem?_eq_getElem inside
    obtain ⟨line, q, line_eq, used, e_eq⟩ := getElem?_expansions found
    rw [Option.isSome_map] at lost
    obtain ⟨p, loss_eq⟩ := Option.isSome_iff_exists.1 lost
    rw [atLine?, line_eq, Option.bind_some] at loss_eq
    obtain ⟨⟨chunk, chunks_eq⟩, problems_eq, -⟩ :=
      weakens.only q line (1 + i) p (by rw [used]; exact loss_eq)
    refine ⟨chunk, ?_, ?_⟩
    · rw [lineChunks, List.getElem?_map, found, Option.map_some, e_eq, chunks_eq]
    · rw [lineErrors, List.getElem?_map, found, Option.map_some, e_eq, problems_eq]
      rfl

end Synthesis

end ReceiptPress

import ReceiptPress.Proofs.Synthesis.Lines

namespace ReceiptPress.Synthesis

/-! ## What events come to -/

namespace Expansion

def chunks (e : Expansion) : List Chunk := e.events.filterMap Event.chunk?

def problems (e : Expansion) : List Problem := e.events.filterMap Event.problem?

def notices (e : Expansion) : List Notice := e.events.filterMap Event.notice?

theorem mem_filterMap_view {α : Type} {view : Event → Option α} {make : α → Event}
    (reads : ∀ event a, view event = some a ↔ event = make a) {events : List Event} {a : α} :
    a ∈ events.filterMap view ↔ make a ∈ events := by
  rw [List.mem_filterMap]
  constructor
  · rintro ⟨event, mem, eq⟩
    rw [← (reads event a).1 eq]
    exact mem
  · exact fun mem => ⟨make a, mem, (reads _ _).2 rfl⟩

theorem mem_chunks {e : Expansion} {c : Chunk} : c ∈ e.chunks ↔ .emit c ∈ e.events :=
  mem_filterMap_view fun event _ => by cases event <;> simp [Event.chunk?]

theorem mem_problems {e : Expansion} {p : Problem} : p ∈ e.problems ↔ .problem p ∈ e.events :=
  mem_filterMap_view fun event _ => by cases event <;> simp [Event.problem?]

theorem mem_notices {e : Expansion} {n : Notice} : n ∈ e.notices ↔ .notice n ∈ e.events :=
  mem_filterMap_view fun event _ => by cases event <;> simp [Event.notice?]

variable {e : Expansion} (ok : e.fault = none) (next : Progress → Expansion)

include ok

theorem chunks_andThen : (e.andThen next).chunks = e.chunks ++ (next e.progress).chunks :=
  filterMap_andThen ok next Event.chunk?

theorem problems_andThen :
    (e.andThen next).problems = e.problems ++ (next e.progress).problems :=
  filterMap_andThen ok next Event.problem?

theorem notices_andThen : (e.andThen next).notices = e.notices ++ (next e.progress).notices :=
  filterMap_andThen ok next Event.notice?

end Expansion

/-! ## What a line of text comes to -/

variable {count : Nat} {limit : Value} {line : Nat} {notices : List Event}

theorem filterMap_text {α : Type} {view : Event → Option α}
    (blind : ∀ n, view (.notice n) = none)
    (checked : lengthNotices count limit line = .ok notices) (cs : List Chunk) (last : Chunk) :
    (notices ++ cs.map Event.emit ++ [Event.emit last]).filterMap view =
      (cs ++ [last]).filterMap fun c => view (.emit c) := by
  have silent : notices.filterMap view = [] := by
    rcases lengthNotices_ok checked with ⟨-, rfl⟩ | ⟨shown, -, -, rfl⟩
    · rfl
    · exact List.filterMap_cons_none (blind _)
  rw [List.append_assoc, List.filterMap_append, silent, List.nil_append,
    ← List.map_singleton (f := Event.emit), ← List.map_append, List.filterMap_map]
  rfl

theorem filterMap_chunk?_text (checked : lengthNotices count limit line = .ok notices)
    (cs : List Chunk) (last : Chunk) :
    (notices ++ cs.map Event.emit ++ [Event.emit last]).filterMap Event.chunk? = cs ++ [last] :=
  (filterMap_text (fun _ => rfl) checked cs last).trans List.filterMap_some

theorem filterMap_problem?_text (checked : lengthNotices count limit line = .ok notices)
    (cs : List Chunk) (last : Chunk) :
    (notices ++ cs.map Event.emit ++ [Event.emit last]).filterMap Event.problem? = [] :=
  (filterMap_text (fun _ => rfl) checked cs last).trans
    (List.filterMap_eq_nil_iff.2 fun _ _ => rfl)

def Event.finding? : Event → Option Finding
  | problem p => some p.finding
  | notice n => some n.finding
  | _ => none

theorem Finding.not_opening {f : Finding} {n : Int} (numbered : f.line = some n) {opening : Text}
    {c : Char} (opens : opening.head? = some c) (other : c ≠ 'L') :
    ¬opening <+: f.text.toList := by
  rintro ⟨rest, whole⟩
  have head : f.text.toList.head? = some 'L' := by simp [Finding.text, numbered]
  rw [← whole, List.head?_append, opens] at head
  exact other (Option.some.inj head)

theorem line_of_mem_printLine {s : Setting} {p : Progress} {line : Text} {number : Nat}
    {event : Event} {f : Finding} (mem : event ∈ (printLine s p line number).events)
    (found : event.finding? = some f) : f.line = some (number : Int) := by
  have outcome := printLine_outcome s p line number
  generalize printLine s p line number = e at mem outcome
  cases outcome with
  | idFault | dataFault | limitFault => cases mem
  | logoFault | barcodeFault | noExpansion | noItems =>
    rw [List.mem_singleton.1 mem] at found
    cases found
    rfl
  | logo =>
    rw [List.mem_cons, List.mem_singleton] at mem
    rcases mem with rfl | rfl <;> cases found
  | barcode =>
    rw [List.mem_singleton.1 mem] at found
    cases found
  | items =>
    obtain ⟨_, -, _, -, rfl⟩ := mem_rows mem
    cases found
  | text inline substituted checked =>
    rcases List.mem_append.1 mem with mem | mem
    · rcases List.mem_append.1 mem with mem | mem
      · rcases lengthNotices_ok checked with ⟨-, rfl⟩ | ⟨shown, -, -, rfl⟩
        · cases mem
        · rw [List.mem_singleton.1 mem] at found
          cases found
          rfl
      · obtain ⟨chunk, -, rfl⟩ := List.mem_map.1 mem
        cases found
    · rw [List.mem_singleton.1 mem] at found
      cases found

theorem aborted_not_mem_printLines (s : Setting) (p : Progress) (lines : List Text) (number : Nat)
    (f : Fault) : .aborted f ∉ (printLines s p lines number).problems := by
  intro mem
  obtain ⟨line, -, q, k, here⟩ := mem_printLines (Expansion.mem_problems.1 mem)
  cases line_of_mem_printLine here rfl

/-! ## The parts of a run -/

theorem Result.errors_eq (r : Result) : r.errors = r.problems.map fun p => p.finding.text :=
  List.map_map

theorem Result.warnings_eq (r : Result) : r.warnings = r.notices.map fun n => n.finding.text :=
  List.map_map

def Setting.ready (s : Setting) : Setting := { s with dictionary := s.dictionary.keeping }

def Setting.small (ids : IdSource) : Setting where
  sale :=
    { identifier := .ofText "Corner Shop".toList
      items := [⟨.ofText "Tea".toList, .int 3⟩]
      total := .ofText "3.00".toList }
  profile := {}
  dictionary := .standard
  ids := ids

def printed (s : Setting) (lines : List Text) : Expansion := printLines s.ready {} lines 1

def emitted (s : Setting) (lines : List Text) : List Chunk :=
  .ofText Instruction.init.bytes :: (printed s lines).chunks

def unknownTags (s : Setting) (t : Text) : List Problem :=
  ((Tag.words t).filter (!s.dictionary.contains ·)).map .unknownTag

def identityProblems (s : Setting) : List Problem :=
  if s.sale.identifier.isGiven then [] else [.noIdentity]

def Result.Completed (r : Result) : Prop := ∀ f, Problem.aborted f ∉ r.problems

def ending (s : Setting) (e : Expansion) : List Event :=
  match e.fault with
  | some f => [.problem (.aborted f)]
  | none => leaks s e.progress.tracker ++ [.emit (.ofText Instruction.cut.bytes)]

theorem printed_andThen (s : Setting) (before after : List Text) :
    printed s (before ++ after) = (printed s before).andThen
      fun q => printLines s.ready q after (1 + before.length) :=
  printLines_append s.ready {} before after 1

theorem emitted_of_append {s : Setting} {before after : List Text}
    (ok : (printed s (before ++ after)).fault = none) :
    (printed s before).fault = none ∧ emitted s before <+: emitted s (before ++ after) := by
  rw [printed_andThen] at ok
  have before_ok := (Expansion.fault_of_andThen ok).1
  refine ⟨before_ok, ?_⟩
  rw [emitted, emitted, printed_andThen, Expansion.andThen_of_ok before_ok, Expansion.chunks,
    Expansion.chunks, List.filterMap_append, ← List.cons_append]
  exact List.prefix_append _ _

variable (s : Setting) (t : CodePoints)

theorem eventsOf_str :
    eventsOf s (.str t) =
      audit s.ready t.toText ++ .emit (.ofText Instruction.init.bytes) ::
        ((printed s (Text.lines t.toText)).events ++
          ending s.ready (printed s (Text.lines t.toText))) := rfl

theorem filterMap_audit_problem? (u : Text) :
    (audit s u).filterMap Event.problem? = unknownTags s u ++ identityProblems s := by
  have unknown : (((Tag.words u).filter (!s.dictionary.contains ·)).map
      (Event.problem ∘ .unknownTag)).filterMap Event.problem? = unknownTags s u := by
    rw [List.filterMap_map, unknownTags, ← List.filterMap_eq_map]
    rfl
  rw [audit, List.filterMap_append, unknown, identityProblems]
  split <;> rfl

theorem filterMap_audit_of_problem {α : Type} (view : Event → Option α)
    (skips : ∀ p, view (.problem p) = none) (u : Text) : (audit s u).filterMap view = [] := by
  rw [audit, List.filterMap_append, List.append_eq_nil_iff]
  constructor
  · rw [List.filterMap_map, List.filterMap_eq_nil_iff]
    exact fun tag _ => skips _
  · split
    · rfl
    · rw [List.filterMap_cons, skips]
      rfl

theorem filterMap_leaks_of_notice {α : Type} (view : Event → Option α)
    (skips : ∀ n, view (.notice n) = none) (tracker : Tracker) :
    (leaks s tracker).filterMap view = [] := by
  rw [leaks, List.filterMap_map, List.filterMap_eq_nil_iff]
  exact fun name _ => skips _

theorem filterMap_leaks_notice? (tracker : Tracker) :
    (leaks s tracker).filterMap Event.notice? = (tracker.leaks s.dictionary).map .leak := by
  rw [leaks, List.filterMap_map, ← List.filterMap_eq_map]
  rfl

theorem chunks_run :
    (run s (.str t)).chunks = emitted s (Text.lines t.toText) ++
      if (printed s (Text.lines t.toText)).fault = none then [.ofText Instruction.cut.bytes]
      else [] := by
  have chunks_eq : (run s (.str t)).chunks = (eventsOf s (.str t)).filterMap Event.chunk? := rfl
  have opening : Event.chunk? (.emit (.ofText Instruction.init.bytes)) =
      some (.ofText Instruction.init.bytes) := rfl
  rw [chunks_eq, eventsOf_str, List.filterMap_append,
    filterMap_audit_of_problem _ _ (fun _ => rfl), List.nil_append,
    List.filterMap_cons_some opening, List.filterMap_append, emitted, List.cons_append]
  congr 2
  cases fault : (printed s (Text.lines t.toText)).fault with
  | some f => simp [ending, fault, Event.chunk?]
  | none =>
    rw [ending, fault]
    dsimp only
    rw [List.filterMap_append, filterMap_leaks_of_notice _ _ (fun _ => rfl)]
    rfl

theorem problems_run :
    (run s (.str t)).problems =
      unknownTags s t.toText ++ identityProblems s ++ (printed s (Text.lines t.toText)).problems ++
        ((printed s (Text.lines t.toText)).fault.map Problem.aborted).toList := by
  have problems_eq : (run s (.str t)).problems = (eventsOf s (.str t)).filterMap Event.problem? :=
    rfl
  rw [problems_eq, eventsOf_str, List.filterMap_append, filterMap_audit_problem?,
    List.filterMap_cons_none rfl, List.filterMap_append, ← List.append_assoc]
  congr 1
  cases fault : (printed s (Text.lines t.toText)).fault with
  | some f => simp [ending, fault, Event.problem?]
  | none =>
    rw [ending, fault]
    dsimp only
    rw [List.filterMap_append, filterMap_leaks_of_notice _ _ (fun _ => rfl)]
    rfl

theorem notices_run :
    (run s (.str t)).notices =
      (printed s (Text.lines t.toText)).notices ++
        if (printed s (Text.lines t.toText)).fault = none then
          ((printed s (Text.lines t.toText)).progress.tracker.leaks s.dictionary).map .leak
        else [] := by
  have notices_eq : (run s (.str t)).notices = (eventsOf s (.str t)).filterMap Event.notice? := rfl
  rw [notices_eq, eventsOf_str, List.filterMap_append,
    filterMap_audit_of_problem _ _ (fun _ => rfl), List.nil_append,
    List.filterMap_cons_none rfl, List.filterMap_append]
  congr 1
  cases fault : (printed s (Text.lines t.toText)).fault with
  | some f => simp [ending, fault, Event.notice?]
  | none =>
    rw [ending, fault]
    dsimp only
    rw [List.filterMap_append, filterMap_leaks_notice?, if_pos rfl]
    exact List.append_nil _

theorem aborted_not_mem (u : Text) (lines : List Text) (f : Fault) :
    .aborted f ∉ unknownTags s u ++ identityProblems s ++ (printed s lines).problems := by
  intro mem
  rcases List.mem_append.1 mem with mem | mem
  · rcases List.mem_append.1 mem with mem | mem
    · simp [unknownTags] at mem
    · unfold identityProblems at mem
      split at mem <;> simp at mem
  · exact aborted_not_mem_printLines _ _ _ _ f mem

theorem completed_iff :
    (run s (.str t)).Completed ↔ (printed s (Text.lines t.toText)).fault = none := by
  rw [Result.Completed, problems_run]
  constructor
  · intro completed
    cases fault : (printed s (Text.lines t.toText)).fault with
    | none => rfl
    | some f =>
      rw [fault] at completed
      exact absurd (List.mem_append_right _ List.mem_cons_self) (completed f)
  · intro ok f mem
    rw [ok, Option.map_none, Option.toList_none, List.append_nil] at mem
    exact aborted_not_mem s t.toText _ f mem

/-! ## The parts of a complete pass -/

def Result.body (r : Result) : List Chunk := r.chunks.tail.dropLast

def Problem.isOfTag : Problem → Bool
  | unknownTag _ => true
  | _ => false

def Problem.isOfLine (p : Problem) : Bool := p.finding.line.isSome

variable {s t}

theorem chunks_of_completed (completed : (run s (.str t)).Completed) :
    (run s (.str t)).chunks = .ofText Instruction.init.bytes ::
      ((printed s (Text.lines t.toText)).chunks ++ [.ofText Instruction.cut.bytes]) := by
  rw [chunks_run, if_pos ((completed_iff s t).1 completed), emitted, List.cons_append]

theorem body_of_completed (completed : (run s (.str t)).Completed) :
    (run s (.str t)).body = (printed s (Text.lines t.toText)).chunks := by
  rw [Result.body, chunks_of_completed completed, List.tail_cons, List.dropLast_concat]

theorem problems_of_completed (completed : (run s (.str t)).Completed) :
    (run s (.str t)).problems = unknownTags s t.toText ++ identityProblems s ++
      (printed s (Text.lines t.toText)).problems := by
  rw [problems_run, (completed_iff s t).1 completed, Option.map_none, Option.toList_none,
    List.append_nil]

theorem isOfLine_of_mem_printed {lines : List Text} {p : Problem}
    (mem : p ∈ (printed s lines).problems) : p.isOfLine = true := by
  obtain ⟨line, -, q, k, here⟩ := mem_printLines (Expansion.mem_problems.1 mem)
  rw [Problem.isOfLine, line_of_mem_printLine here rfl]
  rfl

theorem filter_isOfTag_problems (completed : (run s (.str t)).Completed) :
    (run s (.str t)).problems.filter Problem.isOfTag = unknownTags s t.toText := by
  have unknown : (unknownTags s t.toText).filter Problem.isOfTag = unknownTags s t.toText := by
    rw [List.filter_eq_self]
    intro p mem
    obtain ⟨tag, -, rfl⟩ := List.mem_map.1 mem
    rfl
  have identity : (identityProblems s).filter Problem.isOfTag = [] := by
    unfold identityProblems
    split <;> rfl
  have lines : (printed s (Text.lines t.toText)).problems.filter Problem.isOfTag = [] := by
    rw [List.filter_eq_nil_iff]
    intro p mem
    have of_line := isOfLine_of_mem_printed mem
    cases p with
    | unknownTag tag => cases of_line
    | _ => exact Bool.false_ne_true
  rw [problems_of_completed completed, List.filter_append, List.filter_append, unknown, identity,
    lines, List.append_nil, List.append_nil]

theorem filter_isOfLine_problems (completed : (run s (.str t)).Completed) :
    (run s (.str t)).problems.filter Problem.isOfLine =
      (printed s (Text.lines t.toText)).problems := by
  have unknown : (unknownTags s t.toText).filter Problem.isOfLine = [] := by
    rw [List.filter_eq_nil_iff]
    intro p mem
    obtain ⟨tag, -, rfl⟩ := List.mem_map.1 mem
    exact Bool.false_ne_true
  have identity : (identityProblems s).filter Problem.isOfLine = [] := by
    unfold identityProblems
    split <;> rfl
  have lines : (printed s (Text.lines t.toText)).problems.filter Problem.isOfLine =
      (printed s (Text.lines t.toText)).problems :=
    List.filter_eq_self.2 fun _ mem => isOfLine_of_mem_printed mem
  rw [problems_of_completed completed, List.filter_append, List.filter_append, unknown, identity,
    lines, List.append_nil, List.nil_append]

theorem notices_of_completed (completed : (run s (.str t)).Completed) :
    (run s (.str t)).notices = (printed s (Text.lines t.toText)).notices ++
      ((printed s (Text.lines t.toText)).progress.tracker.leaks s.dictionary).map .leak := by
  rw [notices_run, if_pos ((completed_iff s t).1 completed)]

end ReceiptPress.Synthesis

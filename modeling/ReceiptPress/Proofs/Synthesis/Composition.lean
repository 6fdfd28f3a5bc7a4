import ReceiptPress.Proofs.Synthesis.Passes
import ReceiptPress.Proofs.Synthesis.Renumbering
import ReceiptPress.Proofs.Tag.Shape
import ReceiptPress.Proofs.Tracker

namespace ReceiptPress.Synthesis

structure Agree (p q : Progress) (a b : Expansion) : Prop where
  chunks : a.chunks = b.chunks
  problems : a.problems = b.problems
  idsUsed : a.progress.idsUsed = b.progress.idsUsed
  notices : p.tracker.isOn = q.tracker.isOn →
    a.notices = b.notices ∧ a.progress.tracker.isOn = b.progress.tracker.isOn

theorem blockLine_tracker (s : Setting) (p : Progress) (t : Tracker) (tag : Text) (number : Nat) :
    blockLine s { p with tracker := t } tag number =
      { blockLine s p tag number with
        progress := { (blockLine s p tag number).progress with tracker := t } } := by
  unfold blockLine
  split
  · unfold logoLine
    cases Raster.canvas s.profile <;> rfl
  split
  · unfold barcodeLine
    dsimp only
    cases s.ids p.idsUsed with
    | error f => rfl
    | ok id =>
      dsimp only
      cases Barcode.ofValue id <;> rfl
  split
  · unfold itemsLine
    split <;> rfl
  · rfl

theorem filterMap_append_congr {α : Type} {view : Event → Option α} {a b a' b' : List Event}
    (here : a.filterMap view = b.filterMap view)
    (behind : a'.filterMap view = b'.filterMap view) :
    (a ++ a').filterMap view = (b ++ b').filterMap view := by
  rw [List.filterMap_append, List.filterMap_append, here, behind]

namespace Agree

variable {s : Setting} {p q : Progress}

theorem blockLine (ids : p.idsUsed = q.idsUsed) (tag : Text) (number : Nat) :
    Agree p q (blockLine s p tag number) (Synthesis.blockLine s q tag number) := by
  have q_eq : q = { p with tracker := q.tracker } := by rw [ids]
  have own : (Synthesis.blockLine s p tag number).progress.tracker = p.tracker :=
    congrArg (·.progress.tracker) (blockLine_tracker s p p.tracker tag number)
  rw [q_eq, blockLine_tracker s p q.tracker]
  exact ⟨rfl, rfl, rfl, fun same => ⟨rfl, by rw [own]; exact same⟩⟩

theorem inlineLine (ids : p.idsUsed = q.idsUsed) {line : Text} {number : Nat}
    (p_ok : (inlineLine s p line number).fault = none)
    (q_ok : (Synthesis.inlineLine s q line number).fault = none) :
    Agree p q (inlineLine s p line number) (Synthesis.inlineLine s q line number) := by
  obtain ⟨t, p_notices, substituted, p_checked, p_eq⟩ := inlineLine_ok p_ok
  obtain ⟨u, q_notices, q_substituted, q_checked, q_eq⟩ := inlineLine_ok q_ok
  cases Except.ok.inj (substituted.symm.trans q_substituted)
  rw [p_eq, q_eq]
  constructor
  · exact (filterMap_chunk?_text p_checked _ _).trans (filterMap_chunk?_text q_checked _ _).symm
  · exact (filterMap_problem?_text p_checked _ _).trans
      (filterMap_problem?_text q_checked _ _).symm
  · exact ids
  · intro same
    have applied := Tracker.isOn_apply (d := s.dictionary) same (Tag.words t)
    rw [Tracker.limit_congr applied, q_checked] at p_checked
    cases p_checked
    exact ⟨rfl, applied⟩

theorem printLine (ids : p.idsUsed = q.idsUsed) {line : Text} {number : Nat}
    (p_ok : (printLine s p line number).fault = none)
    (q_ok : (Synthesis.printLine s q line number).fault = none) :
    Agree p q (printLine s p line number) (Synthesis.printLine s q line number) := by
  unfold Synthesis.printLine at p_ok q_ok ⊢
  cases block : isBlock s.dictionary line with
  | true =>
    rw [if_pos rfl, if_pos rfl]
    exact Agree.blockLine ids _ number
  | false =>
    rw [block, if_neg Bool.false_ne_true] at p_ok q_ok
    rw [if_neg Bool.false_ne_true, if_neg Bool.false_ne_true]
    exact Agree.inlineLine ids p_ok q_ok

theorem append {a b a' b' : Expansion} (here : Agree p q a b)
    (behind : Agree a.progress b.progress a' b') :
    Agree p q { a' with events := a.events ++ a'.events }
      { b' with events := b.events ++ b'.events } := by
  constructor
  · exact filterMap_append_congr here.chunks behind.chunks
  · exact filterMap_append_congr here.problems behind.problems
  · exact behind.idsUsed
  · intro same
    obtain ⟨notices, on⟩ := here.notices same
    obtain ⟨rest, on⟩ := behind.notices on
    exact ⟨filterMap_append_congr notices rest, on⟩

theorem printLines (ids : p.idsUsed = q.idsUsed) {lines : List Text} {number : Nat}
    (p_ok : (printLines s p lines number).fault = none)
    (q_ok : (Synthesis.printLines s q lines number).fault = none) :
    Agree p q (printLines s p lines number) (Synthesis.printLines s q lines number) := by
  induction lines generalizing p q number with
  | nil => exact ⟨rfl, rfl, ids, fun same => ⟨rfl, same⟩⟩
  | cons line rest ih =>
    rw [printLines_cons] at p_ok q_ok ⊢
    obtain ⟨p_here, p_behind⟩ := Expansion.fault_of_andThen p_ok
    obtain ⟨q_here, q_behind⟩ := Expansion.fault_of_andThen q_ok
    rw [printLines_cons, Expansion.andThen_of_ok p_here, Expansion.andThen_of_ok q_here]
    have here := Agree.printLine ids p_here q_here
    exact here.append (ih here.idsUsed p_behind q_behind)

end Agree

def idCount (s : Setting) (t : CodePoints) : Nat :=
  (Text.lines t.toText).countP (asksForId s.dictionary)

theorem lines_append (t₁ t₂ : CodePoints) :
    Text.lines (t₁ ++ .char '\n' :: t₂ : CodePoints).toText =
      Text.lines t₁.toText ++ Text.lines t₂.toText := by
  rw [CodePoints.toText, List.map_append, List.map_cons]
  exact Text.lines_append_newline _ _

theorem unknownTags_append (s : Setting) (t₁ t₂ : CodePoints) :
    unknownTags s (t₁ ++ .char '\n' :: t₂ : CodePoints).toText =
      unknownTags s t₁.toText ++ unknownTags s t₂.toText := by
  have words : Tag.words (t₁ ++ .char '\n' :: t₂ : CodePoints).toText =
      Tag.words t₁.toText ++ Tag.words t₂.toText := by
    rw [CodePoints.toText, List.map_append, List.map_cons]
    exact Text.words_append_newline Tag.separate Tag.withinLines _ _
  rw [unknownTags, words, List.filter_append, List.map_append]
  rfl

theorem printed_append {s : Setting} {before after : List Text} {ids : Nat}
    (ids_eq : ids = before.countP (asksForId s.dictionary))
    (ok : (printed s (before ++ after)).fault = none)
    (after_ok : (printed (s.later ids) after).fault = none) :
    (printed s before).fault = none ∧
      (printed s (before ++ after)).chunks =
        (printed s before).chunks ++ (printed (s.later ids) after).chunks ∧
      (printed s (before ++ after)).problems = (printed s before).problems ++
        (printed (s.later ids) after).problems.map (Problem.raise before.length) ∧
      ((printed s before).progress.tracker.isOn = ({} : Tracker).isOn →
        (printed s (before ++ after)).notices = (printed s before).notices ++
            (printed (s.later ids) after).notices.map (Notice.raise before.length) ∧
          (printed s (before ++ after)).progress.tracker.isOn =
            (printed (s.later ids) after).progress.tracker.isOn) := by
  rw [printed_andThen] at ok ⊢
  obtain ⟨before_ok, behind_ok⟩ := Expansion.fault_of_andThen ok
  let start : Progress := { tracker := (printed s before).progress.tracker }
  have start_eq : (printed s before).progress = start.later ids := by
    have used : (printed s before).progress.idsUsed = 0 + ids := by
      rw [ids_eq]
      exact idsUsed_printLines before_ok
    rw [Nat.zero_add] at used
    rw [Progress.later, Nat.add_zero, ← used]
  rw [Expansion.andThen_of_ok before_ok]
  rw [start_eq, printLines_raise] at behind_ok ⊢
  have unused : start.idsUsed = Progress.idsUsed {} := rfl
  have agree : Agree start {} (printLines (s.ready.later ids) start after 1)
      (printed (s.later ids) after) := Agree.printLines unused behind_ok after_ok
  refine ⟨before_ok, ?_, ?_, fun off => ⟨?_, (agree.notices off).2⟩⟩
  · rw [← agree.chunks, Expansion.chunks, List.filterMap_append]
    exact congrArg _ (filterMap_chunk?_raise before.length _)
  · rw [← agree.problems, Expansion.problems, List.filterMap_append]
    exact congrArg _ (filterMap_problem?_raise before.length _)
  · rw [← (agree.notices off).1, Expansion.notices, List.filterMap_append]
    exact congrArg _ (filterMap_notice?_raise before.length _)

/-- The chunks of a template behind another one are those of the two bodies. Every error of the two
is there once and in its place, and so is every warning if the first template leaves nothing on. The
second template gets the transaction ids that the first one left, one being asked for by each
barcode line, and its reports name lines that stand further down. -/
theorem run_append_newline {s : Setting} {t₁ t₂ : CodePoints}
    (completed : (run s (.str (t₁ ++ .char '\n' :: t₂))).Completed)
    (second_completed : (run (s.later (idCount s t₁)) (.str t₂)).Completed) :
    let first := run s (.str t₁)
    let second := run (s.later (idCount s t₁)) (.str t₂)
    let whole := run s (.str (t₁ ++ .char '\n' :: t₂))
    let count := (Text.lines t₁.toText).length
    let opening := Chunk.ofText Instruction.init.bytes
    let closing := Chunk.ofText Instruction.cut.bytes
    first.Completed ∧
      first.chunks = opening :: (first.body ++ [closing]) ∧
      second.chunks = opening :: (second.body ++ [closing]) ∧
      whole.chunks = opening :: (first.body ++ second.body ++ [closing]) ∧
      whole.problems = first.problems.filter Problem.isOfTag ++
        second.problems.filter Problem.isOfTag ++ identityProblems s ++
        first.problems.filter Problem.isOfLine ++
        (second.problems.filter Problem.isOfLine).map (Problem.raise count) ∧
      ((∀ switch, .leak switch ∉ first.notices) →
        whole.notices = first.notices ++ second.notices.map (Notice.raise count)) := by
  intro first second whole count opening closing
  have ok := (completed_iff s _).1 completed
  have second_ok := (completed_iff _ t₂).1 second_completed
  rw [lines_append] at ok
  have ids_eq : idCount s t₁ = (Text.lines t₁.toText).countP (asksForId s.dictionary) := rfl
  obtain ⟨first_ok, chunks_eq, problems_eq, notices_eq⟩ := printed_append ids_eq ok second_ok
  have first_completed : first.Completed := (completed_iff s t₁).2 first_ok
  refine ⟨first_completed, ?_, ?_, ?_, ?_, ?_⟩
  · rw [body_of_completed first_completed]
    exact chunks_of_completed first_completed
  · rw [body_of_completed second_completed]
    exact chunks_of_completed second_completed
  · rw [body_of_completed first_completed, body_of_completed second_completed, ← chunks_eq,
      ← lines_append]
    exact chunks_of_completed completed
  · rw [filter_isOfTag_problems first_completed, filter_isOfTag_problems second_completed,
      filter_isOfLine_problems first_completed, filter_isOfLine_problems second_completed,
      List.append_assoc, ← problems_eq, ← lines_append]
    refine (problems_of_completed completed).trans ?_
    rw [unknownTags_append]
    rfl
  · intro no_leaks
    have leaks_nil :
        (printed s (Text.lines t₁.toText)).progress.tracker.leaks s.dictionary = [] := by
      rw [List.eq_nil_iff_forall_not_mem]
      intro switch mem
      apply no_leaks switch
      rw [notices_of_completed first_completed]
      exact List.mem_append_right _ (List.mem_map_of_mem mem)
    obtain ⟨notices_eq, on⟩ := notices_eq (Tracker.leaks_eq_nil_iff.1 leaks_nil)
    have first_eq : first.notices = (printed s (Text.lines t₁.toText)).notices := by
      rw [notices_of_completed first_completed, leaks_nil]
      exact List.append_nil _
    rw [first_eq, notices_of_completed second_completed, List.map_append, List.map_map,
      ← List.append_assoc, ← notices_eq, ← lines_append]
    refine (notices_of_completed completed).trans ?_
    rw [lines_append, Tracker.leaks_congr on]
    rfl

theorem run_append_newline_barcodes :
    let s := Setting.small (.ofList [.ofText "FIRST".toList, .ofText "SECOND".toList])
    let t₁ := Text.toCodePoints "{{B_ON}}Tea{{B_OFF}}\n{{BARCODE}}".toList
    let t₂ := Text.toCodePoints "{{BARCODE}}\n{{NONE}}{{DW_ON}}".toList
    let first := run s (.str t₁)
    let second := run (s.later (idCount s t₁)) (.str t₂)
    let whole := run s (.str (t₁ ++ .char '\n' :: t₂))
    whole.Completed ∧ second.Completed ∧ first.notices = [] ∧
      whole.chunks = Chunk.ofText Instruction.init.bytes ::
        (first.body ++ second.body ++ [Chunk.ofText Instruction.cut.bytes]) ∧
      whole.notices = second.notices.map (Notice.raise (Text.lines t₁.toText).length) := by
  intro s t₁ t₂ first second whole
  have completed : whole.Completed := (completed_iff s _).2 (by decide +kernel)
  have second_completed : second.Completed := (completed_iff _ t₂).2 (by decide +kernel)
  have silent : first.notices = [] := by decide +kernel
  obtain ⟨-, -, -, chunks_eq, -, notices_eq⟩ := run_append_newline completed second_completed
  have no_leaks : ∀ switch, .leak switch ∉ first.notices := fun switch mem => by
    rw [silent] at mem
    cases mem
  have notices_eq := notices_eq no_leaks
  refine ⟨completed, second_completed, silent, chunks_eq, notices_eq.trans ?_⟩
  rw [silent, List.nil_append]

end ReceiptPress.Synthesis

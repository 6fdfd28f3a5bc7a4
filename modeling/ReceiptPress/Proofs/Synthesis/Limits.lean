import ReceiptPress.Proofs.Synthesis.Overflow

/-!
# Limits that only warn

What a line may take decides about warnings and about nothing else. Two passes whose limits differ
have the same chunks and errors, and under higher limits no line is warned of that was not before
(`limits_advisory`). The warnings of lines stand in the order of the lines, one for each line at
most, and leaks stand behind them (`inLineOrder_run`).
-/

namespace ReceiptPress

def Profile.withLimits (p : Profile) (normal double : Int) : Profile :=
  { p with maxCharsNormal := .int normal, maxCharsDouble := .int double }

namespace Synthesis

variable {number : Nat}

/-! ## The order of warnings -/

theorem length_notices_printLine (s : Setting) (q : Progress) (line : Text) (number : Nat) :
    (printLine s q line number).notices.length ≤ 1 := by
  have outcome := printLine_outcome s q line number
  generalize printLine s q line number = e at outcome
  cases outcome with
  | idFault | dataFault | limitFault | logoFault | barcodeFault | noExpansion | logo | barcode =>
    exact Nat.zero_le 1
  | noItems => exact Nat.le_refl 1
  | items =>
    rw [Expansion.notices, filterMap_rows fun _ => rfl]
    exact Nat.zero_le 1
  | text inline substituted checked =>
    rw [Expansion.notices, filterMap_notice?_text]
    rcases lengthNotices_ok checked with ⟨-, rfl⟩ | ⟨shown, -, -, rfl⟩
    · exact Nat.zero_le 1
    · exact Nat.le_refl 1

structure Numbered (number : Nat) (numbered : List (Nat × Notice)) : Prop where
  increasing : (numbered.map Prod.fst).Pairwise (· < ·)
  least : ∀ n ∈ numbered, number ≤ n.1
  line_eq : ∀ n ∈ numbered, n.2.finding.line = some (n.1 : Int)

theorem numbered_printLine (s : Setting) (q : Progress) (line : Text) (number : Nat) :
    Numbered number ((printLine s q line number).notices.map fun n => (number, n)) where
  increasing := by
    match notices : (printLine s q line number).notices with
    | [] => exact List.Pairwise.nil
    | [n] => exact List.pairwise_singleton _ _
    | _ :: _ :: _ =>
      have few := length_notices_printLine s q line number
      rw [notices] at few
      exact absurd few (by simp)
  least n mem := by
    obtain ⟨_, -, rfl⟩ := List.mem_map.1 mem
    exact Nat.le_refl number
  line_eq n mem := by
    obtain ⟨_, among, rfl⟩ := List.mem_map.1 mem
    exact line_of_mem_printLine (Expansion.mem_notices.1 among) rfl

theorem Numbered.append {front behind : List (Nat × Notice)} (first : Numbered number front)
    (here : ∀ n ∈ front, n.1 = number) (second : Numbered (number + 1) behind) :
    Numbered number (front ++ behind) where
  increasing := by
    rw [List.map_append, List.pairwise_append]
    refine ⟨first.increasing, second.increasing, fun i front_mem j behind_mem => ?_⟩
    obtain ⟨m, m_mem, rfl⟩ := List.mem_map.1 front_mem
    obtain ⟨n, n_mem, rfl⟩ := List.mem_map.1 behind_mem
    exact here m m_mem ▸ second.least n n_mem
  least n mem := by
    rcases List.mem_append.1 mem with mem | mem
    · exact first.least n mem
    · exact Nat.le_of_succ_le (second.least n mem)
  line_eq n mem := (List.mem_append.1 mem).elim (first.line_eq n) (second.line_eq n)

theorem exists_numbered (s : Setting) (q : Progress) (lines : List Text) (number : Nat) :
    ∃ numbered, (printLines s q lines number).notices = numbered.map Prod.snd ∧
      Numbered number numbered := by
  induction lines generalizing q number with
  | nil => exact ⟨[], rfl, List.Pairwise.nil, nofun, nofun⟩
  | cons line rest ih =>
    have front := numbered_printLine s q line number
    have front_eq : (printLine s q line number).notices =
        ((printLine s q line number).notices.map fun n => (number, n)).map Prod.snd := by
      rw [List.map_map]
      exact (List.map_id _).symm
    rw [printLines_cons]
    cases fault : (printLine s q line number).fault with
    | some f =>
      rw [Expansion.andThen_of_fault fault]
      exact ⟨_, front_eq, front⟩
    | none =>
      obtain ⟨behind, behind_eq, second⟩ := ih (printLine s q line number).progress (number + 1)
      refine ⟨_ ++ behind, ?_, front.append (fun n mem => ?_) second⟩
      · rw [Expansion.notices_andThen fault, behind_eq, List.map_append, ← front_eq]
      · obtain ⟨_, -, rfl⟩ := List.mem_map.1 mem
        rfl

/-- The warnings of lines come first, by increasing numbers, and then what was left on. -/
def Result.InLineOrder (r : Result) : Prop :=
  ∃ (numbered : List (Nat × Notice)) (switches : List Text),
    r.notices = numbered.map Prod.snd ++ switches.map .leak ∧
      (numbered.map Prod.fst).Pairwise (· < ·) ∧
      ∀ n ∈ numbered, n.2.finding.line = some (n.1 : Int)

theorem inLineOrder_run (s : Setting) (template : Value) : (run s template).InLineOrder := by
  cases template with
  | str t =>
    obtain ⟨numbered, notices_eq, in_order⟩ := exists_numbered s.ready {} (Text.lines t.toText) 1
    refine ⟨numbered, if (printed s (Text.lines t.toText)).fault = none then
      (printed s (Text.lines t.toText)).progress.tracker.leaks s.dictionary else [], ?_,
      in_order.increasing, in_order.line_eq⟩
    rw [notices_run, printed, notices_eq]
    split <;> rfl
  | _ => exact ⟨[], [], rfl, List.Pairwise.nil, nofun⟩

/-! ## Overflow -/

def Notice.overflowLine? : Notice → Option Nat
  | overflow _ _ line => some line
  | _ => none

def Notice.isOverflow (n : Notice) : Bool := n.overflowLine?.isSome

def Result.overflowLines (r : Result) : List Nat := r.notices.filterMap Notice.overflowLine?

theorem Result.InLineOrder.overflowLines {r : Result} (in_order : r.InLineOrder) :
    r.overflowLines.Pairwise (· < ·) := by
  obtain ⟨numbered, switches, notices_eq, increasing, line_eq⟩ := in_order
  have silent : (switches.map Notice.leak).filterMap Notice.overflowLine? = [] := by
    rw [List.filterMap_map, List.filterMap_eq_nil_iff]
    exact fun _ _ => rfl
  rw [Result.overflowLines, notices_eq, List.filterMap_append, silent, List.append_nil]
  refine increasing.sublist ?_
  clear notices_eq increasing
  induction numbered with
  | nil => exact List.Sublist.slnil
  | cons n rest ih =>
    have behind := ih fun m mem => line_eq m (List.mem_cons_of_mem n mem)
    have here := line_eq n List.mem_cons_self
    obtain ⟨i, notice⟩ := n
    cases notice with
    | overflow count limit line =>
      obtain rfl : line = i := Int.ofNat_inj.1 (Option.some.inj here)
      exact behind.cons_cons line
    | noItems | leak => exact behind.cons i

/-! ## Events that warn less -/

def Event.overflowLine? (e : Event) : Option Nat := e.notice?.bind Notice.overflowLine?

structure Eased (first second : List Event) : Prop where
  others : (second.filter fun e => e.overflowLine?.isNone) =
    first.filter fun e => e.overflowLine?.isNone
  lines : (second.filterMap Event.overflowLine?).Sublist (first.filterMap Event.overflowLine?)

namespace Eased

variable {first second : List Event}

theorem refl (events : List Event) : Eased events events := ⟨rfl, List.Sublist.refl _⟩

theorem append {first' second' : List Event} (here : Eased first second)
    (behind : Eased first' second') : Eased (first ++ first') (second ++ second') where
  others := by rw [List.filter_append, List.filter_append, here.others, behind.others]
  lines := by
    rw [List.filterMap_append, List.filterMap_append]
    exact here.lines.append behind.lines

theorem filterMap_eq {α : Type} {view : Event → Option α} (eased : Eased first second)
    (blind : ∀ e, e.overflowLine?.isNone = false → view e = none) :
    second.filterMap view = first.filterMap view := by
  have kept (events : List Event) :
      (events.filter fun e => e.overflowLine?.isNone).filterMap view = events.filterMap view := by
    rw [List.filterMap_filter]
    congr 1
    funext e
    cases warns : e.overflowLine?.isNone with
    | true => exact if_pos rfl
    | false => rw [blind e warns, if_neg Bool.false_ne_true]
  rw [← kept, eased.others, kept]

end Eased

/-! ## Lines under other limits -/

def Setting.withLimits (s : Setting) (normal double : Int) : Setting :=
  { s with profile := s.profile.withLimits normal double }

structure Expansion.Eased (first second : Expansion) : Prop where
  progress_eq : second.progress = first.progress
  fault_eq : second.fault = first.fault
  events : Synthesis.Eased first.events second.events

/-- A limit has too many digits to be written, and one of two passes ended where it was to be. -/
def Unwritten (limits : List Int) (first second : Option Fault) : Prop :=
  (∃ n ∈ limits, ¬Numeral.IsShort n) ∧
    (first = some .tooLongToWrite ∨ second = some .tooLongToWrite)

theorem blockLine_withLimits (s : Setting) (normal double : Int) (q : Progress) (tag : Text)
    (number : Nat) :
    blockLine (s.withLimits normal double) q tag number = blockLine s q tag number := by
  have row_eq (item : Item) : item.row (s.profile.withLimits normal double) = item.row s.profile :=
    rfl
  have items_eq : itemsLine (s.withLimits normal double) q number = itemsLine s q number := by
    unfold itemsLine
    rw [Setting.withLimits, rows_congr row_eq]
  rw [blockLine, blockLine, items_eq]
  rfl

theorem lengthNotices_eased {limit limit' : Int} (le : limit ≤ limit') (count number : Nat) :
    (∃ notices notices', lengthNotices count (.int limit) number = .ok notices ∧
      lengthNotices count (.int limit') number = .ok notices' ∧ Eased notices notices') ∨
    (¬Numeral.IsShort limit ∧
      lengthNotices count (.int limit) number = .error .tooLongToWrite) ∨
    (¬Numeral.IsShort limit' ∧
      lengthNotices count (.int limit') number = .error .tooLongToWrite) := by
  rw [lengthNotices_int, lengthNotices_int]
  by_cases exceeds : limit < count
  · rw [if_pos exceeds]
    by_cases short : Numeral.IsShort limit
    · rw [if_pos short]
      by_cases exceeds' : limit' < count
      · rw [if_pos exceeds']
        by_cases short' : Numeral.IsShort limit'
        · rw [if_pos short']
          exact .inl ⟨_, _, rfl, rfl, rfl, List.Sublist.refl _⟩
        · exact .inr (.inr ⟨short', if_neg short'⟩)
      · rw [if_neg exceeds']
        exact .inl ⟨_, _, rfl, rfl, rfl, List.nil_sublist _⟩
    · exact .inr (.inl ⟨short, if_neg short⟩)
  · have within : ¬limit' < count := fun exceeds' => exceeds (Int.lt_of_le_of_lt le exceeds')
    rw [if_neg exceeds, if_neg within]
    exact .inl ⟨_, _, rfl, rfl, .refl []⟩

section TwoLimits

variable {normal double normal' double' : Int} (normal_le : normal ≤ normal')
  (double_le : double ≤ double')

include normal_le double_le

theorem inlineText_eased (s : Setting) (q : Progress) (t : Text) (number : Nat) :
    let first := inlineText (s.withLimits normal double) q t number
    let second := inlineText (s.withLimits normal' double') q t number
    first.Eased second ∨ Unwritten [normal, double, normal', double'] first.fault second.fault := by
  intro first second
  let tracker := q.tracker.apply s.dictionary (Tag.words t)
  let limit := if tracker.doubleWidth then double else normal
  let limit' := if tracker.doubleWidth then double' else normal'
  have limit_eq : tracker.limit (s.profile.withLimits normal double) = .int limit :=
    limit_of_int rfl rfl tracker
  have limit_eq' : tracker.limit (s.profile.withLimits normal' double') = .int limit' :=
    limit_of_int rfl rfl tracker
  have le : limit ≤ limit' := by
    simp only [limit, limit']
    split
    · exact double_le
    · exact normal_le
  have among : limit ∈ [normal, double, normal', double'] ∧
      limit' ∈ [normal, double, normal', double'] := by
    simp only [limit, limit']
    split <;> simp
  rcases lengthNotices_eased le (Tag.visible t).length number with
    ⟨notices, notices', checked, checked', eased⟩ | ⟨long, refused⟩ | ⟨long, refused⟩
  · rw [← limit_eq] at checked
    rw [← limit_eq'] at checked'
    have first_eq : first = _ := inlineText_of_ok (s := s.withLimits normal double) checked
    have second_eq : second = _ := inlineText_of_ok (s := s.withLimits normal' double') checked'
    rw [first_eq, second_eq]
    exact .inl ⟨rfl, rfl, (eased.append (.refl _)).append (.refl _)⟩
  · rw [← limit_eq] at refused
    exact .inr ⟨⟨limit, among.1, long⟩, .inl (fault_inlineText_of_error refused)⟩
  · rw [← limit_eq'] at refused
    exact .inr ⟨⟨limit', among.2, long⟩, .inr (fault_inlineText_of_error refused)⟩

theorem printLine_eased (s : Setting) (q : Progress) (line : Text) (number : Nat) :
    let first := printLine (s.withLimits normal double) q line number
    let second := printLine (s.withLimits normal' double') q line number
    first.Eased second ∨ Unwritten [normal, double, normal', double'] first.fault second.fault := by
  have block_eq (n d : Int) :
      isBlock (s.withLimits n d).dictionary line = isBlock s.dictionary line := rfl
  have data_eq (n d : Int) : substitute (s.withLimits n d).sale (s.withLimits n d).dictionary line =
      substitute s.sale s.dictionary line := rfl
  rw [printLine, printLine, block_eq, block_eq]
  cases isBlock s.dictionary line with
  | true =>
    rw [if_pos rfl, if_pos rfl, blockLine_withLimits, blockLine_withLimits]
    exact .inl ⟨rfl, rfl, .refl _⟩
  | false =>
    rw [if_neg Bool.false_ne_true, if_neg Bool.false_ne_true, inlineLine, inlineLine, data_eq,
      data_eq]
    cases substitute s.sale s.dictionary line with
    | error f => exact .inl ⟨rfl, rfl, .refl _⟩
    | ok t => exact inlineText_eased normal_le double_le s q t number

theorem printLines_eased (s : Setting) (q : Progress) (lines : List Text) (number : Nat) :
    let first := printLines (s.withLimits normal double) q lines number
    let second := printLines (s.withLimits normal' double') q lines number
    first.Eased second ∨ Unwritten [normal, double, normal', double'] first.fault second.fault := by
  induction lines generalizing q number with
  | nil => exact .inl ⟨rfl, rfl, .refl _⟩
  | cons line rest ih =>
    intro first second
    have first_eq : first = _ := printLines_cons (s.withLimits normal double) q line rest number
    have second_eq : second = _ := printLines_cons (s.withLimits normal' double') q line rest number
    rw [first_eq, second_eq]
    -- A line leaves both passes in the same progress, or one of them ends at it.
    rcases printLine_eased normal_le double_le s q line number with here | ⟨long, ended⟩
    · cases fault : (printLine (s.withLimits normal double) q line number).fault with
      | some f =>
        rw [Expansion.andThen_of_fault fault,
          Expansion.andThen_of_fault (here.fault_eq.trans fault)]
        exact .inl here
      | none =>
        rw [Expansion.andThen_of_ok fault, Expansion.andThen_of_ok (here.fault_eq.trans fault),
          here.progress_eq]
        refine (ih _ (number + 1)).imp_left fun behind => ?_
        exact ⟨behind.progress_eq, behind.fault_eq, here.events.append behind.events⟩
    · refine .inr ⟨long, ended.imp (fun fault => ?_) fun fault => ?_⟩
      · rw [Expansion.andThen_of_fault fault, fault]
      · rw [Expansion.andThen_of_fault fault, fault]

end TwoLimits

/-! ## The passes -/

structure Result.Eased (first second : Result) : Prop where
  chunks_eq : second.chunks = first.chunks
  errors_eq : second.errors = first.errors
  others_eq : second.notices.filter (!·.isOverflow) = first.notices.filter (!·.isOverflow)
  lines : second.overflowLines.Sublist first.overflowLines

theorem Eased.ofEvents {first second : List Event} (eased : Eased first second) :
    (Result.ofEvents first).Eased (.ofEvents second) where
  chunks_eq := eased.filterMap_eq fun e warns => by
    cases e with
    | notice => rfl
    | _ => cases warns
  errors_eq := by
    have problems_eq : (Result.ofEvents second).problems = (Result.ofEvents first).problems :=
      eased.filterMap_eq fun e warns => by
        cases e with
        | notice => rfl
        | _ => cases warns
    rw [Result.errors_eq, Result.errors_eq, problems_eq]
  others_eq := by
    simp only [Result.ofEvents, List.filter_filterMap]
    refine eased.filterMap_eq fun e warns => ?_
    cases e with
    | notice n =>
      have overflows : n.isOverflow = true := by
        simpa [Event.overflowLine?, Event.notice?, Notice.isOverflow] using warns
      simp [Event.notice?, overflows]
    | _ => rfl
  lines := by
    have shown (events : List Event) :
        (Result.ofEvents events).overflowLines = events.filterMap Event.overflowLine? :=
      List.filterMap_filterMap
    rw [shown, shown]
    exact eased.lines

theorem eventsOf_eased (s : Setting) (t : CodePoints) {normal double normal' double' : Int}
    (eased : (printed (s.withLimits normal double) (Text.lines t.toText)).Eased
      (printed (s.withLimits normal' double') (Text.lines t.toText))) :
    Eased (eventsOf (s.withLimits normal double) (.str t))
      (eventsOf (s.withLimits normal' double') (.str t)) := by
  rw [eventsOf_str, eventsOf_str]
  have ending_eq : ending (s.withLimits normal' double').ready
      (printed (s.withLimits normal' double') (Text.lines t.toText)) =
        ending (s.withLimits normal double).ready
          (printed (s.withLimits normal double) (Text.lines t.toText)) := by
    rw [ending, ending, eased.fault_eq, eased.progress_eq]
    rfl
  rw [ending_eq]
  exact (Eased.refl _).append ((Eased.refl [_]).append (eased.events.append (.refl _)))

/-- Limits have no effect but overflow warnings. Under higher ones the chunks, the errors and the
other warnings are the same, also where the pass is aborted, and no line is warned of that was not
before. Only a limit with too many digits to be written in a warning can end a pass. Warnings of
lines are in order and before those of what was left on. -/
theorem limits_advisory (s : Setting) (template : Value) {normal double normal' double' : Int}
    (normal_le : normal ≤ normal') (double_le : double ≤ double') :
    let first := run (s.withLimits normal double) template
    let second := run (s.withLimits normal' double') template
    (first.Eased second ∨
      (∃ n ∈ [normal, double, normal', double'], ¬Numeral.IsShort n) ∧
        ∃ r ∈ [first, second], Problem.aborted .tooLongToWrite ∈ r.problems) ∧
    ∀ r ∈ [first, second], r.InLineOrder ∧ r.overflowLines.Pairwise (· < ·) := by
  intro first second
  refine ⟨?_, fun r mem => ?_⟩
  · cases template with
    | str t =>
      rcases printLines_eased normal_le double_le s.ready {} (Text.lines t.toText) 1 with
        eased | ⟨long, ended⟩
      · exact .inl (eventsOf_eased s t eased).ofEvents
      · have aborts (n d : Int) (fault : (printed (s.withLimits n d) (Text.lines t.toText)).fault =
            some .tooLongToWrite) :
            .aborted .tooLongToWrite ∈ (run (s.withLimits n d) (.str t)).problems := by
          rw [problems_run, fault]
          exact List.mem_append_right _ List.mem_cons_self
        refine .inr ⟨long, ended.elim (fun fault => ?_) fun fault => ?_⟩
        · exact ⟨first, List.mem_cons_self, aborts _ _ fault⟩
        · exact ⟨second, List.mem_cons_of_mem _ List.mem_cons_self, aborts _ _ fault⟩
    | _ => exact .inl (Eased.refl _).ofEvents
  · have in_order : r.InLineOrder := by
      rw [List.mem_cons, List.mem_singleton] at mem
      rcases mem with rfl | rfl
      · exact inLineOrder_run _ _
      · exact inLineOrder_run _ _
    exact ⟨in_order, in_order.overflowLines⟩

theorem limits_advisory_tea :
    let s := Setting.small (.ofList [])
    let t := Value.ofText "Tea for two\n{{DW_ON}}Tea and tea\n{{ITEMS}}".toList
    let first := run (s.withLimits 10 5) t
    let second := run (s.withLimits 20 5) t
    (10 : Int) ≤ 20 ∧ (5 : Int) ≤ 5 ∧ first.overflowLines = [1, 2] ∧ second.overflowLines = [2] ∧
      second.chunks = first.chunks ∧ second.errors = first.errors ∧
      first.notices.filter (!·.isOverflow) = [.leak "{{DW_ON}}".toList] ∧
      second.notices.filter (!·.isOverflow) = [.leak "{{DW_ON}}".toList] := by
  intro s t first second
  have normal_le : (10 : Int) ≤ 20 := by decide
  have double_le : (5 : Int) ≤ 5 := by decide
  have all_short : ∀ n ∈ ([10, 5, 20, 5] : List Int), Numeral.IsShort n := by decide +kernel
  have leak : first.notices.filter (!·.isOverflow) = [.leak "{{DW_ON}}".toList] := by
    decide +kernel
  obtain ⟨eased | ⟨⟨n, among, long⟩, -⟩, -⟩ := limits_advisory s t normal_le double_le
  · exact ⟨normal_le, double_le, by decide +kernel, by decide +kernel, eased.chunks_eq,
      eased.errors_eq, leak, eased.others_eq.trans leak⟩
  · exact absurd (all_short n among) long

end Synthesis

end ReceiptPress

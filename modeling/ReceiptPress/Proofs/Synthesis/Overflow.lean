import ReceiptPress.Proofs.Settings
import ReceiptPress.Proofs.Synthesis.Passes
import ReceiptPress.Proofs.Tag.Literals
import ReceiptPress.Proofs.Tag.Shape

namespace ReceiptPress.Synthesis

variable {s : Setting} {p : Progress} {number : Nat}

/-! ## The notices of a line -/

def Notice.names (number : Nat) (n : Notice) : Bool := n.finding.line = some (number : Int)

theorem line_of_notice_mem_printLines {lines : List Text} {n : Notice}
    (mem : .notice n ∈ (printLines s p lines number).events) :
    ∃ i < lines.length, n.finding.line = some ((number + i : Nat) : Int) := by
  induction lines generalizing p number with
  | nil => cases mem
  | cons line rest ih =>
    have here : .notice n ∈ (printLine s p line number).events →
        ∃ i < (line :: rest).length, n.finding.line = some ((number + i : Nat) : Int) :=
      fun mem => ⟨0, Nat.zero_lt_succ _, line_of_mem_printLine mem rfl⟩
    rw [printLines_cons, Expansion.andThen] at mem
    split at mem
    · exact here mem
    · rcases List.mem_append.1 mem with mem | mem
      · exact here mem
      · obtain ⟨i, inside, eq⟩ := ih mem
        rw [Nat.add_right_comm] at eq
        exact ⟨i + 1, Nat.succ_lt_succ inside, eq⟩

theorem filter_names_printLines {lines : List Text} {line : Nat}
    (elsewhere : line < number ∨ number + lines.length ≤ line) :
    (printLines s p lines number).notices.filter (Notice.names line) = [] := by
  rw [List.filter_eq_nil_iff]
  intro n mem names
  obtain ⟨i, inside, eq⟩ := line_of_notice_mem_printLines (Expansion.mem_notices.1 mem)
  rw [Notice.names, eq, decide_eq_true_eq, Option.some.injEq, Int.ofNat_inj] at names
  omega

theorem filter_names_printLine (line : Text) :
    (printLine s p line number).notices.filter (Notice.names number) =
      (printLine s p line number).notices := by
  rw [List.filter_eq_self]
  intro n mem
  exact decide_eq_true (line_of_mem_printLine (Expansion.mem_notices.1 mem) rfl)

theorem filter_names_leaks (number : Nat) (switches : List Text) :
    (switches.map Notice.leak).filter (Notice.names number) = [] := by
  rw [List.filter_eq_nil_iff]
  intro n mem names
  obtain ⟨switch, -, rfl⟩ := List.mem_map.1 mem
  cases names

theorem filter_names_notices {t : CodePoints} (completed : (run s (.str t)).Completed)
    {before after : List Text} {line : Text}
    (lines_eq : Text.lines t.toText = before ++ line :: after) :
    let here := printLine s.ready (printed s before).progress line (1 + before.length)
    (printed s before).fault = none ∧ here.fault = none ∧
      (run s (.str t)).notices.filter (Notice.names (1 + before.length)) = here.notices := by
  intro here
  have ok := (completed_iff s t).1 completed
  rw [lines_eq, printed_andThen] at ok
  obtain ⟨before_ok, behind_ok⟩ := Expansion.fault_of_andThen ok
  rw [printLines_cons] at behind_ok
  have here_ok := (Expansion.fault_of_andThen behind_ok).1
  refine ⟨before_ok, here_ok, ?_⟩
  have none_before : (printed s before).notices.filter (Notice.names (1 + before.length)) = [] :=
    filter_names_printLines (.inr (Nat.le_refl _))
  have none_after (q : Progress) : (printLines s.ready q after
      (1 + before.length + 1)).notices.filter (Notice.names (1 + before.length)) = [] :=
    filter_names_printLines (.inl (Nat.lt_succ_self _))
  rw [notices_of_completed completed, List.filter_append, filter_names_leaks, List.append_nil,
    lines_eq, printed_andThen, Expansion.notices_andThen before_ok, List.filter_append,
    none_before, List.nil_append, printLines_cons, Expansion.notices_andThen here_ok,
    List.filter_append, none_after, List.append_nil]
  exact filter_names_printLine line

/-! ## Whole limits -/

theorem isOver_int (count : Nat) (limit : Int) :
    isOver count (.int limit) = .ok (decide (limit < count)) := by
  have compared : Amount.compareInt count (.whole limit) = some .lt ↔ limit < count := by
    rw [Amount.compareInt, Option.some.injEq, Int.compare_eq_lt]
  exact congrArg Except.ok (decide_eq_decide.2 compared)

theorem lengthNotices_int (count : Nat) (limit : Int) (number : Nat) :
    lengthNotices count (.int limit) number =
      if limit < count then
        if Numeral.IsShort limit then
          .ok [.notice (.overflow count (Text.ofInt limit) number)]
        else .error .tooLongToWrite
      else .ok [] := by
  rw [lengthNotices, isOver_int, ok_bind]
  by_cases exceeds : limit < count
  · rw [if_pos exceeds, if_pos (decide_eq_true exceeds), Value.text_int]
    split
    · rw [ok_bind, CodePoints.toText_toCodePoints]
      rfl
    · rfl
  · rw [if_neg exceeds, if_neg (by simpa using exceeds)]
    rfl

theorem filterMap_lengthNotices_int {count : Nat} {limit : Int} {events : List Event}
    (checked : lengthNotices count (.int limit) number = .ok events) :
    events.filterMap Event.notice? =
      if limit < count then [.overflow count (Text.ofInt limit) number] else [] := by
  rw [lengthNotices_int] at checked
  by_cases exceeds : limit < count
  · rw [if_pos exceeds] at checked ⊢
    split at checked
    · cases checked
      rfl
    · cases checked
  · rw [if_neg exceeds] at checked ⊢
    cases checked
    rfl

theorem filterMap_notice?_text (notices : List Event) (cs : List Chunk) (last : Chunk) :
    (notices ++ cs.map Event.emit ++ [Event.emit last]).filterMap Event.notice? =
      notices.filterMap Event.notice? := by
  have silent : (cs.map Event.emit ++ [Event.emit last]).filterMap Event.notice? = [] := by
    rw [← List.map_singleton (f := Event.emit), ← List.map_append, List.filterMap_map,
      List.filterMap_eq_nil_iff]
    exact fun _ _ => rfl
  rw [List.append_assoc, List.filterMap_append, silent, List.append_nil]

theorem limit_of_int {profile : Profile} {normal double : Int}
    (normal_eq : profile.maxCharsNormal = .int normal)
    (double_eq : profile.maxCharsDouble = .int double) (t : Tracker) :
    t.limit profile = .int (if t.doubleWidth then double else normal) := by
  rw [Tracker.limit, normal_eq, double_eq]
  split <;> rfl

/-! ## Lines of text -/

theorem printLines_singleton (line : Text) :
    printLines s p [line] number = printLine s p line number := by
  rw [printLines_cons, Expansion.andThen]
  cases fault : (printLine s p line number).fault with
  | some f => rfl
  | none =>
    dsimp only [printLines]
    rw [List.append_nil, ← fault]

theorem inline_of_completed {t : CodePoints} (completed : (run s (.str t)).Completed)
    {before after : List Text} {line : Text}
    (lines_eq : Text.lines t.toText = before ++ line :: after)
    (inline : isBlock s.dictionary line = false) :
    ∃ u checked, substitute s.sale s.dictionary line = .ok u ∧
      emitted s (before ++ [line]) =
        emitted s before ++ (s.dictionary.splitLine u ++ [.ofText lineFeed]) ∧
      (printed s (before ++ [line])).progress.tracker =
        (printed s before).progress.tracker.apply s.dictionary (Tag.words u) ∧
      lengthNotices (Tag.visible u).length
        ((printed s (before ++ [line])).progress.tracker.limit s.profile) (before.length + 1) =
          .ok checked ∧
      (run s (.str t)).notices.filter (Notice.names (before.length + 1)) =
        checked.filterMap Event.notice? := by
  obtain ⟨before_ok, here_ok, notices_eq⟩ := filter_names_notices completed lines_eq
  rw [Nat.add_comm 1] at here_ok notices_eq
  have inline_eq (q : Progress) : printLine s.ready q line (before.length + 1) =
      inlineLine s.ready q line (before.length + 1) :=
    if_neg (ne_true_of_eq_false inline)
  have whole : printed s (before ++ [line]) = (printed s before).andThen
      fun q => inlineLine s.ready q line (before.length + 1) := by
    rw [printed_andThen, Nat.add_comm 1]
    congr 1
    funext q
    rw [printLines_singleton, inline_eq]
  rw [inline_eq] at here_ok notices_eq
  obtain ⟨u, notices, substituted, checked, here_eq⟩ := inlineLine_ok here_ok
  have tracker_eq : (printed s (before ++ [line])).progress.tracker =
      (printed s before).progress.tracker.apply s.dictionary (Tag.words u) := by
    rw [whole, Expansion.progress_andThen before_ok, here_eq]
    rfl
  have chunks_eq : (inlineLine s.ready (printed s before).progress line
      (before.length + 1)).chunks = s.dictionary.splitLine u ++ [.ofText lineFeed] := by
    rw [here_eq]
    exact filterMap_chunk?_text checked _ _
  refine ⟨u, notices, substituted, ?_, tracker_eq, tracker_eq ▸ checked, ?_⟩
  · rw [emitted, emitted, whole, Expansion.chunks_andThen before_ok, chunks_eq, List.cons_append]
  · rw [notices_eq, here_eq, Expansion.notices, filterMap_notice?_text]

theorem line_of_completed {t : CodePoints} {normal double : Int}
    (normal_eq : s.profile.maxCharsNormal = .int normal)
    (double_eq : s.profile.maxCharsDouble = .int double)
    (completed : (run s (.str t)).Completed) {before after : List Text} {line : Text}
    (lines_eq : Text.lines t.toText = before ++ line :: after)
    (inline : isBlock s.dictionary line = false) :
    ∃ u, substitute s.sale s.dictionary line = .ok u ∧
      emitted s (before ++ [line]) =
        emitted s before ++ (s.dictionary.splitLine u ++ [.ofText lineFeed]) ∧
      (printed s (before ++ [line])).progress.tracker =
        (printed s before).progress.tracker.apply s.dictionary (Tag.words u) ∧
      (run s (.str t)).notices.filter (Notice.names (before.length + 1)) =
        let tracker := (printed s (before ++ [line])).progress.tracker
        let limit := if tracker.doubleWidth then double else normal
        if limit < (Tag.visible u).length then
          [.overflow (Tag.visible u).length (Text.ofInt limit) (before.length + 1)]
        else [] := by
  obtain ⟨u, notices, substituted, emitted_eq, tracker_eq, checked, notices_eq⟩ :=
    inline_of_completed completed lines_eq inline
  rw [limit_of_int normal_eq double_eq] at checked
  exact ⟨u, substituted, emitted_eq, tracker_eq,
    notices_eq.trans (filterMap_lengthNotices_int checked)⟩

/-! ## What is counted and what is printed -/

theorem substitute_of_not_occurs {sale : Sale} {d : Tag.Dictionary} {line : Text}
    (absent : ∀ e ∈ d.ofCategories [.data], Text.occurs e.tag line = false) :
    substitute sale d line = .ok line := by
  unfold substitute
  generalize d.ofCategories [.data] = entries at absent ⊢
  induction entries with
  | nil => rfl
  | cons e rest ih =>
    rw [substituteAll, absent e List.mem_cons_self, if_neg Bool.false_ne_true]
    exact ih fun x mem => absent x (List.mem_cons_of_mem e mem)

theorem completed_of_ok {r : Result} (accepted : r.ok = true) : r.problems = [] ∧ r.Completed := by
  have none : r.problems = [] := by
    rw [Result.ok, Diagnostics.ok, List.isEmpty_iff] at accepted
    exact List.map_eq_nil_iff.1 accepted
  refine ⟨none, fun f mem => ?_⟩
  rw [none] at mem
  cases mem

theorem exists_entry_of_ok {t : CodePoints} (accepted : (run s (.str t)).ok = true) {w : Text}
    (mem : w ∈ Tag.words t.toText) : ∃ e ∈ s.dictionary.entries, e.tag = w := by
  obtain ⟨none, completed⟩ := completed_of_ok accepted
  rw [problems_of_completed completed, List.append_eq_nil_iff, List.append_eq_nil_iff] at none
  have known := none.1.1
  rw [unknownTags, List.map_eq_nil_iff, List.filter_eq_nil_iff] at known
  simpa [Tag.Dictionary.contains] using known w mem

theorem mem_blocks {d : Tag.Dictionary} {e : Tag.Entry} (mem : e ∈ d.entries)
    (silent : d.emits e.tag = false) (no_data : e ∉ d.ofCategories [.data]) :
    e ∈ d.ofCategories [.block] := by
  have found : d.get? e.tag = some e := Tag.Dictionary.get?_eq_some_iff.2 ⟨mem, rfl⟩
  rw [Tag.Dictionary.emits, found] at silent
  have no_data : e.category ≠ .data := fun data =>
    no_data (List.mem_filter.2 ⟨mem, by simp [data]⟩)
  refine List.mem_filter.2 ⟨mem, ?_⟩
  cases category : e.category with
  | toggle | align => simp [Tag.Entry.emitsBytes, category] at silent
  | block => rfl
  | data => exact absurd category no_data

theorem exists_block_of_kept {t : CodePoints} (accepted : (run s (.str t)).ok = true) {line : Text}
    (among : line ∈ Text.lines t.toText)
    (no_data : ∀ e ∈ s.dictionary.ofCategories [.data], Text.occurs e.tag line = false) {w : Text}
    (kept : w ∈ s.dictionary.keptTags line) :
    ∃ e ∈ s.dictionary.ofCategories [.block], e.tag = w := by
  obtain ⟨mem, silent⟩ := List.mem_filter.1 kept
  have in_template : w ∈ Tag.words t.toText := by
    rw [Tag.words, Text.words_eq_flatMap_lines Tag.separate Tag.withinLines]
    exact List.mem_flatMap.2 ⟨line, among, mem⟩
  obtain ⟨e, registered, rfl⟩ := exists_entry_of_ok accepted in_template
  refine ⟨e, mem_blocks registered (by simpa using silent) fun data => ?_, rfl⟩
  have occurs := Text.occurs_iff_infix.2 (Text.infix_of_mem_words mem)
  rw [no_data e data] at occurs
  cases occurs

/-- The characters that are compared with the limit, in a template without errors, and the literal
text that the line is split into differ by the tags that are not split out. So they are as many if
and only if every tag of the line, data tags exchanged, expands to bytes. Without data tags in it, a
line has no other such tags than block tags among its text. -/
theorem literals_of_accepted {t : CodePoints} {normal double : Int}
    (normal_eq : s.profile.maxCharsNormal = .int normal)
    (double_eq : s.profile.maxCharsDouble = .int double) (accepted : (run s (.str t)).ok = true)
    {before after : List Text} {line : Text}
    (lines_eq : Text.lines t.toText = before ++ line :: after)
    (inline : isBlock s.dictionary line = false) :
    ∃ u, substitute s.sale s.dictionary line = .ok u ∧
      emitted s (before ++ [line]) =
        emitted s before ++ (s.dictionary.splitLine u ++ [.ofText lineFeed]) ∧
      (run s (.str t)).notices.filter (Notice.names (before.length + 1)) =
        (let tracker := (printed s (before ++ [line])).progress.tracker
        let limit := if tracker.doubleWidth then double else normal
        if limit < (Tag.visible u).length then
          [.overflow (Tag.visible u).length (Text.ofInt limit) (before.length + 1)]
        else []) ∧
      (s.dictionary.literalChunks u).Sublist (s.dictionary.splitLine u) ∧
      streamSize (s.dictionary.literalChunks u) =
        (Tag.visible u).length + (s.dictionary.keptTags u).flatten.length ∧
      ((Tag.visible u).length = streamSize (s.dictionary.literalChunks u) ↔
        ∀ w ∈ Tag.words u, s.dictionary.emits w = true) ∧
      ((∀ e ∈ s.dictionary.ofCategories [.data], Text.occurs e.tag line = false) →
        ∀ w ∈ s.dictionary.keptTags u, ∃ e ∈ s.dictionary.ofCategories [.block], e.tag = w) := by
  obtain ⟨u, substituted, emitted_eq, -, notices_eq⟩ :=
    line_of_completed normal_eq double_eq (completed_of_ok accepted).2 lines_eq inline
  have among_chunks := s.dictionary.literalChunks_sublist u
  refine ⟨u, substituted, emitted_eq, notices_eq, among_chunks, ?_, ?_, ?_⟩
  · rw [s.dictionary.streamSize_literalChunks, s.dictionary.length_literals]
  · rw [s.dictionary.streamSize_literalChunks]
    exact s.dictionary.length_visible_eq_iff u
  · intro no_data w kept
    obtain rfl : line = u :=
      Except.ok.inj ((substitute_of_not_occurs no_data).symm.trans substituted)
    have among : line ∈ Text.lines t.toText := by simp [lines_eq]
    exact exists_block_of_kept accepted among no_data kept

theorem literals_of_accepted_logo :
    let s := Setting.small (.ofList [])
    let t := Text.toCodePoints "{{DW_ON}}\nTea for two and two for tea{{LOGO}}".toList
    let before : List Text := ["{{DW_ON}}".toList]
    let line : Text := "Tea for two and two for tea{{LOGO}}".toList
    s.profile.maxCharsNormal = .int 42 ∧ s.profile.maxCharsDouble = .int 21 ∧
      (run s (.str t)).ok = true ∧ Text.lines t.toText = before ++ line :: [] ∧
      isBlock s.dictionary line = false ∧
      ∃ u, substitute s.sale s.dictionary line = .ok u ∧
        (run s (.str t)).notices.filter (Notice.names 2) = [.overflow 27 "21".toList 2] ∧
        (Tag.visible u).length = 27 ∧ streamSize (s.dictionary.literalChunks u) = 35 := by
  intro s t before line
  have normal_eq : s.profile.maxCharsNormal = .int 42 := rfl
  have double_eq : s.profile.maxCharsDouble = .int 21 := rfl
  have accepted : (run s (.str t)).ok = true := by decide +kernel
  have lines_eq : Text.lines t.toText = before ++ line :: [] := by decide +kernel
  have inline : isBlock s.dictionary line = false := by decide +kernel
  obtain ⟨u, substituted, -, notices_eq, -, length_eq, -, -⟩ :=
    literals_of_accepted normal_eq double_eq accepted lines_eq inline
  have unchanged : substitute s.sale s.dictionary line = .ok line :=
    substitute_of_not_occurs (by decide +kernel)
  obtain rfl : u = line := Except.ok.inj (substituted.symm.trans unchanged)
  have double : (printed s (before ++ [line])).progress.tracker.doubleWidth = true := by
    decide +kernel
  have count : (Tag.visible line).length = 27 := by decide +kernel
  have kept : (s.dictionary.keptTags line).flatten.length = 8 := by decide +kernel
  refine ⟨normal_eq, double_eq, accepted, lines_eq, inline, line, substituted, ?_, count, ?_⟩
  · dsimp only at notices_eq
    rw [double, count] at notices_eq
    exact notices_eq.trans (by decide +kernel)
  · rw [length_eq, count, kept]

/-- A block tag behind the text of a line is printed and not counted: more is printed than fits, and
nothing is said. -/
theorem inline_block_not_counted :
    let s := Setting.small (.ofList [])
    let line : Text := List.replicate 35 'X' ++ Tag.named "LOGO"
    let t := Text.toCodePoints line
    s.profile.maxCharsNormal = .int 42 ∧ s.profile.maxCharsDouble = .int 21 ∧
      (run s (.str t)).ok = true ∧ Text.lines t.toText = [line] ∧
      isBlock s.dictionary line = false ∧ substitute s.sale s.dictionary line = .ok line ∧
      (Tag.visible line).length = 35 ∧ streamSize (s.dictionary.literalChunks line) = 43 ∧
      (run s (.str t)).notices = [] := by
  intro s line t
  exact ⟨rfl, rfl, by decide +kernel, by decide +kernel, by decide +kernel,
    substitute_of_not_occurs (by decide +kernel), by decide +kernel, by decide +kernel,
    by decide +kernel⟩

end ReceiptPress.Synthesis

import ReceiptPress.Proofs.Settings
import ReceiptPress.Proofs.Synthesis.Formatting

namespace ReceiptPress

namespace Synthesis

/-! ## Rows of items -/

variable {p : Profile}

theorem rows_append {written : List Item} {texts : List Text}
    (formatted : written.mapM (Item.row p) = .ok texts) (rest : List Item) :
    rows p (written ++ rest) =
      (texts.map (fun row => .emit (.ofText (Text.toAscii row))) ++ (rows p rest).1,
        (rows p rest).2) := by
  induction written generalizing texts with
  | nil =>
    cases formatted
    rfl
  | cons item written ih =>
    rw [List.mapM_cons] at formatted
    obtain ⟨row, here, more⟩ := bind_eq_ok.1 formatted
    obtain ⟨others, behind, done⟩ := bind_eq_ok.1 more
    cases done
    rw [List.cons_append, rows, here, ih behind]
    rfl

theorem rows_of_error {items written rest : List Item} {item : Item} {texts : List Text} {f : Fault}
    (items_eq : items = written ++ item :: rest)
    (formatted : written.mapM (Item.row p) = .ok texts) (fault : item.row p = .error f) :
    rows p items = (texts.map fun row => .emit (.ofText (Text.toAscii row)), some f) := by
  rw [items_eq, rows_append formatted, rows, fault, List.append_nil]

theorem exists_of_rows_fault {items : List Item} {f : Fault} (fault : (rows p items).2 = some f) :
    ∃ written item rest texts, items = written ++ item :: rest ∧
      written.mapM (Item.row p) = .ok texts ∧ item.row p = .error f := by
  cases formatted : items.mapM (Item.row p) with
  | ok texts =>
    have whole := rows_append formatted []
    rw [List.append_nil] at whole
    rw [whole] at fault
    cases fault
  | error g =>
    obtain ⟨written, item, rest, texts, items_eq, done, refused⟩ := mapM_eq_error.1 formatted
    rw [rows_of_error items_eq done refused] at fault
    cases fault
    exact ⟨written, item, rest, texts, items_eq, done, refused⟩

/-! ## The line that aborts -/

/-- What a line comes to that cannot be finished: the chunks that it still emits, and the fault. -/
inductive Stops (s : Setting) (before : List Text) (line : Text) : List Chunk → Fault → Prop
  | noId {f : Fault} (asks : asksForId s.dictionary line = true)
      (fault : s.ids (before.countP (asksForId s.dictionary)) = .error f) :
      Stops s before line [] f
  | noRow {written rest : List Item} {item : Item} {texts : List Text} {f : Fault}
      (block : isBlock s.dictionary line = true) (tag : Text.trim line = Tag.items)
      (items_eq : s.sale.items = written ++ item :: rest)
      (formatted : written.mapM (Item.row s.profile) = .ok texts)
      (fault : item.row s.profile = .error f) :
      Stops s before line (texts.map fun row => .ofText (Text.toAscii row)) f

variable {s : Setting} {q : Progress} {number : Nat}

theorem exists_lengthNotices (limits : s.profile.WholeLimits) (tracker : Tracker) (count : Nat) :
    ∃ notices, lengthNotices count (tracker.limit s.profile) number = .ok notices := by
  obtain ⟨limit, limit_eq, short⟩ :
      ∃ n, tracker.limit s.profile = .int n ∧ Numeral.IsShort n := by
    rw [Tracker.limit]
    split
    · exact limits.double
    · exact limits.normal
  obtain ⟨shown, written⟩ := Value.text_int_of_isShort short
  rw [limit_eq, lengthNotices, isOver_int, written]
  cases decide (limit < (count : Int)) with
  | false => exact ⟨_, rfl⟩
  | true => exact ⟨_, rfl⟩

structure Setting.HasTexts (s : Setting) : Prop where
  identifier : ∃ t, s.sale.identifier = .str t
  total : ∃ t, s.sale.total = .str t
  fields : ∀ e ∈ s.dictionary.ofCategories [.data],
    e.field = none ∨ e.field = some "identifier".toList ∨ e.field = some "total".toList

theorem Setting.HasTexts.substitute (texts : s.HasTexts) (line : Text) :
    ∃ u, Synthesis.substitute s.sale s.dictionary line = .ok u := by
  apply exists_substitute
  intro e mem
  obtain ⟨identifier, identifier_eq⟩ := texts.identifier
  obtain ⟨total, total_eq⟩ := texts.total
  rcases texts.fields e mem with none | field | field
  · exact ⟨_, dataText_of_no_field none⟩
  · exact ⟨_, dataText_of_str field (congrArg some identifier_eq)⟩
  · exact ⟨_, dataText_of_str field (congrArg some total_eq)⟩

theorem stops_of_fault (texts : s.HasTexts) (limits : s.profile.WholeLimits)
    {before : List Text} (used : q.idsUsed = before.countP (asksForId s.dictionary)) {line : Text}
    {f : Fault} (fault : (printLine s.ready q line number).fault = some f) :
    ∃ done, Stops s before line done f := by
  have outcome := printLine_outcome s.ready q line number
  generalize printLine s.ready q line number = e at outcome fault
  cases outcome with
  | logoFault | logo | barcodeFault | barcode | noItems | noExpansion | text => cases fault
  | idFault block tag failed =>
    cases fault
    exact ⟨[], .noId (asksForId_iff.2 ⟨block, tag⟩) (used ▸ failed)⟩
  | items block tag =>
    obtain ⟨written, item, rest, rows, items_eq, formatted, refused⟩ := exists_of_rows_fault fault
    exact ⟨_, .noRow block tag items_eq formatted refused⟩
  | dataFault inline failed =>
    obtain ⟨u, substituted⟩ := texts.substitute line
    exact absurd (substituted.symm.trans failed) (by simp)
  | limitFault inline substituted failed =>
    obtain ⟨notices, checked⟩ := exists_lengthNotices limits _ _
    exact absurd (checked.symm.trans failed) (by simp)

theorem printLine_of_stops {before : List Text}
    (used : q.idsUsed = before.countP (asksForId s.dictionary)) {line : Text} {done : List Chunk}
    {f : Fault} (stops : Stops s before line done f) :
    (printLine s.ready q line number).events = done.map .emit ∧
      (printLine s.ready q line number).fault = some f := by
  cases stops with
  | noId asks fault =>
    have failed : s.ready.ids q.idsUsed = .error f := used ▸ fault
    have line_eq : printLine s.ready q line number = barcodeLine s.ready q number :=
      printLine_of_asksForId asks q number
    rw [line_eq, barcodeLine, failed]
    exact ⟨rfl, rfl⟩
  | noRow block tag items_eq formatted fault =>
    have line_eq : printLine s.ready q line number = itemsLine s.ready q number :=
      printLine_of_items block q number tag
    have some : s.ready.sale.items.isEmpty = false := by simp [Setting.ready, items_eq]
    have rows_eq := rows_of_error items_eq formatted fault
    rw [line_eq, itemsLine, some, if_neg Bool.false_ne_true, List.map_map]
    exact ⟨congrArg Prod.fst rows_eq, congrArg Prod.snd rows_eq⟩

/-! ## The first line with a fault -/

theorem fault_printLines {lines : List Text} {f : Fault}
    (fault : (printLines s q lines number).fault = some f) :
    ∃ before line after, lines = before ++ line :: after ∧
      (printLines s q before number).fault = none ∧
      (printLine s (printLines s q before number).progress line (number + before.length)).fault =
        some f := by
  induction lines generalizing q number with
  | nil => cases fault
  | cons line rest ih =>
    rw [printLines_cons] at fault
    cases here : (printLine s q line number).fault with
    | some g =>
      rw [Expansion.andThen_of_fault here, here] at fault
      exact ⟨[], line, rest, rfl, rfl, here.trans fault⟩
    | none =>
      rw [Expansion.andThen_of_ok here] at fault
      obtain ⟨before, other, after, rfl, ok, there⟩ := ih fault
      refine ⟨line :: before, other, after, rfl, ?_, ?_⟩
      · rw [printLines_cons, Expansion.andThen_of_ok here, ok]
      · rw [printLines_cons, Expansion.progress_andThen here, List.length_cons,
          Nat.add_comm before.length, ← Nat.add_assoc]
        exact there

theorem idsUsed_printed {lines : List Text} (ok : (printed s lines).fault = none) :
    (printed s lines).progress.idsUsed = lines.countP (asksForId s.dictionary) :=
  (idsUsed_printLines ok).trans (Nat.zero_add _)

theorem printed_of_stops {before : List Text} {line : Text} {done : List Chunk} {f : Fault}
    (ok : (printed s before).fault = none) (stops : Stops s before line done f)
    (after : List Text) :
    (printed s (before ++ line :: after)).fault = some f ∧
      (printed s (before ++ line :: after)).events =
        (printed s before).events ++ done.map .emit := by
  obtain ⟨events_eq, fault⟩ := printLine_of_stops (idsUsed_printed ok) stops
  rw [printed_andThen, Expansion.andThen_of_ok ok, printLines_cons,
    Expansion.andThen_of_fault fault]
  exact ⟨fault, congrArg _ events_eq⟩

def Unstopped (s : Setting) (lines : List Text) : Prop :=
  ∀ before line after, lines = before ++ line :: after → ∀ done f, ¬Stops s before line done f

theorem unstopped_of_ok {lines : List Text} (ok : (printed s lines).fault = none) :
    Unstopped s lines := by
  rintro before line after rfl done f stops
  rw [(printed_of_stops (emitted_of_append ok).1 stops after).1] at ok
  cases ok

theorem exists_stops_of_fault (texts : s.HasTexts) (limits : s.profile.WholeLimits)
    {lines : List Text} (faulty : (printed s lines).fault ≠ none) :
    ∃ before line after done f, lines = before ++ line :: after ∧ Unstopped s before ∧
      Stops s before line done f := by
  obtain ⟨f, fault⟩ := Option.ne_none_iff_exists'.1 faulty
  obtain ⟨before, line, after, rfl, ok, here⟩ := fault_printLines fault
  obtain ⟨done, stops⟩ := stops_of_fault texts limits (idsUsed_printed ok) here
  exact ⟨before, line, after, done, f, rfl, unstopped_of_ok ok, stops⟩

theorem fault_eq_none_iff (texts : s.HasTexts) (limits : s.profile.WholeLimits)
    {lines : List Text} : (printed s lines).fault = none ↔ Unstopped s lines := by
  refine ⟨unstopped_of_ok, fun unstopped => ?_⟩
  cases fault : (printed s lines).fault with
  | none => rfl
  | some f =>
    obtain ⟨before, line, after, done, g, lines_eq, -, stops⟩ :=
      exists_stops_of_fault texts limits (fault ▸ Option.some_ne_none f)
    exact absurd stops (unstopped before line after lines_eq done g)

/-! ## What is left of an aborted pass -/

def problemsUpTo (s : Setting) (t : CodePoints) (before : List Text) : List Problem :=
  unknownTags s t.toText ++ identityProblems s ++ (printed s before).problems

/-- A pass that ends after some lines, in the middle of the next one. -/
structure AbortedAfter (s : Setting) (t : CodePoints) (before : List Text) (done : List Chunk)
    (f : Fault) : Prop where
  finished : (printed s before).fault = none
  chunks_eq : (run s (.str t)).chunks = emitted s before ++ done
  problems_eq : (run s (.str t)).problems = problemsUpTo s t before ++ [.aborted f]
  once : ∀ g, .aborted g ∉ problemsUpTo s t before
  errors_eq : (run s (.str t)).errors =
    (problemsUpTo s t before).map (fun q => q.finding.text) ++ ["PROTOCOL_ABORT: " ++ f.message]
  notices_eq : (run s (.str t)).notices = (printed s before).notices
  no_leak : ∀ n ∈ (run s (.str t)).notices, n.isLeak = false

theorem abortedAfter_of_stops {t : CodePoints} {before after : List Text} {line : Text}
    {done : List Chunk} {f : Fault} (lines_eq : Text.lines t.toText = before ++ line :: after)
    (ok : (printed s before).fault = none) (stops : Stops s before line done f) :
    AbortedAfter s t before done f := by
  obtain ⟨whole_fault, whole_events⟩ := printed_of_stops ok stops after
  rw [← lines_eq] at whole_fault whole_events
  have chunks_eq :
      (printed s (Text.lines t.toText)).chunks = (printed s before).chunks ++ done := by
    rw [Expansion.chunks, whole_events, List.filterMap_append, List.filterMap_map]
    exact congrArg _ List.filterMap_some
  have problems_eq : (printed s (Text.lines t.toText)).problems = (printed s before).problems := by
    rw [Expansion.problems, whole_events, List.filterMap_append, List.filterMap_map]
    simp [Function.comp_def, Event.problem?, Expansion.problems]
  have notices_eq : (printed s (Text.lines t.toText)).notices = (printed s before).notices := by
    rw [Expansion.notices, whole_events, List.filterMap_append, List.filterMap_map]
    simp [Function.comp_def, Event.notice?, Expansion.notices]
  have run_notices : (run s (.str t)).notices = (printed s before).notices := by
    rw [notices_run, whole_fault, notices_eq, if_neg (by simp), List.append_nil]
  have run_problems : (run s (.str t)).problems = problemsUpTo s t before ++ [.aborted f] := by
    rw [problems_run, whole_fault, problems_eq]
    rfl
  refine ⟨ok, ?_, run_problems, aborted_not_mem s t.toText before, ?_, run_notices, ?_⟩
  · rw [chunks_run, whole_fault, if_neg (by simp), List.append_nil, emitted, chunks_eq, emitted,
      List.cons_append]
  · rw [Result.errors_eq, run_problems, List.map_append]
    rfl
  · intro n mem
    rw [run_notices] at mem
    simpa using List.filter_eq_nil_iff.1 (filter_isLeak_printed before) n mem

/-- A pass is aborted exactly if a line asks for an id where there is none or lists an item without
a row. The first such line keeps what the lines above it made, adds the rows of the items in front
of that item, and is followed by nothing. A pass that is not aborted is framed by initialising and
cutting, and so is every stream without errors. -/
theorem completed_iff_unstopped {t : CodePoints} (texts : s.HasTexts)
    (limits : s.profile.WholeLimits) :
    ((run s (.str t)).Completed ↔ Unstopped s (Text.lines t.toText)) ∧
      (¬(run s (.str t)).Completed →
        ∃ before line after done f, Text.lines t.toText = before ++ line :: after ∧
          Unstopped s before ∧ Stops s before line done f) ∧
      (∀ before line after done f, Text.lines t.toText = before ++ line :: after →
        Unstopped s before → Stops s before line done f → AbortedAfter s t before done f) ∧
      ((run s (.str t)).Completed → ∃ body, (run s (.str t)).chunks =
        .ofText Instruction.init.bytes :: (body ++ [.ofText Instruction.cut.bytes])) ∧
      ((run s (.str t)).ok = true → (run s (.str t)).Completed) := by
  rw [completed_iff]
  refine ⟨fault_eq_none_iff texts limits, exists_stops_of_fault texts limits, ?_, ?_, ?_⟩
  · intro before line after done f lines_eq unstopped stops
    exact abortedAfter_of_stops lines_eq ((fault_eq_none_iff texts limits).2 unstopped) stops
  · exact fun ok => ⟨_, chunks_of_completed ((completed_iff s t).2 ok)⟩
  · exact fun accepted => (completed_iff s t).1 (completed_of_ok accepted).2

theorem completed_iff_unstopped_price :
    let s : Setting :=
      { Setting.small (.ofList []) with
        sale :=
          { identifier := .ofText "Corner Shop".toList
            items := [⟨.ofText "Tea".toList, .int 3⟩, ⟨.ofText "Cake".toList, .null⟩]
            total := .ofText "3.00".toList } }
    let t := Text.toCodePoints "Hello {{NONE}}\n{{ITEMS}}\n{{B_ON}}Bye".toList
    let before : List Text := ["Hello {{NONE}}".toList]
    let line : Text := "{{ITEMS}}".toList
    let row : Text := "Tea                        $3.00\n".toList
    s.HasTexts ∧ s.profile.WholeLimits ∧ Unstopped s before ∧
      Stops s before line [.ofText (Text.toAscii row)] (.notAnAmount .null) ∧
      (run s (.str t)).chunks =
        [.ofText Instruction.init.bytes, .ofText (Text.toAscii "Hello {{NONE}}".toList),
          .ofText lineFeed, .ofText (Text.toAscii row)] ∧
      (run s (.str t)).errors =
        ["MALFORMED_TAG: \"{{NONE}}\" is not a recognized ESC/POS instruction.",
          "PROTOCOL_ABORT: unsupported format string passed to NoneType.__format__"] ∧
      (run s (.str t)).notices = [] := by
  intro s t before line row
  have texts : s.HasTexts := ⟨⟨_, rfl⟩, ⟨_, rfl⟩, by decide⟩
  have limits : s.profile.WholeLimits :=
    ⟨⟨42, rfl, by decide +kernel⟩, ⟨21, rfl, by decide +kernel⟩⟩
  have lines_eq : Text.lines t.toText = before ++ line :: ["{{B_ON}}Bye".toList] := by
    decide +kernel
  have unstopped : Unstopped s before := unstopped_of_ok (by decide +kernel)
  have formatted : [s.sale.items.head (by decide)].mapM (Item.row s.profile) = .ok [row] := by
    decide +kernel
  have stops : Stops s before line [.ofText (Text.toAscii row)] (.notAnAmount .null) :=
    .noRow (by decide +kernel) (by decide +kernel) rfl formatted (by decide +kernel)
  obtain ⟨-, -, aborted_after, -, -⟩ := completed_iff_unstopped (t := t) texts limits
  have aborted := aborted_after before line _ _ _ lines_eq unstopped stops
  exact ⟨texts, limits, unstopped, stops, aborted.chunks_eq.trans (by decide +kernel),
    aborted.errors_eq.trans (by decide +kernel), aborted.notices_eq.trans (by decide +kernel)⟩

end Synthesis

end ReceiptPress

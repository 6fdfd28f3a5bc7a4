import ReceiptPress.Proofs.Synthesis.Following
import ReceiptPress.Proofs.Synthesis.Overflow

namespace ReceiptPress.Synthesis

def widthAfter (wide : Bool) (tag : Text) : Bool :=
  if tag = Tag.named "DW_ON" then true
  else if tag = Tag.named "DW_OFF" then false
  else wide

/-- For every literal character of a split line, whether double width is on where it stands. -/
def widths (wide : Bool) : List Tag.Segment → List Bool
  | [] => []
  | .literal t :: rest => List.replicate t.length wide ++ widths wide rest
  | .tag tag :: rest => widths (widthAfter wide tag) rest

theorem length_widths (wide : Bool) (segments : List Tag.Segment) :
    (widths wide segments).length = (segments.filterMap Tag.Segment.literal?).flatten.length := by
  induction segments generalizing wide with
  | nil => rfl
  | cons segment rest ih =>
    cases segment with
    | literal t =>
      have literals : (Tag.Segment.literal t :: rest).filterMap Tag.Segment.literal? =
          t :: rest.filterMap Tag.Segment.literal? := rfl
      rw [widths, literals, List.flatten_cons, List.length_append, List.length_append,
        List.length_replicate, ih]
    | tag tag => exact ih (widthAfter wide tag)

section Standard

variable {d : Tag.Dictionary} (standard : d.entries = Tag.Entry.standard)

theorem doubleWidth_applyEntry (t : Tracker) {e : Tag.Entry} (among : e ∈ Tag.Entry.standard) :
    (t.applyEntry e).doubleWidth = widthAfter t.doubleWidth e.tag := by
  simp only [Tag.Entry.standard, List.mem_cons, List.not_mem_nil, or_false] at among
  rcases among with rfl | rfl | rfl | rfl | rfl | rfl | rfl | rfl | rfl | rfl | rfl | rfl | rfl |
    rfl | rfl
  all_goals rfl

include standard

theorem widthAfter_of_no_entry (wide : Bool) {tag : Text} (unknown : d.get? tag = none) :
    widthAfter wide tag = wide := by
  have silent : d.emits tag = false := by
    rw [Tag.Dictionary.emits, unknown]
    rfl
  have other := not_mem_sizes standard silent
  simp only [List.mem_cons, List.not_mem_nil, or_false, not_or] at other
  obtain ⟨-, -, no_width, no_width_off⟩ := other
  rw [widthAfter, if_neg no_width, if_neg no_width_off]

theorem doubleWidth_applyTag (t : Tracker) (tag : Text) :
    (t.applyTag d tag).doubleWidth = widthAfter t.doubleWidth tag := by
  unfold Tracker.applyTag
  cases found : d.get? tag with
  | none => exact (widthAfter_of_no_entry standard t.doubleWidth found).symm
  | some e =>
    obtain ⟨among, rfl⟩ := Tag.Dictionary.get?_eq_some_iff.1 found
    exact doubleWidth_applyEntry t (standard ▸ among)

theorem doubleWidth_apply (t : Tracker) (tags : List Text) :
    (t.apply d tags).doubleWidth = tags.foldl widthAfter t.doubleWidth := by
  induction tags generalizing t with
  | nil => rfl
  | cons tag tags ih =>
    rw [List.foldl_cons, ← doubleWidth_applyTag standard]
    exact ih (t.applyTag d tag)

end Standard

variable {s : Setting}

theorem tracker_printLine {q : Progress} {line : Text} {number : Nat}
    (ok : (printLine s q line number).fault = none) :
    (printLine s q line number).progress.tracker =
      q.tracker.apply s.dictionary (inlineTags s line) := by
  have outcome := printLine_outcome s q line number
  generalize printLine s q line number = e at ok outcome
  cases outcome with
  | idFault | dataFault | limitFault => cases ok
  | logoFault block | logo block | barcodeFault block | barcode block | noItems block
  | items block | noExpansion block =>
    rw [inlineTags_of_block block]
    rfl
  | text inline substituted => rw [inlineTags_of_inline inline substituted]

theorem tracker_printLines {q : Progress} {lines : List Text} {number : Nat}
    (ok : (printLines s q lines number).fault = none) :
    (printLines s q lines number).progress.tracker =
      q.tracker.apply s.dictionary (lines.flatMap (inlineTags s)) := by
  induction lines generalizing q number with
  | nil => rfl
  | cons line rest ih =>
    rw [printLines_cons] at ok ⊢
    obtain ⟨here_ok, behind_ok⟩ := Expansion.fault_of_andThen ok
    rw [Expansion.progress_andThen here_ok, ih behind_ok, tracker_printLine here_ok,
      List.flatMap_cons, Tracker.apply, Tracker.apply, Tracker.apply, List.foldl_append]

theorem doubleWidth_printed (standard : s.dictionary.entries = Tag.Entry.standard)
    {lines : List Text} (ok : (printed s lines).fault = none) :
    (printed s lines).progress.tracker.doubleWidth =
      (lines.flatMap (inlineTags s)).foldl widthAfter false := by
  have tracker_eq : (printed s lines).progress.tracker =
      ({} : Tracker).apply s.dictionary (lines.flatMap (inlineTags s)) := tracker_printLines ok
  rw [tracker_eq, doubleWidth_apply standard]

/-- A line of text all whose tags switch or align is warned of exactly if it has more literal
characters than are allowed in the width at its end, the state that earlier lines left and all its
own width tags counted. Where every literal character stands in that width, this is the limit for
lines in which one stands in double width. -/
theorem overflow_iff_end_width {t : CodePoints} {normal double : Int}
    (standard : s.dictionary.entries = Tag.Entry.standard)
    (normal_eq : s.profile.maxCharsNormal = .int normal)
    (double_eq : s.profile.maxCharsDouble = .int double)
    (completed : (run s (.str t)).Completed) {before after : List Text} {line u : Text}
    (lines_eq : Text.lines t.toText = before ++ line :: after)
    (inline : isBlock s.dictionary line = false)
    (substituted : substitute s.sale s.dictionary line = .ok u)
    (emits : ∀ w ∈ Tag.words u, s.dictionary.emits w = true) :
    let carried := (before.flatMap (inlineTags s)).foldl widthAfter false
    let wide := (Tag.words u).foldl widthAfter carried
    let shown := widths carried (s.dictionary.segments u)
    let limit := if wide then double else normal
    shown.length = streamSize (s.dictionary.literalChunks u) ∧
      (run s (.str t)).notices.filter (Notice.names (before.length + 1)) =
        (if limit < shown.length then
          [.overflow shown.length (Text.ofInt limit) (before.length + 1)] else []) ∧
      (shown ≠ [] → (∀ b ∈ shown, b = wide) →
        limit = if true ∈ shown then double else normal) := by
  intro carried wide shown limit
  obtain ⟨v, found, -, tracker_eq, notices_eq⟩ :=
    line_of_completed normal_eq double_eq completed lines_eq inline
  obtain rfl : v = u := Except.ok.inj (found.symm.trans substituted)
  have before_ok := (filter_names_notices completed lines_eq).1
  have wide_eq : (printed s (before ++ [line])).progress.tracker.doubleWidth = wide := by
    rw [tracker_eq, doubleWidth_apply standard, doubleWidth_printed standard before_ok]
  have shown_eq : shown.length = streamSize (s.dictionary.literalChunks v) := by
    rw [s.dictionary.streamSize_literalChunks]
    exact length_widths _ _
  have count_eq : (Tag.visible v).length = shown.length := by
    rw [shown_eq, s.dictionary.streamSize_literalChunks]
    exact (s.dictionary.length_visible_eq_iff v).2 emits
  refine ⟨shown_eq, ?_, ?_⟩
  · dsimp only at notices_eq
    rw [wide_eq, count_eq] at notices_eq
    exact notices_eq
  · intro some same
    have among : true ∈ shown ↔ wide = true := by
      obtain ⟨b, mem⟩ := List.exists_mem_of_ne_nil shown some
      exact ⟨fun mem => (same true mem).symm, fun wide_on => wide_on ▸ same b mem ▸ mem⟩
    show (if wide = true then double else normal) = if true ∈ shown then double else normal
    simp only [among]

theorem overflow_iff_end_width_carried :
    let s := Setting.small (.ofList [])
    let t := Text.toCodePoints "Hot{{DW_ON}}\n{{LOGO}}\n{{B_ON}}Tea for two and two for tea".toList
    let before : List Text := ["Hot{{DW_ON}}".toList, "{{LOGO}}".toList]
    let line : Text := "{{B_ON}}Tea for two and two for tea".toList
    let carried := (before.flatMap (inlineTags s)).foldl widthAfter false
    s.dictionary.entries = Tag.Entry.standard ∧ s.profile.maxCharsNormal = .int 42 ∧
      s.profile.maxCharsDouble = .int 21 ∧ (run s (.str t)).Completed ∧
      Text.lines t.toText = before ++ line :: [] ∧ isBlock s.dictionary line = false ∧
      substitute s.sale s.dictionary line = .ok line ∧
      (∀ w ∈ Tag.words line, s.dictionary.emits w = true) ∧ carried = true ∧
      (widths carried (s.dictionary.segments line)).length = 27 ∧
      (run s (.str t)).notices.filter (Notice.names 3) = [.overflow 27 "21".toList 3] := by
  intro s t before line carried
  have normal_eq : s.profile.maxCharsNormal = .int 42 := rfl
  have double_eq : s.profile.maxCharsDouble = .int 21 := rfl
  have completed : (run s (.str t)).Completed := (completed_iff s t).2 (by decide +kernel)
  have lines_eq : Text.lines t.toText = before ++ line :: [] := by decide +kernel
  have inline : isBlock s.dictionary line = false := by decide +kernel
  have unchanged : substitute s.sale s.dictionary line = .ok line :=
    substitute_of_not_occurs (by decide +kernel)
  have emits : ∀ w ∈ Tag.words line, s.dictionary.emits w = true := by decide +kernel
  obtain ⟨-, notices_eq, -⟩ := overflow_iff_end_width rfl normal_eq double_eq completed lines_eq
    inline unchanged emits
  have carried_on : carried = true := by decide +kernel
  have count : (widths carried (s.dictionary.segments line)).length = 27 := by decide +kernel
  exact ⟨rfl, normal_eq, double_eq, completed, lines_eq, inline, unchanged, emits, carried_on,
    count, notices_eq.trans (by decide +kernel)⟩

/-- Thirty characters in double width that is switched off behind them are more than fit, and
nothing is said. -/
theorem wide_text_not_warned :
    let s := Setting.small (.ofList [])
    let line : Text := Tag.named "DW_ON" ++ List.replicate 30 'X' ++ Tag.named "DW_OFF"
    let t := Text.toCodePoints line
    let shown := widths false (s.dictionary.segments line)
    s.dictionary.entries = Tag.Entry.standard ∧ s.profile.maxCharsNormal = .int 42 ∧
      s.profile.maxCharsDouble = .int 21 ∧ (run s (.str t)).Completed ∧
      Text.lines t.toText = [line] ∧ isBlock s.dictionary line = false ∧
      substitute s.sale s.dictionary line = .ok line ∧
      (∀ w ∈ Tag.words line, s.dictionary.emits w = true) ∧
      true ∈ shown ∧ shown.length = 30 ∧ (run s (.str t)).notices = [] := by
  intro s line t shown
  exact ⟨rfl, rfl, rfl, (completed_iff s t).2 (by decide +kernel), by decide +kernel,
    by decide +kernel, substitute_of_not_occurs (by decide +kernel), by decide +kernel,
    by decide +kernel, by decide +kernel, by decide +kernel⟩

end ReceiptPress.Synthesis

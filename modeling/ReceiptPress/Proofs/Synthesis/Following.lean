import ReceiptPress.Proofs.Printer
import ReceiptPress.Proofs.Synthesis.Emission

/-!
# The tracker and the printer

The tracker keeps double height and double width apart, and the printer has one instruction for
both. `Follows` says what the two have in common all the same: bold and alignment, and of the two
sizes the one that was switched last; the other one is off in the printer. It is kept by every tag
(`Follows.entry`) and by every line (`Follows.printLine`).
-/

namespace ReceiptPress.Synthesis

def lastSize (last : Option TypeAttribute) (tag : Text) : Option TypeAttribute :=
  if tag = Tag.named "DH_ON" ∨ tag = Tag.named "DH_OFF" then some .doubleHeight
  else if tag = Tag.named "DW_ON" ∨ tag = Tag.named "DW_OFF" then some .doubleWidth
  else last

/-- A printer that shows what the tracker has, but for the size that was not switched last. -/
structure Follows (last : Option TypeAttribute) (t : Tracker) (p : Printer) : Prop where
  idle : p.reading = .text 0
  bold : p.bold = t.bold
  alignment : p.alignment = t.alignment
  doubleHeight : p.doubleHeight = (t.doubleHeight && last = some .doubleHeight)
  doubleWidth : p.doubleWidth = (t.doubleWidth && last = some .doubleWidth)
  untouched : last = none → t.doubleHeight = false ∧ t.doubleWidth = false

namespace Follows

variable {last : Option TypeAttribute} {t : Tracker} {p : Printer}

theorem switch_bold (follows : Follows last t p) (on : Bool) :
    Follows last { t with bold := on } { p with bold := on } where
  idle := follows.idle
  bold := rfl
  alignment := follows.alignment
  doubleHeight := follows.doubleHeight
  doubleWidth := follows.doubleWidth
  untouched := follows.untouched

theorem align (follows : Follows last t p) (a : Alignment) :
    Follows last { t with alignment := a } { p with alignment := a } where
  idle := follows.idle
  bold := follows.bold
  alignment := rfl
  doubleHeight := follows.doubleHeight
  doubleWidth := follows.doubleWidth
  untouched := follows.untouched

theorem switch_height (follows : Follows last t p) (on : Bool) :
    Follows (some .doubleHeight) { t with doubleHeight := on }
      { p with doubleHeight := on, doubleWidth := false } where
  idle := follows.idle
  bold := follows.bold
  alignment := follows.alignment
  doubleHeight := by simp
  doubleWidth := by simp
  untouched := by simp

theorem switch_width (follows : Follows last t p) (on : Bool) :
    Follows (some .doubleWidth) { t with doubleWidth := on }
      { p with doubleHeight := false, doubleWidth := on } where
  idle := follows.idle
  bold := follows.bold
  alignment := follows.alignment
  doubleHeight := by simp
  doubleWidth := by simp
  untouched := by simp

theorem agree_iff (follows : Follows last t p) :
    p.doubleHeight = t.doubleHeight ∧ p.doubleWidth = t.doubleWidth ↔
      (t.doubleHeight = true → last = some .doubleHeight) ∧
        (t.doubleWidth = true → last = some .doubleWidth) := by
  rw [follows.doubleHeight, follows.doubleWidth]
  simp only [Bool.and_eq_left_iff_imp, decide_eq_true_eq]

theorem entry (follows : Follows last t p) {e : Tag.Entry} (among : e ∈ Tag.Entry.standard)
    (emits : e.emitsBytes = true) :
    Follows (lastSize last e.tag) (t.applyEntry e) (p.execute e.bytes) := by
  obtain ⟨bold, height, width, alignment, reading⟩ := p
  have idle := follows.idle
  subst idle
  simp only [Tag.Entry.standard, List.mem_cons, List.not_mem_nil, or_false] at among
  rcases among with rfl | rfl | rfl | rfl | rfl | rfl | rfl | rfl | rfl | rfl | rfl | rfl | rfl |
    rfl | rfl
  · exact follows.switch_bold true
  · exact follows.switch_bold false
  · exact follows.switch_height true
  · exact follows.switch_height false
  · exact follows.switch_width true
  · exact follows.switch_width false
  · exact follows.align .center
  · exact follows.align .left
  · exact follows.align .right
  · exact follows.align .justify
  all_goals cases emits

end Follows

theorem not_mem_sizes {d : Tag.Dictionary} (standard : d.entries = Tag.Entry.standard) {tag : Text}
    (silent : d.emits tag = false) :
    tag ∉ [Tag.named "DH_ON", Tag.named "DH_OFF", Tag.named "DW_ON", Tag.named "DW_OFF"] := by
  have sizes : ∀ tag ∈ [Tag.named "DH_ON", Tag.named "DH_OFF", Tag.named "DW_ON",
      Tag.named "DW_OFF"], ∃ e ∈ Tag.Entry.standard, e.emitsBytes = true ∧ e.tag = tag := by
    decide
  intro mem
  have emits : d.emits tag = true := Tag.Dictionary.emits_iff.2 (standard ▸ sizes tag mem)
  rw [silent] at emits
  cases emits

theorem lastSize_of_not_emits {d : Tag.Dictionary} (standard : d.entries = Tag.Entry.standard)
    (last : Option TypeAttribute) {tag : Text} (silent : d.emits tag = false) :
    lastSize last tag = last := by
  have other := not_mem_sizes standard silent
  simp only [List.mem_cons, List.not_mem_nil, or_false, not_or] at other
  obtain ⟨no_height, no_height_off, no_width, no_width_off⟩ := other
  simp only [lastSize, no_height, no_height_off, no_width, no_width_off, or_self, if_false]

theorem foldl_lastSize_filter {d : Tag.Dictionary} (standard : d.entries = Tag.Entry.standard)
    (last : Option TypeAttribute) (tags : List Text) :
    (tags.filter d.emits).foldl lastSize last = tags.foldl lastSize last :=
  foldl_filter_of_idle (lastSize_of_not_emits standard) last tags

namespace Follows

variable {last : Option TypeAttribute} {t : Tracker} {p : Printer} {d : Tag.Dictionary}

theorem tag (standard : d.entries = Tag.Entry.standard) (follows : Follows last t p) {tag : Text}
    (emits : d.emits tag = true) :
    Follows (lastSize last tag) (t.applyTag d tag) (p.execute (d.segmentBytes (.tag tag))) := by
  obtain ⟨e, among, yes, rfl⟩ := Tag.Dictionary.emits_iff.1 emits
  have found : d.get? e.tag = some e := Tag.Dictionary.get?_eq_some_iff.2 ⟨among, rfl⟩
  rw [Tracker.applyTag, Tag.Dictionary.segmentBytes, found]
  exact follows.entry (standard ▸ among) yes

theorem unchanged (follows : Follows last t p) {bytes : Bytes} (same : p.execute bytes = p) :
    Follows last t (p.execute bytes) := by
  rw [same]
  exact follows

theorem plain (follows : Follows last t p) {bytes : Bytes} (plain : bytes.Plain) :
    Follows last t (p.execute bytes) :=
  follows.unchanged (Printer.execute_plain follows.idle plain)

theorem pieces (standard : d.entries = Tag.Entry.standard) (follows : Follows last t p)
    {ps : List Text.Piece} (emits : ∀ w ∈ ps.filterMap Text.Piece.word?, d.emits w = true)
    (chars_plain : ∀ c, .char c ∈ ps → Text.Plain [c]) :
    Follows ((ps.filterMap Text.Piece.word?).foldl lastSize last)
      (t.apply d (ps.filterMap Text.Piece.word?))
      (p.execute (ps.flatMap fun piece => d.segmentBytes (Tag.Segment.ofPiece piece))) := by
  induction ps generalizing last t p with
  | nil => exact follows
  | cons piece ps ih =>
    have rest_plain := fun c mem => chars_plain c (List.mem_cons_of_mem piece mem)
    rw [List.flatMap_cons, Printer.execute_append]
    cases piece with
    | char c =>
      have here : Bytes.Plain (Text.toAscii [c]) :=
        Text.plain_toAscii (chars_plain c List.mem_cons_self)
      exact ih (follows.plain here) emits rest_plain
    | found w =>
      have here := follows.tag standard (emits w List.mem_cons_self)
      exact ih here (fun x mem => emits x (List.mem_cons_of_mem w mem)) rest_plain

theorem splitLine (standard : d.entries = Tag.Entry.standard) (follows : Follows last t p)
    {line : Text} (line_plain : line.Plain) :
    Follows ((Tag.words line).foldl lastSize last) (t.apply d (Tag.words line))
      (p.execute (payload (d.splitLine line))) := by
  have found : (Text.pieces d.emitterSize line).filterMap Text.Piece.word? =
      (Tag.words line).filter d.emits := by
    rw [← d.map_snd_emitterFinds, Tag.Dictionary.emitterFinds, Text.map_snd_finds]
    rfl
  rw [← foldl_lastSize_filter standard, ← Tracker.apply_filter_emits, ← found,
    d.payload_splitLine]
  apply follows.pieces standard
  · intro w mem
    rw [found] at mem
    exact (List.mem_filter.1 mem).2
  · intro c mem
    exact line_plain.of_subset fun x among =>
      List.mem_singleton.1 among ▸ Text.mem_of_char_mem_pieces mem

end Follows

def inlineTags (s : Setting) (line : Text) : List Text :=
  if isBlock s.dictionary line then []
  else
    match substitute s.sale s.dictionary line with
    | .ok t => Tag.words t
    | .error _ => []

theorem inlineTags_of_block {s : Setting} {line : Text}
    (block : isBlock s.dictionary line = true) : inlineTags s line = [] :=
  if_pos block

theorem inlineTags_of_inline {s : Setting} {line t : Text}
    (inline : isBlock s.dictionary line = false)
    (substituted : substitute s.sale s.dictionary line = .ok t) :
    inlineTags s line = Tag.words t := by
  rw [inlineTags, inline, substituted]
  rfl

namespace Follows

variable {s : Setting} {last : Option TypeAttribute} {q : Progress} {p : Printer}

theorem printLine (standard : s.dictionary.entries = Tag.Entry.standard)
    (sale_plain : s.sale.Plain) (follows : Follows last q.tracker p) {line : Text}
    (line_plain : line.Plain) {number : Nat}
    (ok : (Synthesis.printLine s q line number).fault = none) :
    Follows ((inlineTags s line).foldl lastSize last)
      (Synthesis.printLine s q line number).progress.tracker
      (p.execute (payload (Synthesis.printLine s q line number).chunks)) := by
  have outcome := printLine_outcome s q line number
  generalize Synthesis.printLine s q line number = e at ok outcome
  cases outcome with
  | idFault | dataFault | limitFault => cases ok
  | logoFault block | barcodeFault block | noItems block | noExpansion block =>
    rw [inlineTags_of_block block]
    exact follows
  | logo block tag drawn =>
    rename_i canvas
    have image : p.execute (payload [⟨.image, canvas.image⟩]) = p := by
      rw [payload, List.flatMap_singleton]
      exact Printer.execute_image follows.idle (Raster.canvas_lt drawn).1
        (Raster.canvas_lt drawn).2 canvas.length_body
    rw [inlineTags_of_block block]
    exact follows.unchanged image
  | barcode block tag asked made =>
    rename_i bytes
    have barcode : p.execute (payload [⟨.barcode, bytes⟩]) = p := by
      obtain ⟨body, length_lt, rfl⟩ := Barcode.ofValue_ok made
      rw [payload, List.flatMap_singleton]
      exact Printer.execute_barcode follows.idle length_lt
    rw [inlineTags_of_block block]
    exact follows.unchanged barcode
  | items block =>
    rw [inlineTags_of_block block]
    apply follows.plain
    apply plain_payload
    intro c mem
    obtain ⟨item, among, row, written, eq⟩ := mem_rows (Expansion.mem_chunks.1 mem)
    cases eq
    exact Text.plain_toAscii (Item.plain_row (sale_plain.names item among) written)
  | text inline substituted checked =>
    rename_i t notices
    rw [inlineTags_of_inline inline substituted, Expansion.chunks, filterMap_chunk?_text checked,
      payload_append, Printer.execute_append]
    have t_plain := plain_substitute standard sale_plain line_plain substituted
    exact (follows.splitLine standard t_plain).plain (by decide)

theorem printLines (standard : s.dictionary.entries = Tag.Entry.standard)
    (sale_plain : s.sale.Plain) (follows : Follows last q.tracker p) {lines : List Text}
    (lines_plain : ∀ l ∈ lines, l.Plain) {number : Nat}
    (ok : (Synthesis.printLines s q lines number).fault = none) :
    Follows ((lines.flatMap (inlineTags s)).foldl lastSize last)
      (Synthesis.printLines s q lines number).progress.tracker
      (p.execute (payload (Synthesis.printLines s q lines number).chunks)) := by
  induction lines generalizing last q p number with
  | nil => exact follows
  | cons line rest ih =>
    rw [printLines_cons] at ok ⊢
    obtain ⟨here_ok, behind_ok⟩ := Expansion.fault_of_andThen ok
    have line_plain := lines_plain line List.mem_cons_self
    have here := follows.printLine standard sale_plain line_plain here_ok
    have behind := ih here (fun l mem => lines_plain l (List.mem_cons_of_mem line mem)) behind_ok
    rw [Expansion.andThen_of_ok here_ok, List.flatMap_cons, List.foldl_append, Expansion.chunks,
      List.filterMap_append, payload_append, Printer.execute_append]
    exact behind

end Follows

/-- After any number of lines of a pass that is not aborted, tracker and printer agree on bold and
alignment. The printer has the size that was switched last as the tracker has it, and the other one
off. So they agree on both sizes exactly if none is tracked as on that was not switched last. -/
theorem tracker_eq_printer {s : Setting} (standard : s.dictionary.entries = Tag.Entry.standard)
    (sale_plain : s.sale.Plain) {t : CodePoints} (plain : t.toText.Plain)
    (completed : (run s (.str t)).Completed) {before after : List Text}
    (lines_eq : Text.lines t.toText = before ++ after) :
    let tracker := (printed s before).progress.tracker
    let printer := Printer.execute {} (payload (emitted s before))
    let last := (before.flatMap (inlineTags s)).foldl lastSize none
    emitted s before <+: (run s (.str t)).chunks ∧
      printer.bold = tracker.bold ∧ printer.alignment = tracker.alignment ∧
      printer.doubleHeight = (tracker.doubleHeight && last = some .doubleHeight) ∧
      printer.doubleWidth = (tracker.doubleWidth && last = some .doubleWidth) ∧
      (last = none → tracker.doubleHeight = false ∧ tracker.doubleWidth = false) ∧
      (printer.doubleHeight = tracker.doubleHeight ∧ printer.doubleWidth = tracker.doubleWidth ↔
        (tracker.doubleHeight = true → last = some .doubleHeight) ∧
          (tracker.doubleWidth = true → last = some .doubleWidth)) := by
  intro tracker printer last
  have ok := (completed_iff s t).1 completed
  have whole : emitted s (Text.lines t.toText) <+: (run s (.str t)).chunks := by
    rw [chunks_run]
    exact List.prefix_append _ _
  rw [lines_eq] at ok whole
  obtain ⟨ok_before, part⟩ := emitted_of_append ok
  have lines_plain : ∀ l ∈ before, l.Plain := fun l mem =>
    plain.lines (lines_eq ▸ List.mem_append_left after mem)
  have initial : Follows none {} (Printer.execute {} Instruction.init.bytes) :=
    ⟨rfl, rfl, rfl, rfl, rfl, fun _ => ⟨rfl, rfl⟩⟩
  have follows : Follows last tracker printer := by
    have behind := initial.printLines (s := s.ready) (q := {}) standard sale_plain lines_plain
      ok_before
    rw [← Printer.execute_append] at behind
    exact behind
  exact ⟨part.trans whole, follows.bold, follows.alignment, follows.doubleHeight,
    follows.doubleWidth, follows.untouched, follows.agree_iff⟩

theorem tracker_eq_printer_bold_height :
    let s := Setting.small (.ofList [])
    let t := Text.toCodePoints "{{DH_ON}}{{B_ON}}\n{{DW_ON}}".toList
    let before : List Text := ["{{DH_ON}}{{B_ON}}".toList]
    let after : List Text := ["{{DW_ON}}".toList]
    let tracker := (printed s before).progress.tracker
    let printer := Printer.execute {} (payload (emitted s before))
    s.dictionary.entries = Tag.Entry.standard ∧ s.sale.Plain ∧ t.toText.Plain ∧
      (run s (.str t)).Completed ∧ Text.lines t.toText = before ++ after ∧
      printer.bold = tracker.bold ∧ tracker.bold = true ∧
      printer.doubleHeight = tracker.doubleHeight ∧ tracker.doubleHeight = true := by
  intro s t before after tracker printer
  have completed : (run s (.str t)).Completed := (completed_iff s t).2 (by decide +kernel)
  have plain : t.toText.Plain := by decide +kernel
  have lines_eq : Text.lines t.toText = before ++ after := by decide +kernel
  obtain ⟨-, bold, -, -, -, -, sizes⟩ :=
    tracker_eq_printer rfl (Setting.plain_small _) plain completed lines_eq
  have agree := sizes.2 (by decide +kernel)
  exact ⟨rfl, Setting.plain_small _, plain, completed, lines_eq, bold, by decide +kernel, agree.1,
    by decide +kernel⟩

/-- Switching both sizes on leaves the printer with the second one only, while the tracker has
both. -/
theorem sizes_disagree :
    let s := Setting.small (.ofList [])
    let t := Text.toCodePoints "{{DW_ON}}{{DH_ON}}".toList
    let tracker := (printed s (Text.lines t.toText)).progress.tracker
    let printer := Printer.execute {} (payload (emitted s (Text.lines t.toText)))
    s.dictionary.entries = Tag.Entry.standard ∧ s.sale.Plain ∧ t.toText.Plain ∧
      (run s (.str t)).Completed ∧ tracker.doubleWidth = true ∧ printer.doubleWidth = false := by
  intro s t tracker printer
  exact ⟨rfl, Setting.plain_small _, by decide, (completed_iff s t).2 (by decide +kernel),
    by decide +kernel, by decide +kernel⟩

end ReceiptPress.Synthesis

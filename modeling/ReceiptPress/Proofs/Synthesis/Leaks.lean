import ReceiptPress.Proofs.Synthesis.Formatting
import ReceiptPress.Proofs.Tracker

namespace ReceiptPress.Synthesis

def leakOpening : Text := "STATE_LEAK".toList

/-- The attributes that a template leaves on: the last tag on its lines of text that switches such
an attribute switches it on. -/
def leftOn (s : Setting) (lines : List Text) : List TypeAttribute :=
  TypeAttribute.all.filter fun a =>
    (Tracker.lastSwitch s.dictionary a (lines.flatMap (inlineTags s))).any Tag.Entry.enabled

variable {s : Setting}

theorem leaks_printed {lines : List Text} (ok : (printed s lines).fault = none) :
    (printed s lines).progress.tracker.leaks s.dictionary =
      (leftOn s lines).map (Tracker.switchName s.dictionary) := by
  have tracker_eq : (printed s lines).progress.tracker =
      ({} : Tracker).apply s.dictionary (lines.flatMap (inlineTags s)) := tracker_printLines ok
  have on_eq : (printed s lines).progress.tracker.isOn = fun a =>
      (Tracker.lastSwitch s.dictionary a (lines.flatMap (inlineTags s))).any Tag.Entry.enabled := by
    funext a
    rw [tracker_eq, Tracker.isOn_apply_initial]
  rw [Tracker.leaks, on_eq, leftOn]

theorem not_leakOpening_of_mem_printed {lines : List Text} {n : Notice}
    (mem : n ∈ (printed s lines).notices) : ¬leakOpening <+: n.finding.text.toList := by
  obtain ⟨i, -, line_eq⟩ := line_of_notice_mem_printLines (Expansion.mem_notices.1 mem)
  exact Finding.not_opening line_eq rfl (by decide)

variable {t : CodePoints}

/-- The warnings of a complete pass end with one for each attribute that is left on, in the order of
the attributes, and no other warning begins as they do. Each names the first entry of the dictionary
that switches the attribute on, and there always is one. -/
theorem leaks_eq_last_switches (completed : (run s (.str t)).Completed) :
    let lines := Text.lines t.toText
    (∃ front, (run s (.str t)).warnings =
        front ++ (leftOn s lines).map (fun a => leakMessage (Tracker.switchName s.dictionary a)) ∧
      ∀ w ∈ front, ¬leakOpening <+: w.toList) ∧
    (run s (.str t)).notices.filter Notice.isLeak =
      (leftOn s lines).map (fun a => .leak (Tracker.switchName s.dictionary a)) ∧
    (∀ a ∈ leftOn s lines, ∃ before e after,
      s.dictionary.ofCategories [.toggle] = before ++ e :: after ∧
        (a.isNamedBy e && e.enabled) = true ∧
        (∀ x ∈ before, (a.isNamedBy x && x.enabled) = false) ∧
        Tracker.switchName s.dictionary a = e.tag) ∧
    ∀ line ∈ lines,
      if isBlock s.dictionary line then inlineTags s line = []
      else ∃ u, substitute s.sale s.dictionary line = .ok u ∧ inlineTags s line = Tag.words u := by
  intro lines
  have leaks_eq := leaks_printed ((completed_iff s t).1 completed)
  refine ⟨⟨(printed s lines).notices.map fun n => n.finding.text, ?_, ?_⟩, ?_, ?_, ?_⟩
  · rw [Result.warnings_eq, notices_of_completed completed, leaks_eq, List.map_append, List.map_map,
      List.map_map]
    rfl
  · intro w mem
    obtain ⟨n, among, rfl⟩ := List.mem_map.1 mem
    exact not_leakOpening_of_mem_printed among
  · rw [filter_isLeak_notices completed, leaks_eq, List.map_map]
    rfl
  · exact fun a left => Tracker.switchName_eq_of_lastSwitch (List.mem_filter.1 left).2
  · intro line mem
    cases block : isBlock s.dictionary line with
    | true => exact inlineTags_of_block block
    | false =>
      obtain ⟨before, after, lines_eq⟩ := List.append_of_mem mem
      obtain ⟨u, -, substituted, -⟩ := inline_of_completed completed lines_eq block
      exact ⟨u, substituted, inlineTags_of_inline block substituted⟩

theorem leaks_eq_last_switches_sizes :
    let s := Setting.small (.ofList [])
    let t := Text.toCodePoints
      "{{B_ON}}{{DW_ON}}\n {{LOGO}}\nTea for two and two for{{B_OFF}}\n{{DH_OFF}}{{DH_ON}}".toList
    (run s (.str t)).Completed ∧
      leftOn s (Text.lines t.toText) = [.doubleHeight, .doubleWidth] ∧
      ∃ front, (run s (.str t)).warnings = front ++
          ["STATE_LEAK: {{DH_ON}} instruction active at EOF. Implicit reset applied.",
            "STATE_LEAK: {{DW_ON}} instruction active at EOF. Implicit reset applied."] ∧
        ∀ w ∈ front, ¬leakOpening <+: w.toList := by
  intro s t
  have completed : (run s (.str t)).Completed := (completed_iff s t).2 (by decide +kernel)
  have left : leftOn s (Text.lines t.toText) = [.doubleHeight, .doubleWidth] := by decide +kernel
  obtain ⟨⟨front, warnings_eq, other⟩, -⟩ := leaks_eq_last_switches completed
  rw [left] at warnings_eq
  exact ⟨completed, left, front, warnings_eq, other⟩

end ReceiptPress.Synthesis

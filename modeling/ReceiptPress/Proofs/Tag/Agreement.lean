import ReceiptPress.Proofs.Tag.Segments
import ReceiptPress.Tracker

namespace ReceiptPress

theorem foldl_filter_of_idle {α β : Type} {f : β → α → β} {keep : α → Bool}
    (idle : ∀ b {a}, keep a = false → f b a = b) (b : β) (l : List α) :
    (l.filter keep).foldl f b = l.foldl f b := by
  induction l generalizing b with
  | nil => rfl
  | cons a l ih =>
    cases kept : keep a with
    | true =>
      rw [List.filter_cons_of_pos kept]
      exact ih (f b a)
    | false =>
      rw [List.filter_cons_of_neg (by simp [kept]), List.foldl_cons, idle b kept]
      exact ih b

namespace Tag.Dictionary

theorem emitterFinds_eq (d : Dictionary) (line : Text) :
    d.emitterFinds line = (finds line).filter (d.emits ·.2) :=
  (keeps_emits d).finds_eq separate line

theorem map_snd_emitterFinds (d : Dictionary) (line : Text) :
    (d.emitterFinds line).map Prod.snd = (words line).filter d.emits := by
  rw [emitterFinds_eq, words, ← Text.map_snd_finds, List.filter_map]
  rfl

theorem emits_of_tag_mem {d : Dictionary} {line tag : Text} (mem : .tag tag ∈ d.segments line) :
    d.emits tag = true := by
  have among : tag ∈ (d.segments line).filterMap Segment.tag? :=
    List.mem_filterMap.2 ⟨_, mem, rfl⟩
  rw [filterMap_tag?_segments, map_snd_emitterFinds] at among
  exact (List.mem_filter.1 among).2

end Tag.Dictionary

namespace Tracker

open Tag

variable {d : Dictionary}

theorem applyTag_of_not_emits (t : Tracker) {tag : Text} (silent : d.emits tag = false) :
    applyTag d t tag = t := by
  rw [applyTag]
  cases found : d.get? tag with
  | none => rfl
  | some e =>
    simp only [Dictionary.emits, found, Option.any_some, Entry.emitsBytes, Bool.or_eq_false_iff,
      decide_eq_false_iff_not] at silent
    cases category : e.category with
    | toggle => exact absurd category silent.1
    | align => exact absurd category silent.2
    | block => simp only [applyEntry, category]
    | data => simp only [applyEntry, category]

theorem apply_filter_emits (t : Tracker) (tags : List Text) :
    t.apply d (tags.filter d.emits) = t.apply d tags :=
  foldl_filter_of_idle applyTag_of_not_emits t tags

end Tracker

namespace Tag

/-- The tags of a line whose entries expand to bytes are, in order and in place, those that the scan
for such tags finds. They are the tags that are split out of the line, and the tracker ends up where
these alone take it. -/
theorem scanners_agree (d : Dictionary) (line : Text) :
    (finds line).filter (fun f => d.emits f.2) = d.emitterFinds line ∧
      (d.segments line).filterMap Segment.tag? = (d.emitterFinds line).map Prod.snd ∧
      ∀ t : Tracker,
        t.apply d (words line) = t.apply d ((d.segments line).filterMap Segment.tag?) := by
  refine ⟨(d.emitterFinds_eq line).symm, d.filterMap_tag?_segments line, fun t => ?_⟩
  rw [d.filterMap_tag?_segments, d.map_snd_emitterFinds, Tracker.apply_filter_emits]

end Tag

end ReceiptPress

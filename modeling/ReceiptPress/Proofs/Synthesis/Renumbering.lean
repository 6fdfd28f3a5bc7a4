import ReceiptPress.Proofs.Synthesis.Lines

namespace ReceiptPress.Synthesis

variable (lines : Nat)

def Problem.raise : Problem → Problem
  | noExpansion tag line => noExpansion tag (line + lines)
  | logoFault cause line => logoFault cause (line + lines)
  | barcodeFault cause line => barcodeFault cause (line + lines)
  | p => p

def Notice.raise : Notice → Notice
  | overflow count limit line => overflow count limit (line + lines)
  | noItems line => noItems (line + lines)
  | n => n

def Event.raise : Event → Event
  | problem p => problem (p.raise lines)
  | notice n => notice (n.raise lines)
  | e => e

theorem Problem.finding_raise (p : Problem) :
    (p.raise lines).finding =
      { p.finding with line := p.finding.line.map (· + (lines : Int)) } := by
  cases p <;> rfl

theorem Notice.finding_raise (n : Notice) :
    (n.raise lines).finding =
      { n.finding with line := n.finding.line.map (· + (lines : Int)) } := by
  cases n <;> rfl

theorem filterMap_chunk?_raise (events : List Event) :
    (events.map (Event.raise lines)).filterMap Event.chunk? = events.filterMap Event.chunk? := by
  rw [List.filterMap_map]
  congr 1
  funext e
  cases e <;> rfl

theorem filterMap_problem?_raise (events : List Event) :
    (events.map (Event.raise lines)).filterMap Event.problem? =
      (events.filterMap Event.problem?).map (Problem.raise lines) := by
  rw [List.filterMap_map, List.map_filterMap]
  congr 1
  funext e
  cases e <;> rfl

theorem filterMap_notice?_raise (events : List Event) :
    (events.map (Event.raise lines)).filterMap Event.notice? =
      (events.filterMap Event.notice?).map (Notice.raise lines) := by
  rw [List.filterMap_map, List.map_filterMap]
  congr 1
  funext e
  cases e <;> rfl

def Setting.later (s : Setting) (ids : Nat) : Setting :=
  { s with ids := fun call => s.ids (ids + call) }

def Progress.later (p : Progress) (ids : Nat) : Progress :=
  { p with idsUsed := ids + p.idsUsed }

def Expansion.raise (e : Expansion) (ids : Nat) : Expansion :=
  { e with events := e.events.map (Event.raise lines), progress := e.progress.later ids }

variable (s : Setting) (p : Progress) (ids : Nat)

theorem lengthNotices_raise (count : Nat) (limit : Value) (number : Nat) :
    lengthNotices count limit (number + lines) =
      List.map (Event.raise lines) <$> lengthNotices count limit number := by
  unfold lengthNotices
  cases isOver count limit with
  | error f => rfl
  | ok exceeded =>
    cases exceeded with
    | false => rfl
    | true => cases limit.text <;> rfl

theorem map_raise_emits {events : List Event} (emits : ∀ e ∈ events, ∃ c, e = .emit c) :
    events.map (Event.raise lines) = events := by
  rw [List.map_congr_left (g := id)]
  · exact List.map_id events
  · intro e mem
    obtain ⟨c, rfl⟩ := emits e mem
    rfl

theorem blockLine_raise (tag : Text) (number : Nat) :
    blockLine s (p.later ids) tag (number + lines) =
      (blockLine (s.later ids) p tag number).raise lines ids := by
  unfold blockLine
  split
  · unfold logoLine
    have same : (s.later ids).profile = s.profile := rfl
    rw [same]
    cases Raster.canvas s.profile <;> rfl
  split
  · unfold barcodeLine
    have asked : (s.later ids).ids p.idsUsed = s.ids (p.later ids).idsUsed := rfl
    rw [asked]
    cases s.ids (p.later ids).idsUsed with
    | error f => rfl
    | ok id =>
      dsimp only
      cases Barcode.ofValue id <;> rfl
  split
  · unfold itemsLine
    have same : (s.later ids).sale = s.sale ∧ (s.later ids).profile = s.profile := ⟨rfl, rfl⟩
    rw [same.1, same.2]
    split
    · rfl
    · have emits : ∀ e ∈ (rows s.profile s.sale.items).1, ∃ c, e = .emit c := fun e mem => by
        obtain ⟨_, -, _, -, eq⟩ := mem_rows mem
        exact ⟨_, eq⟩
      have raised := map_raise_emits lines emits
      generalize rows s.profile s.sale.items = made at raised
      rw [Expansion.raise, raised]
  · rfl

theorem inlineText_raise (t : Text) (number : Nat) :
    inlineText s (p.later ids) t (number + lines) =
      (inlineText (s.later ids) p t number).raise lines ids := by
  unfold inlineText
  have dictionary : (s.later ids).dictionary = s.dictionary := rfl
  have profile : (s.later ids).profile = s.profile := rfl
  have tracker : (p.later ids).tracker = p.tracker := rfl
  rw [dictionary, profile, tracker]
  dsimp only
  rw [lengthNotices_raise]
  cases lengthNotices (Tag.visible t).length
    ((p.tracker.apply s.dictionary (Tag.words t)).limit s.profile) number with
  | error f => rfl
  | ok notices =>
    have raised : ((s.dictionary.splitLine t).map Event.emit).map (Event.raise lines) =
        (s.dictionary.splitLine t).map Event.emit := by
      apply map_raise_emits
      intro e mem
      obtain ⟨c, -, rfl⟩ := List.mem_map.1 mem
      exact ⟨c, rfl⟩
    rw [Expansion.raise, List.map_append, List.map_append, raised]
    rfl

theorem printLine_raise (line : Text) (number : Nat) :
    printLine s (p.later ids) line (number + lines) =
      (printLine (s.later ids) p line number).raise lines ids := by
  unfold printLine
  have dictionary : (s.later ids).dictionary = s.dictionary := rfl
  rw [dictionary]
  split
  · exact blockLine_raise lines s p ids _ number
  · unfold inlineLine
    have sale : (s.later ids).sale = s.sale := rfl
    rw [sale, dictionary]
    cases substitute s.sale s.dictionary line with
    | error f => rfl
    | ok t => exact inlineText_raise lines s p ids t number

theorem andThen_raise {e : Expansion} {f g : Progress → Expansion}
    (next : ∀ q : Progress, g (q.later ids) = (f q).raise lines ids) :
    (e.raise lines ids).andThen g = (e.andThen f).raise lines ids := by
  have fault_eq : (e.raise lines ids).fault = e.fault := rfl
  cases fault : e.fault with
  | some _ =>
    rw [Expansion.andThen_of_fault (fault_eq.trans fault), Expansion.andThen_of_fault fault]
  | none =>
    have next_eq : g (e.raise lines ids).progress = (f e.progress).raise lines ids := next _
    rw [Expansion.andThen_of_ok (fault_eq.trans fault), Expansion.andThen_of_ok fault, next_eq]
    simp only [Expansion.raise, List.map_append]

theorem printLines_raise (ls : List Text) (number : Nat) :
    printLines s (p.later ids) ls (number + lines) =
      (printLines (s.later ids) p ls number).raise lines ids := by
  induction ls generalizing p number with
  | nil => rfl
  | cons line rest ih =>
    rw [printLines_cons, printLines_cons, printLine_raise]
    apply andThen_raise
    intro q
    have next := ih q (number + 1)
    rwa [Nat.add_right_comm] at next

end ReceiptPress.Synthesis

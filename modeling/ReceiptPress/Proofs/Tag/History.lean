import Mathlib.Data.List.Induction
import Mathlib.Data.List.Nodup
import ReceiptPress.Proofs.Faults
import ReceiptPress.Proofs.Tag.Agreement
import ReceiptPress.Tag.Operation

/-!
# What a dictionary remembers

A dictionary keeps a scan list between questions and replaces entries in place. What it should
answer is told by its history alone: the entries that were accepted, one after another. The latest
entry of a tag counts, tags are listed in the order in which they first appeared, and the scan list
is made anew for every question. A dictionary answers all operations so (`performAll_eq`), and
whatever happens to it, it stays sound (`Dictionary.sound`).
-/

namespace ReceiptPress.Tag

/-! ## Answers by history -/

namespace Entry

def refusal? (e : Entry) : Option Fault :=
  if isTag e.tag = false then some (.malformedTag e.tag)
  else if e.emitsBytes = true ∧ e.bytes = [] then some (.tagWithoutBytes e.tag)
  else none

theorem refusal?_eq_none_iff {e : Entry} : e.refusal? = none ↔ e.WellFormed := by
  unfold refusal?
  constructor
  · intro accepted
    split at accepted
    · cases accepted
    · rename_i shape
      split at accepted
      · cases accepted
      · rename_i empty
        exact ⟨by simpa using shape, fun emits none => empty ⟨emits, none⟩⟩
  · rintro ⟨shape, filled⟩
    rw [if_neg (by simp [shape]), if_neg fun empty => filled empty.1 empty.2]

theorem family_refusal? {e : Entry} {f : Fault} (refused : e.refusal? = some f) :
    f.family = .value := by
  unfold refusal? at refused
  split at refused
  · cases refused
    rfl
  · split at refused
    · cases refused
      rfl
    · cases refused

end Entry

def Operation.accepted? : Operation → Option Entry
  | .register e => if e.WellFormed then some e else none
  | _ => none

abbrev History := List Entry

namespace History

def latest? (h : History) (tag : Text) : Option Entry := h.reverse.find? (·.tag = tag)

def tags (h : History) : List Text := (h.map Entry.tag).eraseDups

def entries (h : History) : List Entry := (tags h).filterMap (latest? h)

def emitterSize (h : History) : Text.Recogniser := fun t =>
  match (emitters (entries h)).find? (·.tag.isPrefixOf t) with
  | some e => e.tag.length
  | none => 0

def segmentBytes (h : History) : Segment → Bytes
  | .literal t => Text.toAscii t
  | .tag t => ((latest? h t).map Entry.bytes).getD []

def splitLine (h : History) (line : Text) : List Chunk :=
  (Segment.ofPieces (Text.pieces (emitterSize h) line)).map fun s => .ofText (segmentBytes h s)

def answer (h : History) : Operation → Answer
  | .register e =>
    match e.refusal? with
    | none => .count (tags (h ++ [e])).length
    | some f => .refused f
  | .get tag => .entry (latest? h tag)
  | .sibling tag => .entry ((latest? h tag).bind fun e => e.pair.bind (latest? h))
  | .contains tag => .truth ((tags h).contains tag)
  | .size => .count (tags h).length
  | .list => .tags (tags h)
  | .ofCategories categories =>
    .tags (((entries h).filter (categories.contains ·.category)).map Entry.tag)
  | .find t => .finds (Text.finds (emitterSize h) t)
  | .split line => .chunks (splitLine h line)

def after (h : History) (ops : List Operation) : History :=
  h ++ ops.filterMap Operation.accepted?

def answers (h : History) : List Operation → List Answer
  | [] => []
  | op :: ops => answer h op :: answers (after h [op]) ops

/-! ## The latest entries -/

theorem latest?_concat (h : History) (e : Entry) (tag : Text) :
    latest? (h ++ [e]) tag = if e.tag = tag then some e else latest? h tag := by
  rw [latest?, List.reverse_concat, List.find?_cons]
  by_cases same : e.tag = tag
  · rw [if_pos same, decide_eq_true same]
  · rw [if_neg same, decide_eq_false same, latest?]

theorem mem_tags {h : History} {tag : Text} : tag ∈ tags h ↔ ∃ e ∈ h, e.tag = tag := by
  rw [tags, List.mem_eraseDups, List.mem_map]

theorem tags_concat (h : History) (e : Entry) :
    tags (h ++ [e]) = if e.tag ∈ tags h then tags h else tags h ++ [e.tag] := by
  have appended : tags (h ++ [e]) = tags h ++ ([e.tag].removeAll (h.map Entry.tag)).eraseDups := by
    rw [tags, List.map_append, List.eraseDups_append, tags]
    rfl
  rw [appended]
  by_cases known : e.tag ∈ tags h
  · rw [if_pos known]
    simp [List.removeAll, mem_tags.1 known]
  · rw [if_neg known]
    have fresh : e.tag ∉ h.map Entry.tag := mt List.mem_eraseDups.2 known
    simp [List.removeAll, fresh, List.eraseDups_cons, -List.mem_map]

theorem nodup_tags (h : History) : (tags h).Nodup := by
  induction h using List.reverseRecOn with
  | nil => exact List.nodup_nil
  | append_singleton h e ih =>
    rw [tags_concat]
    split
    · exact ih
    · rename_i fresh
      rw [← List.concat_eq_append]
      exact ih.concat fresh

theorem exists_latest? {h : History} {tag : Text} (mem : tag ∈ tags h) :
    ∃ e, latest? h tag = some e ∧ e.tag = tag := by
  obtain ⟨e, accepted, eq⟩ := mem_tags.1 mem
  cases found : latest? h tag with
  | none =>
    have refused := List.find?_eq_none.1 found e (List.mem_reverse.2 accepted)
    exact absurd eq (by simpa using refused)
  | some x => exact ⟨x, rfl, by simpa using List.find?_some found⟩

theorem insert_filterMap {find find' : Text → Option Entry} {e : Entry}
    (self : find' e.tag = some e) (others : ∀ tag, tag ≠ e.tag → find' tag = find tag)
    {ts : List Text} (distinct : ts.Nodup)
    (found : ∀ tag ∈ ts, ∃ x, find tag = some x ∧ x.tag = tag) :
    e.insert (ts.filterMap find) =
      (if e.tag ∈ ts then ts else ts ++ [e.tag]).filterMap find' := by
  -- Behind the tag of the entry the two lookups agree, for no tag stands twice in the list.
  induction ts with
  | nil => simp [Entry.insert, self]
  | cons t ts ih =>
    obtain ⟨x, x_found, rfl⟩ := found t List.mem_cons_self
    obtain ⟨fresh, distinct⟩ := List.nodup_cons.1 distinct
    specialize ih distinct fun tag mem => found tag (List.mem_cons_of_mem _ mem)
    rw [List.filterMap_cons_some x_found, Entry.insert]
    by_cases same : x.tag = e.tag
    · have kept : ts.filterMap find = ts.filterMap find' :=
        List.filterMap_congr fun tag mem => (others tag fun eq => fresh (same ▸ eq ▸ mem)).symm
      simp [same, self, kept]
    · have other : e.tag ≠ x.tag := Ne.symm same
      rw [if_neg same, ih]
      have x_found' : find' x.tag = some x := (others x.tag same).trans x_found
      by_cases known : e.tag ∈ ts <;> simp [known, other, x_found']

theorem entries_concat (h : History) (e : Entry) : entries (h ++ [e]) = e.insert (entries h) := by
  have self : latest? (h ++ [e]) e.tag = some e := by rw [latest?_concat, if_pos rfl]
  have others : ∀ tag, tag ≠ e.tag → latest? (h ++ [e]) tag = latest? h tag := fun tag other => by
    rw [latest?_concat, if_neg other.symm]
  rw [entries, entries, insert_filterMap self others (nodup_tags h) fun _ => exists_latest?,
    tags_concat]

theorem map_tag_entries (h : History) : (entries h).map Entry.tag = tags h := by
  induction h using List.reverseRecOn with
  | nil => rfl
  | append_singleton h e ih => rw [entries_concat, Entry.map_tag_insert, ih, tags_concat]

theorem find?_entries (h : History) (tag : Text) :
    (entries h).find? (·.tag = tag) = latest? h tag := by
  induction h using List.reverseRecOn with
  | nil => rfl
  | append_singleton h e ih =>
    rw [entries_concat, latest?_concat]
    by_cases same : e.tag = tag
    · rw [if_pos same, ← same, Entry.find?_insert_self]
    · rw [if_neg same, Entry.find?_insert_of_ne (Ne.symm same), ih]

theorem insert_of_not_mem {e : Entry} {es : List Entry} (fresh : e.tag ∉ es.map Entry.tag) :
    e.insert es = es ++ [e] := by
  induction es with
  | nil => rfl
  | cons x es ih =>
    rw [List.map_cons, List.mem_cons, not_or] at fresh
    rw [Entry.insert, if_neg (Ne.symm fresh.1), ih fresh.2, List.cons_append]

theorem entries_of_distinct {h : History} (distinct : (h.map Entry.tag).Nodup) :
    entries h = h := by
  induction h using List.reverseRecOn with
  | nil => rfl
  | append_singleton h e ih =>
    rw [List.map_append, List.map_singleton, ← List.concat_eq_append, List.nodup_concat] at distinct
    rw [entries_concat, ih distinct.2, insert_of_not_mem distinct.1]

end History

/-! ## One operation -/

namespace Dictionary

variable {d : Dictionary} {h : History}

theorem register_of_wellFormed (d : Dictionary) {e : Entry} (accepted : e.WellFormed) :
    ∃ after, d.register e = .ok after ∧ after.entries = e.insert d.entries := by
  rw [register, dif_pos accepted.isTag, dif_pos accepted.bytes_ne_nil]
  exact ⟨_, rfl, rfl⟩

theorem register_of_refusal? (d : Dictionary) {e : Entry} {f : Fault}
    (refused : e.refusal? = some f) : d.register e = .error f := by
  unfold Entry.refusal? at refused
  unfold register
  split at refused
  · rename_i shape
    rw [dif_neg (by simp [shape]), Option.some.inj refused]
  · rename_i shape
    rw [dif_pos (by simpa using shape)]
    split at refused
    · rename_i empty
      rw [dif_neg fun filled => filled empty.1 empty.2, Option.some.inj refused]
    · cases refused

theorem get?_of_entries (same : d.entries = h.entries) (tag : Text) :
    d.get? tag = h.latest? tag := by
  rw [get?, same, History.find?_entries]

theorem map_tag_of_entries (same : d.entries = h.entries) : d.entries.map Entry.tag = h.tags := by
  rw [same, History.map_tag_entries]

theorem size_of_entries (same : d.entries = h.entries) : d.size = h.tags.length := by
  rw [size, ← map_tag_of_entries same, List.length_map]

theorem emitterSize_of_entries (same : d.entries = h.entries) :
    d.emitterSize = h.emitterSize := by
  funext t
  rw [emitterSize, emitterAt?, emitters_eq, same]
  rfl

theorem splitLine_of_entries (same : d.entries = h.entries) (line : Text) :
    d.splitLine line = h.splitLine line := by
  rw [splitLine, segments, emitterSize_of_entries same]
  refine List.map_congr_left fun s _ => congrArg Chunk.ofText ?_
  cases s with
  | literal => rfl
  | tag t => rw [segmentBytes, get?_of_entries same, History.segmentBytes]

theorem History.after_of_idle {op : Operation} (idle : op.accepted? = none) (h : History) :
    h.after [op] = h := by
  rw [History.after, List.filterMap_cons_none idle, List.filterMap_nil, List.append_nil]

theorem entries_perform (same : d.entries = h.entries) (op : Operation) :
    (d.perform op).2.entries = (h.after [op]).entries := by
  cases op with
  | register e =>
    cases refused : e.refusal? with
    | none =>
      have accepted := Entry.refusal?_eq_none_iff.1 refused
      obtain ⟨next, registered, entries_eq⟩ := d.register_of_wellFormed accepted
      have added : h.after [.register e] = h ++ [e] := by
        simp [History.after, Operation.accepted?, accepted]
      rw [perform, registered, added, History.entries_concat, ← same]
      exact entries_eq
    | some f =>
      have unaccepted : ¬ e.WellFormed := fun accepted => by
        rw [Entry.refusal?_eq_none_iff.2 accepted] at refused
        cases refused
      have idle : (Operation.register e).accepted? = none := if_neg unaccepted
      rw [perform, d.register_of_refusal? refused, History.after_of_idle idle]
      exact same
  | get | sibling | contains | size | list | ofCategories | find | split =>
    rw [History.after_of_idle rfl]
    exact same

theorem answer_perform (same : d.entries = h.entries) (op : Operation) :
    (d.perform op).1 = h.answer op := by
  cases op with
  | register e =>
    cases refused : e.refusal? with
    | none =>
      obtain ⟨next, registered, entries_eq⟩ :=
        d.register_of_wellFormed (Entry.refusal?_eq_none_iff.1 refused)
      rw [same, ← History.entries_concat] at entries_eq
      rw [perform, registered, History.answer, refused]
      exact congrArg Answer.count (size_of_entries entries_eq)
    | some f => rw [perform, d.register_of_refusal? refused, History.answer, refused]
  | get tag => exact congrArg Answer.entry (get?_of_entries same tag)
  | sibling tag =>
    refine congrArg Answer.entry ?_
    rw [sibling?, get?_of_entries same, funext (get?_of_entries same)]
    rfl
  | contains tag =>
    refine congrArg Answer.truth ?_
    rw [contains, ← map_tag_of_entries same, Bool.eq_iff_iff]
    simp
  | size => exact congrArg Answer.count (size_of_entries same)
  | list => exact congrArg Answer.tags (map_tag_of_entries same)
  | ofCategories categories =>
    refine congrArg Answer.tags ?_
    rw [ofCategories, same]
  | find t =>
    refine congrArg Answer.finds ?_
    rw [emitterFinds, emitterSize_of_entries same]
  | split line => exact congrArg Answer.chunks (splitLine_of_entries same line)

/-! ## All operations -/

def after (d : Dictionary) (ops : List Operation) : Dictionary :=
  ops.foldl (fun d op => (d.perform op).2) d

theorem performAll_of_entries (same : d.entries = h.entries) (ops : List Operation) :
    d.performAll ops = h.answers ops := by
  induction ops generalizing d h with
  | nil => rfl
  | cons op ops ih =>
    rw [performAll, History.answers, ← answer_perform same, ← ih (entries_perform same op)]

theorem after_of_entries (same : d.entries = h.entries) (ops : List Operation) :
    (d.after ops).entries = (h.after ops).entries := by
  induction ops generalizing d h with
  | nil => rw [after, List.foldl_nil, same, History.after, List.filterMap_nil, List.append_nil]
  | cons op ops ih =>
    have later : (h.after [op]).after ops = h.after (op :: ops) := by
      rw [History.after, History.after, List.append_assoc, ← List.filterMap_append,
        List.singleton_append, History.after]
    rw [← later]
    exact ih (entries_perform same op)

theorem registerAll_of_entries (same : d.entries = h.entries) (es : List Entry) :
    match es.findSome? Entry.refusal? with
    | some f => d.registerAll es = .error f
    | none => ∃ last, d.registerAll es = .ok last ∧ last.entries = History.entries (h ++ es) := by
  induction es generalizing d h with
  | nil => exact ⟨d, rfl, by rw [same, List.append_nil]⟩
  | cons e es ih =>
    rw [List.findSome?_cons, registerAll, List.foldlM_cons]
    cases refused : e.refusal? with
    | some f =>
      rw [d.register_of_refusal? refused]
      rfl
    | none =>
      obtain ⟨next, registered, entries_eq⟩ :=
        d.register_of_wellFormed (Entry.refusal?_eq_none_iff.1 refused)
      rw [same, ← History.entries_concat] at entries_eq
      rw [registered, ← List.singleton_append, ← List.append_assoc]
      exact ih entries_eq

theorem registerAll_of_distinct {es : List Entry} (accepted : ∀ e ∈ es, e.WellFormed)
    (distinct : (es.map Entry.tag).Nodup) :
    ∃ d, empty.registerAll es = .ok d ∧ d.entries = es := by
  have none : es.findSome? Entry.refusal? = none :=
    List.findSome?_eq_none_iff.2 fun e mem => Entry.refusal?_eq_none_iff.2 (accepted e mem)
  have made := registerAll_of_entries (d := empty) (h := []) rfl es
  rw [none, List.nil_append, History.entries_of_distinct distinct] at made
  exact made

theorem registerAll_standard : empty.registerAll Entry.standard = .ok standard := rfl

/-! ## What holds in every state -/

/-- What a dictionary can be relied on for. -/
structure Sound (d : Dictionary) : Prop where
  distinct : (d.entries.map Entry.tag).Nodup
  braced : ∀ e ∈ d.entries, ∃ name, IsName name ∧ e.tag = Tag.braced name
  own : ∀ tag e, d.get? tag = some e → e.tag = tag
  bytes : ∀ e ∈ d.entries, e.category = .toggle ∨ e.category = .align → e.bytes ≠ []
  fresh : d.emitters = Tag.emitters d.entries
  found : ∀ line tag, .tag tag ∈ d.segments line → ∃ e, d.get? tag = some e

theorem sound (d : Dictionary) : d.Sound where
  distinct := d.distinct
  braced e mem := isTag_iff.1 (d.wellFormed e mem).isTag
  own _ _ found := (get?_eq_some_iff.1 found).2
  bytes e mem emits := (d.wellFormed e mem).bytes_ne_nil (by simpa [Entry.emitsBytes] using emits)
  fresh := d.emitters_eq
  found _ _ split := by
    obtain ⟨e, found, -⟩ := (Option.any_eq_true _ _).1 (emits_of_tag_mem split)
    exact ⟨e, found⟩

/-- A dictionary is made of the entries it starts with, unless one of them is refused. From then on
it answers any operations as its history tells, and holds the latest entry of each tag in the order
in which the tags first appeared. In every state that it comes to it is sound, and a registration
that is refused leaves this state as it is. -/
theorem performAll_eq (initial : List Entry) :
    match initial.findSome? Entry.refusal? with
    | some f => empty.registerAll initial = .error f ∧ f.family = .value
    | none =>
      ∃ d, empty.registerAll initial = .ok d ∧ ∀ ops : List Operation,
        let last := d.after ops
        let history := initial ++ ops.filterMap Operation.accepted?
        d.performAll ops = History.answers initial ops ∧
          last.entries = History.entries history ∧
          last.entries.map Entry.tag = (history.map Entry.tag).eraseDups ∧
          last.Sound ∧
          ∀ e, ¬ e.WellFormed → ∃ f, f.family = .value ∧ last.register e = .error f ∧
            last.perform (.register e) = (.refused f, last) := by
  have made := registerAll_of_entries (d := empty) (h := []) rfl initial
  rw [List.nil_append] at made
  split at made
  · rename_i f refused
    obtain ⟨e, -, cause⟩ := List.exists_of_findSome?_eq_some refused
    exact ⟨made, Entry.family_refusal? cause⟩
  · obtain ⟨d, registered, same⟩ := made
    refine ⟨d, registered, fun ops => ?_⟩
    have entries_eq := after_of_entries same ops
    refine ⟨performAll_of_entries same ops, entries_eq, map_tag_of_entries entries_eq, sound _, ?_⟩
    intro e unaccepted
    obtain ⟨f, refused⟩ := Option.ne_none_iff_exists'.1 (mt Entry.refusal?_eq_none_iff.1 unaccepted)
    have registered := (d.after ops).register_of_refusal? refused
    exact ⟨f, Entry.family_refusal? refused, registered, by rw [perform, registered]⟩

end Dictionary
end ReceiptPress.Tag

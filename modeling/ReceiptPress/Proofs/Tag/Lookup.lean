import ReceiptPress.Proofs.Tag.Shape
import ReceiptPress.Tag.Dictionary

namespace ReceiptPress.Tag

theorem mem_place {e x : Entry} {entries : List Entry} :
    x ∈ e.place entries ↔ x = e ∨ x ∈ entries := by
  induction entries with
  | nil => simp [Entry.place]
  | cons other rest ih =>
    rw [Entry.place]
    split
    · exact List.mem_cons
    · rw [List.mem_cons, ih, List.mem_cons]
      exact or_left_comm

theorem mem_longestFirst {x : Entry} {entries : List Entry} :
    x ∈ longestFirst entries ↔ x ∈ entries := by
  induction entries with
  | nil => rfl
  | cons e rest ih => rw [longestFirst, mem_place, ih, List.mem_cons]

theorem find?_of_mem {entries : List Entry} (distinct : (entries.map Entry.tag).Nodup) {e : Entry}
    (mem : e ∈ entries) : entries.find? (·.tag = e.tag) = some e := by
  induction entries with
  | nil => cases mem
  | cons other rest ih =>
    rw [List.map_cons, List.nodup_cons] at distinct
    rcases List.mem_cons.1 mem with rfl | mem
    · simp
    · have ne : other.tag ≠ e.tag := fun eq =>
        distinct.1 (eq ▸ List.mem_map_of_mem mem)
      rw [List.find?_cons, decide_eq_false ne]
      exact ih distinct.2 mem

namespace Dictionary

variable {d : Dictionary}

theorem get?_eq_some_iff {tag : Text} {e : Entry} :
    d.get? tag = some e ↔ e ∈ d.entries ∧ e.tag = tag := by
  constructor
  · intro found
    exact ⟨List.mem_of_find?_eq_some found, by simpa using List.find?_some found⟩
  · rintro ⟨mem, rfl⟩
    exact find?_of_mem d.distinct mem

theorem mem_emitters {e : Entry} : e ∈ d.emitters ↔ e ∈ d.entries ∧ e.emitsBytes = true := by
  rw [emitters_eq, Tag.emitters, mem_longestFirst, List.mem_filter]

def emits (d : Dictionary) (tag : Text) : Bool := (d.get? tag).any Entry.emitsBytes

theorem emits_iff {tag : Text} :
    d.emits tag = true ↔ ∃ e ∈ d.entries, e.emitsBytes = true ∧ e.tag = tag := by
  simp only [emits, Option.any_eq_true, get?_eq_some_iff]
  exact ⟨fun ⟨e, ⟨mem, eq⟩, yes⟩ => ⟨e, mem, yes, eq⟩, fun ⟨e, mem, yes, eq⟩ => ⟨e, ⟨mem, eq⟩, yes⟩⟩

theorem take_size_of_head {e : Entry} (mem : e ∈ d.entries) {t : Text} (head : e.tag <+: t) :
    t.take (Tag.size t) = e.tag := by
  obtain ⟨name, h, tag_eq⟩ := isTag_iff.1 (d.wellFormed e mem).isTag
  obtain ⟨rest, rfl⟩ := head
  rw [tag_eq, take_size_braced h]

theorem emitterAt?_eq_some_iff {t : Text} {e : Entry} :
    d.emitterAt? t = some e ↔
      e ∈ d.entries ∧ e.emitsBytes = true ∧ e.tag = t.take (Tag.size t) := by
  have prefix_of {x : Entry} (found : d.emitterAt? t = some x) : x.tag <+: t :=
    List.isPrefixOf_iff_prefix.1 (List.find?_some (p := fun x : Entry => x.tag.isPrefixOf t) found)
  constructor
  · intro found
    obtain ⟨mem, yes⟩ := mem_emitters.1 (List.mem_of_find?_eq_some found)
    exact ⟨mem, yes, (take_size_of_head mem (prefix_of found)).symm⟩
  · rintro ⟨mem, yes, tag_eq⟩
    have head : e.tag <+: t := tag_eq ▸ List.take_prefix _ t
    -- Some emitter is found, and only one entry can have the tag that stands there.
    cases found : d.emitterAt? t with
    | none =>
      have refused := List.find?_eq_none.1 found e (mem_emitters.2 ⟨mem, yes⟩)
      exact absurd (List.isPrefixOf_iff_prefix.2 head) refused
    | some other =>
      have other_mem := (mem_emitters.1 (List.mem_of_find?_eq_some found)).1
      have same : other.tag = e.tag :=
        (take_size_of_head other_mem (prefix_of found)).symm.trans tag_eq.symm
      exact (get?_eq_some_iff.2 ⟨other_mem, same⟩).symm.trans (get?_eq_some_iff.2 ⟨mem, rfl⟩)

theorem emitterAt?_eq (d : Dictionary) (t : Text) :
    d.emitterAt? t = (d.get? (t.take (Tag.size t))).filter Entry.emitsBytes := by
  apply Option.ext
  intro e
  rw [emitterAt?_eq_some_iff, Option.filter_eq_some_iff, get?_eq_some_iff]
  exact ⟨fun ⟨mem, yes, eq⟩ => ⟨⟨mem, eq⟩, yes⟩, fun ⟨⟨mem, eq⟩, yes⟩ => ⟨mem, yes, eq⟩⟩

theorem keeps_emits (d : Dictionary) : Text.Keeps d.emits Tag.size d.emitterSize := by
  intro t
  rw [emitterSize, emitterAt?_eq, emits]
  cases found : d.get? (t.take (Tag.size t)) with
  | none => rfl
  | some e =>
    have tag_eq := (get?_eq_some_iff.1 found).2
    cases yes : e.emitsBytes with
    | false => simp [Option.filter, yes]
    | true => simp [Option.filter, yes, tag_eq, size_le_length]

end Dictionary

end ReceiptPress.Tag

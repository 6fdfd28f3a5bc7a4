import ReceiptPress.Fault
import ReceiptPress.Tag.Standard

/-!
# Tag dictionaries

A dictionary holds at most one entry for a tag, in the order in which the tags were first
registered. Registering refuses entries that are not well formed. The entries that expand to bytes
are needed longest tag first whenever a line is split, so a dictionary can keep that list; it is
forgotten when an entry is registered.
-/

namespace ReceiptPress.Tag

def Entry.place (e : Entry) : List Entry → List Entry
  | [] => [e]
  | other :: rest =>
    if other.tag.length ≤ e.tag.length then e :: other :: rest else other :: place e rest

/-- The entries with longer tags first; entries with tags of one length keep their order. -/
def longestFirst : List Entry → List Entry
  | [] => []
  | e :: rest => e.place (longestFirst rest)

def emitters (entries : List Entry) : List Entry := longestFirst (entries.filter Entry.emitsBytes)

structure Dictionary where
  entries : List Entry
  /-- The entries that expand to bytes, longest tag first, if they were needed already. -/
  kept : Option (List Entry) := none
  wellFormed : ∀ e ∈ entries, e.WellFormed
  distinct : (entries.map Entry.tag).Nodup
  kept_eq : ∀ l ∈ kept, l = emitters entries

def Entry.insert (e : Entry) : List Entry → List Entry
  | [] => [e]
  | other :: rest => if other.tag = e.tag then e :: rest else other :: insert e rest

theorem Entry.mem_insert {e x : Entry} {entries : List Entry} (h : x ∈ e.insert entries) :
    x = e ∨ x ∈ entries := by
  induction entries with
  | nil => simpa [Entry.insert] using h
  | cons other rest ih =>
    rw [Entry.insert] at h
    split at h
    · rcases List.mem_cons.1 h with h | h
      · exact .inl h
      · exact .inr (List.mem_cons_of_mem _ h)
    · rcases List.mem_cons.1 h with h | h
      · exact .inr (h ▸ List.mem_cons_self)
      · exact (ih h).imp id (List.mem_cons_of_mem _)

theorem Entry.map_tag_insert (e : Entry) (entries : List Entry) :
    (e.insert entries).map Entry.tag =
      if e.tag ∈ entries.map Entry.tag then entries.map Entry.tag
      else entries.map Entry.tag ++ [e.tag] := by
  induction entries with
  | nil => simp [Entry.insert]
  | cons other rest ih =>
    rw [Entry.insert]
    split
    · rename_i h
      simp [h]
    · rename_i h
      have h' : ¬e.tag = other.tag := fun h' => h h'.symm
      simp only [List.map_cons, ih, List.mem_cons, h', false_or]
      split <;> simp

theorem Entry.find?_insert_self (e : Entry) (entries : List Entry) :
    (e.insert entries).find? (·.tag = e.tag) = some e := by
  induction entries with
  | nil => simp [Entry.insert]
  | cons other rest ih =>
    rw [Entry.insert]
    split
    · simp
    · rename_i h
      simpa [h] using ih

theorem Entry.find?_insert_of_ne {e : Entry} {tag : Text} (h : tag ≠ e.tag)
    (entries : List Entry) :
    (e.insert entries).find? (·.tag = tag) = entries.find? (·.tag = tag) := by
  induction entries with
  | nil => simp [Entry.insert, Ne.symm h]
  | cons other rest ih =>
    rw [Entry.insert]
    split
    · rename_i ht
      simp [ht, Ne.symm h]
    · simp only [List.find?_cons]
      split
      · rfl
      · exact ih

namespace Dictionary

def empty : Dictionary where
  entries := []
  wellFormed := by simp
  distinct := by simp
  kept_eq := by simp

def standard : Dictionary where
  entries := Entry.standard
  wellFormed := by decide
  distinct := by decide
  kept_eq := by simp

def register (d : Dictionary) (e : Entry) : Except Fault Dictionary :=
  if shape : isTag e.tag = true then
    if bytes : e.emitsBytes = true → e.bytes ≠ [] then
      .ok
        { entries := e.insert d.entries
          wellFormed := fun x hx =>
            (Entry.mem_insert hx).elim (fun h => h ▸ ⟨shape, bytes⟩) (d.wellFormed x)
          distinct := by
            rw [Entry.map_tag_insert]
            split
            · exact d.distinct
            · rename_i h
              refine List.nodup_append.2 ⟨d.distinct, by simp, ?_⟩
              rintro a ha b hb rfl
              simp only [List.mem_singleton] at hb
              exact h (hb ▸ ha)
          kept_eq := by simp }
    else .error (.tagWithoutBytes e.tag)
  else .error (.malformedTag e.tag)

def registerAll (d : Dictionary) (entries : List Entry) : Except Fault Dictionary :=
  entries.foldlM register d

def get? (d : Dictionary) (tag : Text) : Option Entry := d.entries.find? (·.tag = tag)

def contains (d : Dictionary) (tag : Text) : Bool := d.entries.any (·.tag = tag)

def size (d : Dictionary) : Nat := d.entries.length

def ofCategories (d : Dictionary) (categories : List Category) : List Entry :=
  d.entries.filter (categories.contains ·.category)

def sibling? (d : Dictionary) (tag : Text) : Option Entry := do
  let e ← d.get? tag
  let pair ← e.pair
  d.get? pair

def emitters (d : Dictionary) : List Entry := d.kept.getD (Tag.emitters d.entries)

theorem emitters_eq (d : Dictionary) : d.emitters = Tag.emitters d.entries := by
  unfold emitters
  cases h : d.kept with
  | none => rfl
  | some l => exact d.kept_eq l h

def keeping (d : Dictionary) : Dictionary where
  entries := d.entries
  kept := some d.emitters
  wellFormed := d.wellFormed
  distinct := d.distinct
  kept_eq := by simp [emitters_eq]

def emitterAt? (d : Dictionary) (t : Text) : Option Entry :=
  d.emitters.find? (·.tag.isPrefixOf t)

def emitterSize (d : Dictionary) : Text.Recogniser := fun t =>
  match d.emitterAt? t with
  | some e => e.tag.length
  | none => 0

def emitterFinds (d : Dictionary) (t : Text) : List (Nat × Text) := Text.finds d.emitterSize t

end Dictionary

end ReceiptPress.Tag

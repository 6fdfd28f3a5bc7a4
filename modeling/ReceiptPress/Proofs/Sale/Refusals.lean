import ReceiptPress.Proofs.Value
import ReceiptPress.Sale.Job

namespace ReceiptPress

variable {f : Fault}

namespace Value

theorem elements_error {v : Value} (refused : v.elements = .error f) : f = .notIterable v.kind := by
  unfold elements at refused
  split at refused
  · cases refused
  · cases refused
  · cases refused
  · exact (Except.error.inj refused).symm

end Value

namespace Item

theorem readPrice_error {v : Value} (refused : readPrice v = .error f) :
    ∃ s, f = .notANumeral s := by
  unfold readPrice at refused
  split at refused
  · split at refused
    · cases refused
    · exact ⟨_, (Except.error.inj refused).symm⟩
  · cases refused

theorem ofValue_of_kind {v : Value} (no_record : v.kind ≠ .object) (no_item : v.kind ≠ .item) :
    ofValue v = .error (.notARecord v.kind) := by
  cases v with
  | object => exact absurd rfl no_record
  | item => exact absurd rfl no_item
  | _ => rfl

/-- A record whose price can be read and whose name nests too deep to be written. -/
inductive IsTooDeep : Value → Prop
  | record {fields : List (CodePoints × Value)} {name price : Value}
      (price_read : readPrice ((Value.field? "price".toList fields).getD (.int 0)) = .ok price)
      (name_eq : Value.field? "name".toList fields = some name)
      (deep : name.text = .error .tooDeepToWrite) : IsTooDeep (.object fields)

theorem ofValue_object (fields : List (CodePoints × Value)) :
    ofValue (.object fields) = do
      let price ← readPrice ((Value.field? "price".toList fields).getD (.int 0))
      let name ← ((Value.field? "name".toList fields).getD (.str [])).text
      return ⟨.str name, price⟩ :=
  rfl

theorem IsTooDeep.ofValue {v : Value} (deep : IsTooDeep v) :
    ofValue v = .error .tooDeepToWrite := by
  obtain ⟨price_read, name_eq, deep⟩ := deep
  rw [ofValue_object, price_read, name_eq, Option.getD_some, deep]
  rfl

theorem IsTooDeep.calls {v : Value} (deep : IsTooDeep v) : Value.writingRoom < v.calls := by
  obtain ⟨-, name_eq, deep⟩ := deep
  rcases Value.text_error deep with ⟨other, -⟩ | ⟨-, few⟩
  · cases other
  · exact Nat.lt_trans few (Value.calls_lt_of_field? name_eq)

theorem ofValue_error {v : Value} (refused : ofValue v = .error f) :
    f.family = .value ∨ v.kind ≠ .object ∧ v.kind ≠ .item ∧ f = .notARecord v.kind ∨
      f = .tooDeepToWrite ∧ IsTooDeep v := by
  cases v with
  | item => cases refused
  | object fields =>
    rw [ofValue_object] at refused
    rcases bind_eq_error.1 refused with refused | ⟨price, price_read, refused⟩
    · obtain ⟨s, rfl⟩ := readPrice_error refused
      exact .inl rfl
    · have unwritten := bind_pure_eq_error.1 refused
      rcases Value.text_error unwritten with ⟨rfl, -⟩ | ⟨rfl, -⟩
      · exact .inl rfl
      · cases name_eq : Value.field? "name".toList fields with
        | none =>
          rw [name_eq] at unwritten
          cases unwritten
        | some name =>
          rw [name_eq, Option.getD_some] at unwritten
          exact .inr (.inr ⟨rfl, .record price_read name_eq unwritten⟩)
  | _ => exact .inr (.inl ⟨Kind.noConfusion, Kind.noConfusion, (Except.error.inj refused).symm⟩)

end Item

namespace Amount

theorem toBinary64_error {a : Amount} (refused : a.toBinary64 = .error f) :
    f = .tooLargeForBinary64 := by
  unfold toBinary64 at refused
  split at refused
  · split at refused
    · cases refused
    · exact (Except.error.inj refused).symm
  · cases refused

theorem add_error {a b : Amount} (refused : a.add b = .error f) : f = .tooLargeForBinary64 := by
  unfold add at refused
  split at refused
  · cases refused
  · rcases bind_eq_error.1 refused with refused | ⟨_, -, refused⟩
    · exact toBinary64_error refused
    · exact toBinary64_error (bind_pure_eq_error.1 refused)

theorem fixedText_error {a : Amount} (refused : a.fixedText = .error f) :
    f = .tooLargeForBinary64 :=
  toBinary64_error (map_eq_error.1 refused)

end Amount

namespace Sale

theorem sumFrom_error {sum : Amount} {prices : List Value}
    (refused : sumFrom sum prices = .error f) :
    f.family = .kind ∨ f = .tooLargeForBinary64 := by
  induction prices generalizing sum with
  | nil => cases refused
  | cons price rest ih =>
    rw [sumFrom] at refused
    rcases bind_eq_error.1 refused with refused | ⟨_, -, refused⟩
    · left
      unfold addend at refused
      split at refused
      · cases refused
      · rw [← Except.error.inj refused]
        rfl
    · rcases bind_eq_error.1 refused with refused | ⟨_, -, refused⟩
      · exact .inr (Amount.add_error refused)
      · exact ih refused

/-- A record of which no sale comes because the name of an item, or else the total, nests too deep
to be written. -/
inductive IsTooDeep : Value → Prop
  | item {fields : List (CodePoints × Value)} {before after : List Value} {e : Value}
      {read : List Item}
      (elements_eq : (Value.fieldOr "items".toList (.list []) fields).elements =
        .ok (before ++ e :: after))
      (before_read : before.mapM Item.ofValue = .ok read) (deep : Item.IsTooDeep e) :
      IsTooDeep (.object fields)
  | total {fields : List (CodePoints × Value)} {elements : List Value} {read : List Item}
      (elements_eq : (Value.fieldOr "items".toList (.list []) fields).elements = .ok elements)
      (all_read : elements.mapM Item.ofValue = .ok read)
      (deep : (Value.fieldOr "total".toList (.str []) fields).text = .error .tooDeepToWrite) :
      IsTooDeep (.object fields)

theorem IsTooDeep.ofValue {v : Value} (deep : IsTooDeep v) :
    ofValue v = .error .tooDeepToWrite := by
  refine bind_eq_error.2 (.inr ?_)
  cases deep with
  | item elements_eq before_read deep =>
    refine ⟨_, rfl, bind_eq_error.2 (.inr ⟨_, elements_eq, bind_eq_error.2 (.inl ?_)⟩)⟩
    exact mapM_eq_error.2 ⟨_, _, _, _, rfl, before_read, deep.ofValue⟩
  | total elements_eq all_read deep =>
    exact ⟨_, rfl, bind_eq_error.2 (.inr ⟨_, elements_eq, bind_eq_error.2 (.inr
      ⟨_, all_read, bind_pure_eq_error.2 deep⟩)⟩)⟩

theorem ofValue_error {v : Value} (refused : ofValue v = .error f) :
    f.family = .value ∨ f.family = .kind ∨ f.family = .member ∨
      f = .tooDeepToWrite ∧ IsTooDeep v := by
  cases v with
  | object fields =>
    rcases bind_eq_error.1 refused with refused | ⟨_, ⟨⟩, refused⟩
    · cases refused
    · rcases bind_eq_error.1 refused with refused | ⟨elements, elements_eq, refused⟩
      · rw [Value.elements_error refused]
        exact .inr (.inl rfl)
      · rcases bind_eq_error.1 refused with refused | ⟨read, all_read, refused⟩
        · obtain ⟨before, e, after, read, rfl, before_read, refused⟩ := mapM_eq_error.1 refused
          rcases Item.ofValue_error refused with value | ⟨-, -, rfl⟩ | ⟨rfl, deep⟩
          · exact .inl value
          · exact .inr (.inr (.inl rfl))
          · exact .inr (.inr (.inr ⟨rfl, .item elements_eq before_read deep⟩))
        · have unwritten := bind_pure_eq_error.1 refused
          rcases Value.text_error unwritten with ⟨rfl, -⟩ | ⟨rfl, -⟩
          · exact .inl rfl
          · exact .inr (.inr (.inr ⟨rfl, .total elements_eq all_read unwritten⟩))
  | _ => exact .inr (.inr (.inl (Except.error.inj refused ▸ rfl)))

theorem IsTooDeep.calls {v : Value} (deep : IsTooDeep v) : Value.writingRoom < v.calls := by
  cases deep with
  | item elements_eq _ deep =>
    have inside := Value.calls_le_of_elements elements_eq
      (List.mem_append_right _ List.mem_cons_self)
    exact Nat.lt_of_lt_of_le deep.calls (Nat.le_trans inside (Value.calls_fieldOr_le rfl))
  | total _ _ deep =>
    rcases Value.text_error deep with ⟨other, -⟩ | ⟨-, few⟩
    · cases other
    · exact Nat.lt_of_lt_of_le few (Value.calls_fieldOr_le rfl)

/-- What goes wrong with items, other than a value that is not acceptable or of the wrong kind. -/
inductive Stops (items : List Value) : Fault → Prop
  | notARecord {before after : List Value} {v : Value} {read : List Item}
      (items_eq : items = before ++ v :: after) (before_read : before.mapM Item.ofValue = .ok read)
      (no_record : v.kind ≠ .object) (no_item : v.kind ≠ .item) :
      Stops items (.notARecord v.kind)
  | tooLarge {read : List Item} (all_read : items.mapM Item.ofValue = .ok read)
      (large : sum (read.map Item.price) >>= Amount.fixedText = .error .tooLargeForBinary64) :
      Stops items .tooLargeForBinary64

theorem ofItems_list (identifier : Value) (items : List Value) :
    ofItems identifier (.list items) = do
      let read ← items.mapM Item.ofValue
      let total ← sum (read.map Item.price) >>= Amount.fixedText
      return { identifier, items := read, total := .ofText total } := by
  rw [ofItems]
  simp only [Value.elements, bind_assoc]
  rfl

theorem ofItems_error_iff {identifier : Value} {items : List Value} (no_value : f.family ≠ .value)
    (no_kind : f.family ≠ .kind) (shallow : ∀ e ∈ items, ¬ Item.IsTooDeep e) :
    ofItems identifier (.list items) = .error f ↔ Stops items f := by
  rw [ofItems_list, bind_eq_error]
  constructor
  · rintro (refused | ⟨read, all_read, refused⟩)
    · obtain ⟨before, v, after, read, items_eq, before_read, refused⟩ := mapM_eq_error.1 refused
      rcases Item.ofValue_error refused with value | ⟨no_record, no_item, rfl⟩ | ⟨-, deep⟩
      · exact absurd value no_value
      · exact .notARecord items_eq before_read no_record no_item
      · exact absurd deep (shallow v (items_eq ▸ List.mem_append_right _ List.mem_cons_self))
    · have refused : sum (read.map Item.price) >>= Amount.fixedText = .error f :=
        bind_pure_eq_error.1 refused
      have large : f = .tooLargeForBinary64 := by
        rcases bind_eq_error.1 refused with refused | ⟨_, -, refused⟩
        · exact (sumFrom_error refused).resolve_left no_kind
        · exact Amount.fixedText_error refused
      subst large
      exact .tooLarge all_read refused
  · rintro (⟨items_eq, before_read, no_record, no_item⟩ | ⟨all_read, large⟩)
    · exact .inl (mapM_eq_error.2 ⟨_, _, _, _, items_eq, before_read,
        Item.ofValue_of_kind no_record no_item⟩)
    · exact .inr ⟨_, all_read, bind_pure_eq_error.2 large⟩

end Sale

namespace Job

variable {identifier : Option Text} {items : List Value}

/-- A description from which a job comes if a sale comes of its items. -/
inductive Describes (identifier : Option Text) (items : List Value) : Value → Prop
  | record {fields : List (CodePoints × Value)} {template : CodePoints}
      (template_eq : Value.field? "template".toList fields = some (.str template))
      (items_eq : Value.fieldOr "items".toList (.list []) fields = .list items)
      (identified : identifier = none →
        ∃ t, (Value.fieldOr "identifier".toList (.str []) fields).text = .ok t) :
      Describes identifier items (.object fields)

theorem not_isTooDeep_of_items {fields : List (CodePoints × Value)}
    (shallow : (Value.object fields).calls ≤ Value.writingRoom)
    (items_eq : Value.fieldOr "items".toList (.list []) fields = .list items) :
    ∀ e ∈ items, ¬ Item.IsTooDeep e := by
  intro e mem deep
  have inside : e.calls ≤ (Value.fieldOr "items".toList (.list []) fields).calls :=
    items_eq ▸ Nat.le_succ_of_le (Value.calls_le_of_mem mem)
  have whole := Nat.le_trans inside (Value.calls_fieldOr_le rfl)
  exact Nat.not_le_of_lt deep.calls (Nat.le_trans whole shallow)

theorem ofValue_error_iff {v : Value} (no_value : f.family ≠ .value) (no_kind : f.family ≠ .kind)
    (shallow : v.calls ≤ Value.writingRoom) :
    ofValue v identifier = .error f ↔
      ∃ items, Describes identifier items v ∧ Sale.Stops items f := by
  constructor
  · intro refused
    unfold ofValue at refused
    split at refused
    · split at refused
      · rename_i template_eq
        split at refused
        · rename_i items items_eq
          have items_shallow := not_isTooDeep_of_items shallow items_eq
          cases identifier with
          | some t =>
            have stops := (Sale.ofItems_error_iff no_value no_kind items_shallow).1
              (bind_pure_eq_error.1 refused)
            exact ⟨items, .record template_eq items_eq nofun, stops⟩
          | none =>
            rcases bind_eq_error.1 refused with refused | ⟨t, identified, refused⟩
            · rcases Value.text_error refused with ⟨rfl, -⟩ | ⟨-, few⟩
              · exact absurd rfl no_value
              · refine absurd (Nat.le_trans ?_ shallow) (Nat.not_le_of_lt few)
                exact Value.calls_fieldOr_le rfl
            · have stops := (Sale.ofItems_error_iff no_value no_kind items_shallow).1
                (bind_pure_eq_error.1 refused)
              exact ⟨items, .record template_eq items_eq fun _ => ⟨t, identified⟩, stops⟩
        · exact absurd (Except.error.inj refused ▸ rfl) no_value
      · exact absurd (Except.error.inj refused ▸ rfl) no_value
    · exact absurd (Except.error.inj refused ▸ rfl) no_value
  · rintro ⟨items, ⟨template_eq, items_eq, identified⟩, stops⟩
    have refused (t : CodePoints) : Sale.ofItems (.str t) (.list items) = .error f :=
      (Sale.ofItems_error_iff no_value no_kind (not_isTooDeep_of_items shallow items_eq)).2 stops
    rw [ofValue, template_eq]
    dsimp only
    rw [items_eq]
    dsimp only
    cases identifier with
    | some t => exact bind_pure_eq_error.2 (refused t.toCodePoints)
    | none =>
      obtain ⟨t, text⟩ := identified rfl
      exact bind_eq_error.2 (.inr ⟨t, text, bind_pure_eq_error.2 (refused t)⟩)

end Job

end ReceiptPress

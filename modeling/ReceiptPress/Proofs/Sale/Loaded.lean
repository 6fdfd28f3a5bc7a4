import ReceiptPress.Proofs.Number.Range
import ReceiptPress.Proofs.Sale.Refusals

namespace ReceiptPress

variable {f : Fault}

namespace Value

mutual

/-- Whether a value can stand in a file: no part of it is a finished item. -/
def isJson : Value → Bool
  | list elements => areJson elements
  | object fields => haveJson fields
  | item _ _ => false
  | _ => true

def areJson : List Value → Bool
  | [] => true
  | v :: rest => isJson v && areJson rest

def haveJson : List (CodePoints × Value) → Bool
  | [] => true
  | (_, v) :: rest => isJson v && haveJson rest

end

theorem areJson_iff {vs : List Value} : areJson vs = true ↔ ∀ v ∈ vs, v.isJson = true := by
  induction vs with
  | nil => simp [areJson]
  | cons v rest ih => simp [areJson, ih]

theorem haveJson_iff {fields : List (CodePoints × Value)} :
    haveJson fields = true ↔ ∀ field ∈ fields, field.2.isJson = true := by
  induction fields with
  | nil => simp [haveJson]
  | cons field rest ih => simp [haveJson, ih]

theorem isJson_fieldOr {fields : List (CodePoints × Value)} (json : (object fields).isJson = true)
    (name : Text) {default : Value} (default_json : default.isJson = true) :
    (fieldOr name default fields).isJson = true := by
  have field_json : ((field? name fields).getD .null).isJson = true := by
    cases found : field? name fields with
    | none => rfl
    | some v =>
      obtain ⟨field, first, rfl⟩ := Option.map_eq_some_iff.1 found
      rw [isJson] at json
      exact haveJson_iff.1 json field (List.mem_of_find?_eq_some first)
  rw [fieldOr, orElse]
  split
  · exact field_json
  · exact default_json

end Value

namespace Item

/-- An item as loading makes it: read from a record, and its price added to the others. -/
structure IsLoaded (i : Item) : Prop where
  name : ∃ t, i.name = .str t
  price : ∃ a, i.price.amount? = some a

def HasHugePrice (i : Item) : Prop := ∃ n, i.price = .int n ∧ Binary64.wholeEnd ≤ n.natAbs

theorem ofValue_eq_ok_iff {e : Value} {i : Item} (json : e.isJson = true) :
    ofValue e = .ok i ↔ ∃ fields price name, e = .object fields ∧
      readPrice ((Value.field? "price".toList fields).getD (.int 0)) = .ok price ∧
      ((Value.field? "name".toList fields).getD (.str [])).text = .ok name ∧
      ⟨.str name, price⟩ = i := by
  cases e with
  | item => cases json
  | object fields =>
    have opened : ofValue (.object fields) = ofRecord (.object fields) := rfl
    simp only [opened, ofRecord, bind_eq_ok, pure_eq_ok]
    constructor
    · rintro ⟨_, ⟨⟩, price, priced, name, named, made⟩
      exact ⟨fields, price, name, rfl, priced, named, made⟩
    · rintro ⟨_, price, name, ⟨⟩, priced, named, made⟩
      exact ⟨fields, rfl, price, priced, name, named, made⟩
  | _ => exact ⟨nofun, nofun⟩

theorem name_of_ofValue {v : Value} (json : v.isJson = true) {i : Item}
    (read : ofValue v = .ok i) : ∃ t, i.name = .str t := by
  obtain ⟨_, _, name, -, -, -, rfl⟩ := (ofValue_eq_ok_iff json).1 read
  exact ⟨name, rfl⟩

theorem nameColumn_standard (t : CodePoints) :
    ∃ column, nameColumn (.int 24) (.str t) = .ok column :=
  ⟨_, rfl⟩

theorem priceColumn_standard (price : Value) :
    priceColumn (.int 8) price =
      (fun amount => ('$' :: amount).leftpad 8 ' ') <$> price.fixedText := by
  rw [priceColumn]
  cases price.fixedText <;> rfl

theorem fixedText_of_amount? {v : Value} {a : Amount} (amount : v.amount? = some a) :
    v.fixedText = a.fixedText := by
  unfold Value.fixedText
  rw [amount]

theorem amount?_eq_whole_iff {v : Value} {n : Int} (beyond : Binary64.wholeEnd ≤ n.natAbs) :
    v.amount? = some (.whole n) ↔ v = .int n := by
  cases v with
  | bool b =>
    have one_lt : 1 < Binary64.wholeEnd := by decide +kernel
    cases b <;> simp [Value.amount?] <;> omega
  | int m => simp [Value.amount?]
  | _ => simp [Value.amount?]

theorem row_error_iff {i : Item} (loaded : i.IsLoaded) :
    i.row {} = .error f ↔ f = .tooLargeForBinary64 ∧ i.HasHugePrice := by
  obtain ⟨name, name_eq⟩ := loaded.name
  obtain ⟨amount, amount_eq⟩ := loaded.price
  obtain ⟨column, column_eq⟩ := nameColumn_standard name
  have row_eq : i.row {} = (fun amount => column ++ ('$' :: amount).leftpad 8 ' ' ++ ['\n']) <$>
      amount.fixedText := by
    rw [row, name_eq, column_eq, priceColumn_standard, fixedText_of_amount? amount_eq]
    cases amount.fixedText <;> rfl
  rw [row_eq, map_eq_error, Amount.fixedText, map_eq_error, Amount.toBinary64_error_iff]
  refine and_congr_right fun _ => exists_congr fun n => and_congr_left fun beyond => ?_
  rw [← amount?_eq_whole_iff beyond, amount_eq, Option.some.injEq]

end Item

theorem Sale.amount?_of_sumFrom {sum total : Amount} {prices : List Value}
    (summed : sumFrom sum prices = .ok total) {price : Value} (mem : price ∈ prices) :
    ∃ a, price.amount? = some a := by
  induction prices generalizing sum with
  | nil => cases mem
  | cons first rest ih =>
    obtain ⟨a, added, summed⟩ := bind_eq_ok.1 summed
    obtain ⟨next, -, summed⟩ := bind_eq_ok.1 summed
    rcases List.mem_cons.1 mem with rfl | mem
    · unfold addend at added
      split at added
      · rename_i b amount
        exact ⟨b, amount⟩
      · cases added
    · exact ih summed mem

structure Sale.IsLoaded (s : Sale) : Prop where
  identifier : ∃ t, s.identifier = .str t
  total : ∃ t, s.total = .str t
  items : ∀ i ∈ s.items, i.IsLoaded

theorem Sale.isLoaded_ofItems {identifier : CodePoints} {items : List Value}
    (json : ∀ v ∈ items, v.isJson = true) {sale : Sale}
    (made : ofItems (.str identifier) (.list items) = .ok sale) : sale.IsLoaded := by
  rw [ofItems_list] at made
  obtain ⟨read, all_read, made⟩ := bind_eq_ok.1 made
  obtain ⟨total, totalled, made⟩ := bind_eq_ok.1 made
  obtain ⟨sum, summed, -⟩ := bind_eq_ok.1 totalled
  cases made
  refine ⟨⟨identifier, rfl⟩, ⟨total.toCodePoints, rfl⟩, fun i mem => ⟨?_, ?_⟩⟩
  · obtain ⟨v, among, made⟩ := (mem_of_mapM_eq_ok all_read).2 i mem
    exact Item.name_of_ofValue (json v among) made
  · exact amount?_of_sumFrom summed (List.mem_map_of_mem mem)

namespace Job

def identify (identifier : Option Text) (fields : List (CodePoints × Value)) :
    Except Fault CodePoints :=
  match identifier with
  | some t => .ok t.toCodePoints
  | none => (Value.fieldOr "identifier".toList (.str []) fields).text

variable {v : Value} {identifier : Option Text} {job : Job}

theorem ofValue_eq_ok_iff :
    ofValue v identifier = .ok job ↔ ∃ fields items t, v = .object fields ∧
      Value.field? "template".toList fields = some (.str job.template) ∧
      Value.fieldOr "items".toList (.list []) fields = .list items ∧
      identify identifier fields = .ok t ∧ Sale.ofItems (.str t) (.list items) = .ok job.sale := by
  constructor
  · intro accepted
    unfold ofValue at accepted
    split at accepted
    · split at accepted
      · rename_i template_eq
        split at accepted
        · rename_i items_eq
          cases identifier with
          | some _ | none =>
            obtain ⟨t, identified, accepted⟩ := bind_eq_ok.1 accepted
            obtain ⟨sale, made, done⟩ := bind_eq_ok.1 accepted
            cases done
            exact ⟨_, _, t, rfl, template_eq, items_eq, identified, made⟩
        · cases accepted
      · cases accepted
    · cases accepted
  · rintro ⟨fields, items, t, rfl, template_eq, items_eq, identified, made⟩
    rw [ofValue, template_eq]
    dsimp only
    rw [items_eq]
    cases identifier with
    | some _ | none => exact bind_eq_ok.2 ⟨t, identified, bind_eq_ok.2 ⟨job.sale, made, rfl⟩⟩

theorem isJson_of_items {fields : List (CodePoints × Value)} {items : List Value}
    (json : (Value.object fields).isJson = true)
    (items_eq : Value.fieldOr "items".toList (.list []) fields = .list items) :
    ∀ e ∈ items, e.isJson = true := by
  have items_json : (Value.fieldOr "items".toList (.list []) fields).isJson = true :=
    Value.isJson_fieldOr json _ rfl
  rw [items_eq, Value.isJson] at items_json
  exact Value.areJson_iff.1 items_json

theorem isLoaded_ofValue (json : v.isJson = true) (accepted : ofValue v identifier = .ok job) :
    job.sale.IsLoaded := by
  obtain ⟨fields, items, t, rfl, -, items_eq, -, made⟩ := ofValue_eq_ok_iff.1 accepted
  exact Sale.isLoaded_ofItems (isJson_of_items json items_eq) made

end Job

end ReceiptPress

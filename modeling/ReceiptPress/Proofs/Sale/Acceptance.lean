import Mathlib.Algebra.Ring.Int.Defs
import Mathlib.Data.List.Forall2
import ReceiptPress.Proofs.Sale.Loaded
import ReceiptPress.Proofs.Value

namespace ReceiptPress

theorem mapM_eq_ok_iff {α β : Type} {g : α → Except Fault β} {xs : List α} {ys : List β} :
    xs.mapM g = .ok ys ↔ List.Forall₂ (fun x y => g x = .ok y) xs ys := by
  induction xs generalizing ys with
  | nil =>
    rw [List.forall₂_nil_left_iff]
    exact pure_eq_ok.trans eq_comm
  | cons x xs ih =>
    rw [List.mapM_cons, List.forall₂_cons_left_iff]
    simp only [bind_eq_ok, pure_eq_ok, ih]
    constructor
    · rintro ⟨y, here, zs, behind, rfl⟩
      exact ⟨y, zs, here, behind, rfl⟩
    · rintro ⟨y, zs, here, behind, rfl⟩
      exact ⟨y, here, zs, behind, rfl⟩

theorem exists_forall₂_iff {α β : Type} {R : α → β → Prop} {xs : List α} :
    (∃ ys, List.Forall₂ R xs ys) ↔ ∀ x ∈ xs, ∃ y, R x y := by
  induction xs with
  | nil => exact ⟨fun _ => nofun, fun _ => ⟨[], .nil⟩⟩
  | cons x xs ih =>
    rw [List.forall_mem_cons, ← ih]
    constructor
    · rintro ⟨_, _ | ⟨here, behind⟩⟩
      exact ⟨⟨_, here⟩, _, behind⟩
    · rintro ⟨⟨y, here⟩, ys, behind⟩
      exact ⟨y :: ys, .cons here behind⟩

/-! ## Prices that can be added -/

def Binary64.InRange (n : Int) : Prop := n.natAbs < wholeEnd

instance (n : Int) : Decidable (Binary64.InRange n) := Nat.decLt _ _

namespace Amount

/-- Amounts that are small enough to be added, from left to right, to a sum so far: each whole
number among them has a binary64 number, and so has the sum as long as it is whole. -/
structure Addable (sum : Amount) (amounts : List Amount) : Prop where
  each : ∀ n, .whole n ∈ amounts → Binary64.InRange n
  sums : ∀ m, sum = .whole m → ∀ (run : List Int) (rest : List Amount),
    amounts = run.map .whole ++ rest → Binary64.InRange (m + run.sum)

variable {sum a : Amount} {amounts : List Amount}

theorem exists_toBinary64 (small : ∀ n, a = .whole n → Binary64.InRange n) :
    ∃ x, a.toBinary64 = .ok x := by
  cases converted : a.toBinary64 with
  | ok x => exact ⟨x, rfl⟩
  | error f =>
    obtain ⟨-, n, rfl, beyond⟩ := toBinary64_error_iff.1 converted
    exact absurd (small n rfl) (Nat.not_lt_of_le beyond)

namespace Addable

theorem exists_toBinary64 (addable : Addable sum amounts) : ∃ x, sum.toBinary64 = .ok x :=
  Amount.exists_toBinary64 fun m whole => by simpa using addable.sums m whole [] amounts rfl

theorem exists_add (addable : Addable sum (a :: amounts)) :
    ∃ next, sum.add a = .ok next ∧ Addable next amounts := by
  have each : ∀ n, .whole n ∈ amounts → Binary64.InRange n :=
    fun n mem => addable.each n (List.mem_cons_of_mem a mem)
  obtain ⟨x, left⟩ := addable.exists_toBinary64
  obtain ⟨y, right⟩ := Amount.exists_toBinary64 (a := a) fun n whole =>
    addable.each n (whole ▸ List.mem_cons_self)
  rcases add_eq left right with ⟨m, n, rfl, rfl⟩ | added
  · -- The sum is whole as yet, so the bounds on the sums lose their first number.
    refine ⟨.whole (m + n), rfl, each, ?_⟩
    rintro _ ⟨⟩ run rest rfl
    have longer := addable.sums m rfl (n :: run) rest rfl
    rwa [List.sum_cons, ← Int.add_assoc] at longer
  · exact ⟨_, added, each, nofun⟩

end Addable

end Amount

/-! ## Items -/

namespace Item

/-- What the price of an item may be, and the amount that it stands for: it is missing, a truth
value, a number, or the numeral of one. -/
inductive IsPrice : Option Value → Amount → Prop
  | missing : IsPrice none (.whole 0)
  | bool (b : Bool) : IsPrice (some (.bool b)) (.whole (if b then 1 else 0))
  | int (n : Int) : IsPrice (some (.int n)) (.whole n)
  | float (x : Binary64) : IsPrice (some (.float x)) (.real x)
  | numeral {s : CodePoints} {x : Binary64} (read : Numeral.readBinary64 s.toText = some x) :
      IsPrice (some (.str s)) (.real x)

theorem isPrice_iff {price : Option Value} {a : Amount} :
    IsPrice price a ↔ ∃ v, readPrice (price.getD (.int 0)) = .ok v ∧ v.amount? = some a := by
  constructor
  · intro priced
    cases priced with
    | missing | bool | int | float => exact ⟨_, rfl, rfl⟩
    | @numeral s x read =>
      refine ⟨.float x, ?_, rfl⟩
      rw [Option.getD_some, readPrice, read]
  · rintro ⟨v, read, amount⟩
    cases price with
    | none =>
      cases read
      cases amount
      exact .missing
    | some price =>
      cases price with
      | str s =>
        rw [Option.getD_some, readPrice] at read
        split at read
        · rename_i x numeral
          cases read
          cases amount
          exact .numeral numeral
        · cases read
      | bool b => cases read; cases amount; exact .bool b
      | int n => cases read; cases amount; exact .int n
      | float x => cases read; cases amount; exact .float x
      | null | list | object | item => cases read; cases amount

inductive Describes : Value → Amount → Prop
  | record {fields : List (CodePoints × Value)} {a : Amount}
      (price : IsPrice (Value.field? "price".toList fields) a)
      (name : ((Value.field? "name".toList fields).getD (.str [])).isWritable = true) :
      Describes (.object fields) a

inductive ReadsAs : Value → Item → Prop
  | record {fields : List (CodePoints × Value)} {a : Amount} {name : CodePoints} {price : Value}
      (name_eq : ((Value.field? "name".toList fields).getD (.str [])).text = .ok name)
      (priced : IsPrice (Value.field? "price".toList fields) a)
      (price_eq : price.amount? = some a) :
      ReadsAs (.object fields) ⟨.str name, price⟩

variable {e : Value} {i : Item} {a : Amount}

theorem Describes.unique {b : Amount} (one : Describes e a) (other : Describes e b) : a = b := by
  obtain ⟨priced, -⟩ := one
  obtain ⟨also, -⟩ := other
  obtain ⟨v, read, amount⟩ := isPrice_iff.1 priced
  obtain ⟨w, read_again, amount_again⟩ := isPrice_iff.1 also
  cases read.symm.trans read_again
  exact Option.some.inj (amount.symm.trans amount_again)

theorem describes_iff (json : e.isJson = true) :
    Describes e a ↔ ∃ i, ofValue e = .ok i ∧ i.price.amount? = some a := by
  constructor
  · rintro ⟨priced, writable⟩
    obtain ⟨price, read, amount⟩ := isPrice_iff.1 priced
    obtain ⟨name, written⟩ := (Value.exists_text_iff _).2 writable
    exact ⟨_, (ofValue_eq_ok_iff json).2 ⟨_, price, name, rfl, read, written, rfl⟩, amount⟩
  · rintro ⟨i, made, amount⟩
    obtain ⟨fields, price, name, rfl, read, written, rfl⟩ := (ofValue_eq_ok_iff json).1 made
    have priced := isPrice_iff.2 ⟨price, read, amount⟩
    exact .record priced ((Value.exists_text_iff _).1 ⟨name, written⟩)

theorem readsAs_of_ofValue (json : e.isJson = true) (made : ofValue e = .ok i)
    (amount : i.price.amount? = some a) : ReadsAs e i := by
  obtain ⟨fields, price, name, rfl, read, written, rfl⟩ := (ofValue_eq_ok_iff json).1 made
  exact .record written (isPrice_iff.2 ⟨price, read, amount⟩) amount

end Item

namespace Sale

theorem exists_sumFrom_of_addable {sum : Amount} {prices : List Value} {amounts : List Amount}
    (priced : List.Forall₂ (fun price a => price.amount? = some a) prices amounts)
    (addable : sum.Addable amounts) :
    ∃ total, sumFrom sum prices = .ok total ∧ ∃ text, total.fixedText = .ok text := by
  induction priced generalizing sum with
  | nil =>
    obtain ⟨x, converted⟩ := addable.exists_toBinary64
    exact ⟨sum, rfl, _, map_eq_ok.2 ⟨x, converted, rfl⟩⟩
  | @cons price a prices amounts here _ ih =>
    obtain ⟨next, added, addable⟩ := addable.exists_add
    obtain ⟨total, summed, written⟩ := ih addable
    refine ⟨total, ?_, written⟩
    rw [sumFrom, addend, here]
    exact bind_eq_ok.2 ⟨a, rfl, bind_eq_ok.2 ⟨next, added, summed⟩⟩

variable {identifier : Value} {items : List Value} {sale : Sale}

theorem ofItems_eq_ok_iff :
    ofItems identifier (.list items) = .ok sale ↔
      List.Forall₂ (fun e i => Item.ofValue e = .ok i) items sale.items ∧
        sale.identifier = identifier ∧
        ∃ total text, sum (sale.items.map Item.price) = .ok total ∧ total.fixedText = .ok text ∧
          sale.total = .ofText text := by
  rw [ofItems_list]
  simp only [bind_eq_ok, pure_eq_ok, mapM_eq_ok_iff]
  constructor
  · rintro ⟨read, all_read, text, ⟨total, summed, written⟩, rfl⟩
    exact ⟨all_read, rfl, total, text, summed, written, rfl⟩
  · rintro ⟨all_read, rfl, total, text, summed, written, total_eq⟩
    refine ⟨_, all_read, text, ⟨total, summed, written⟩, ?_⟩
    rw [← total_eq]

theorem exists_ofItems_of_describes {amounts : List Amount} (json : ∀ e ∈ items, e.isJson = true)
    (described : List.Forall₂ Item.Describes items amounts)
    (addable : (Amount.whole 0).Addable amounts) :
    ∃ sale, ofItems identifier (.list items) = .ok sale := by
  have read : ∃ read : List Item, List.Forall₂ (fun e i => Item.ofValue e = .ok i) items read ∧
      List.Forall₂ (fun price a => price.amount? = some a) (read.map Item.price) amounts := by
    -- The bounds are on the sums of the whole list; the items are read one by one.
    clear addable
    induction described with
    | nil => exact ⟨[], .nil, .nil⟩
    | @cons e a items amounts here _ ih =>
      obtain ⟨i, made, amount⟩ := (Item.describes_iff (json e List.mem_cons_self)).1 here
      obtain ⟨read, all_read, priced⟩ := ih fun e mem => json e (List.mem_cons_of_mem _ mem)
      exact ⟨i :: read, .cons made all_read, .cons amount priced⟩
  obtain ⟨read, all_read, priced⟩ := read
  obtain ⟨total, summed, text, written⟩ := exists_sumFrom_of_addable priced addable
  exact ⟨⟨identifier, read, .ofText text⟩,
    ofItems_eq_ok_iff.2 ⟨all_read, rfl, total, text, summed, written, rfl⟩⟩

theorem readsAs_of_ofItems (json : ∀ e ∈ items, e.isJson = true)
    (made : ofItems identifier (.list items) = .ok sale) :
    List.Forall₂ (fun e i => ∃ a, Item.Describes e a ∧ Item.ReadsAs e i) items sale.items := by
  obtain ⟨all_read, -, total, -, summed, -⟩ := ofItems_eq_ok_iff.1 made
  have priced : ∀ i ∈ sale.items, ∃ a, i.price.amount? = some a :=
    fun i mem => amount?_of_sumFrom summed (List.mem_map_of_mem mem)
  have paired := (List.forall₂_and_left _ _).2 ⟨priced, all_read.flip⟩
  refine ((List.forall₂_and_left _ _).2 ⟨json, paired.flip⟩).imp ?_
  rintro e i ⟨json, ⟨a, amount⟩, made⟩
  exact ⟨a, (Item.describes_iff json).2 ⟨i, made, amount⟩, Item.readsAs_of_ofValue json made amount⟩

end Sale

/-! ## Jobs -/

namespace Job

/-- The elements of the items in a record. There are none if the items are missing or not given. -/
inductive Lists (fields : List (CodePoints × Value)) : List Value → Prop
  | none (absent : ∀ v, Value.field? "items".toList fields = some v → v.isGiven = false) :
      Lists fields []
  | list {items : List Value} (found : Value.field? "items".toList fields = some (.list items)) :
      Lists fields items

inductive Identifies (fields : List (CodePoints × Value)) : Option Text → CodePoints → Prop
  | override (t : Text) : Identifies fields (some t) t.toCodePoints
  | own {v : Value} {t : CodePoints} (found : Value.field? "identifier".toList fields = some v)
      (given : v.isGiven = true) (text : v.text = .ok t) : Identifies fields none t
  | none (absent : ∀ v, Value.field? "identifier".toList fields = some v → v.isGiven = false) :
      Identifies fields none []

/-- A description that a job comes of, if the prices are not too large to be added. -/
inductive IsWellFormed (identifier : Option Text) : Value → Prop
  | record {fields : List (CodePoints × Value)} {template : CodePoints} {items : List Value}
      (template_eq : Value.field? "template".toList fields = some (.str template))
      (listed : Lists fields items)
      (described : ∀ e ∈ items, ∃ a, Item.Describes e a)
      (named : identifier = none →
        ∀ v, Value.field? "identifier".toList fields = some v → v.isWritable = true) :
      IsWellFormed identifier (.object fields)

/-- The prices of a description are small enough: so is each whole number among them, and so is the
sum of those that it begins with. -/
def HasSmallPrices (v : Value) : Prop :=
  ∀ fields items amounts, v = .object fields → Lists fields items →
    List.Forall₂ Item.Describes items amounts → (Amount.whole 0).Addable amounts

variable {fields : List (CodePoints × Value)} {identifier : Option Text} {job : Job}

theorem lists_iff {items : List Value} :
    Lists fields items ↔ Value.fieldOr "items".toList (.list []) fields = .list items := by
  constructor
  · rintro (absent | found)
    · exact Value.fieldOr_of_absent absent
    · cases items with
      | nil => exact Value.fieldOr_of_absent fun v other => by cases found.symm.trans other; rfl
      | cons e rest => exact Value.fieldOr_of_given found rfl
  · intro items_eq
    rcases Value.given_or_absent "items".toList fields with ⟨v, found, given⟩ | absent
    · rw [Value.fieldOr_of_given found given] at items_eq
      exact .list (items_eq ▸ found)
    · rw [Value.fieldOr_of_absent absent] at items_eq
      cases items_eq
      exact .none absent

theorem Lists.isJson {items : List Value} (listed : Lists fields items)
    (json : (Value.object fields).isJson = true) : ∀ e ∈ items, e.isJson = true :=
  isJson_of_items json (lists_iff.1 listed)

theorem identifies_iff {t : CodePoints} :
    Identifies fields identifier t ↔ identify identifier fields = .ok t := by
  cases identifier with
  | some given =>
    constructor
    · rintro ⟨⟩
      rfl
    · rintro ⟨⟩
      exact .override given
  | none =>
    rw [identify]
    rcases Value.given_or_absent "identifier".toList fields with ⟨v, found, given⟩ | absent
    · rw [Value.fieldOr_of_given found given]
      constructor
      · rintro (_ | ⟨other, _, text⟩ | absent)
        · cases found.symm.trans other
          exact text
        · cases given.symm.trans (absent v found)
      · exact .own found given
    · rw [Value.fieldOr_of_absent absent]
      constructor
      · rintro (_ | ⟨found, given, _⟩ | _)
        · cases given.symm.trans (absent _ found)
        · rfl
      · intro text
        cases text
        exact .none absent

theorem hasSmallPrices_of_addable {items : List Value} {amounts : List Amount}
    (listed : Lists fields items) (described : List.Forall₂ Item.Describes items amounts)
    (addable : (Amount.whole 0).Addable amounts) : HasSmallPrices (.object fields) := by
  rintro _ others more ⟨⟩ listed_again described_again
  cases (lists_iff.1 listed).symm.trans (lists_iff.1 listed_again)
  have unique : Relator.RightUnique Item.Describes := fun _ _ _ => Item.Describes.unique
  rwa [List.right_unique_forall₂' unique described_again described]

theorem exists_identifies_iff :
    (∃ t, Identifies fields identifier t) ↔
      (identifier = none →
        ∀ v, Value.field? "identifier".toList fields = some v → v.isWritable = true) := by
  cases identifier with
  | some t => exact ⟨fun _ => nofun, fun _ => ⟨_, .override t⟩⟩
  | none =>
    simp only [identifies_iff, identify, Value.exists_text_iff, true_imp_iff]
    rcases Value.given_or_absent "identifier".toList fields with ⟨v, found, given⟩ | absent
    · rw [Value.fieldOr_of_given found given, found]
      exact ⟨fun writable w same => Option.some.inj same ▸ writable, fun all => all v rfl⟩
    · rw [Value.fieldOr_of_absent absent]
      exact ⟨fun _ v found => Value.isWritable_of_not_given (absent v found), fun _ => rfl⟩

theorem ofValue_eq_ok_iff_lists {v : Value} :
    ofValue v identifier = .ok job ↔ ∃ fields items t, v = .object fields ∧
      Value.field? "template".toList fields = some (.str job.template) ∧ Lists fields items ∧
      Identifies fields identifier t ∧ Sale.ofItems (.str t) (.list items) = .ok job.sale := by
  simp only [ofValue_eq_ok_iff, lists_iff, identifies_iff]

/-- From a description whose prices are small enough a job comes if and only if the description is
well-formed. The job has the template as it is, an item for each element of the list in order, and
the identifier that overrides the one described, or else that one. -/
theorem exists_ofValue_iff {v : Value} (json : v.isJson = true) (identifier : Option Text)
    (small : HasSmallPrices v) :
    ((∃ job, ofValue v identifier = .ok job) ↔ IsWellFormed identifier v) ∧
      ∀ job, ofValue v identifier = .ok job → ∃ fields items t, v = .object fields ∧
        Value.field? "template".toList fields = some (.str job.template) ∧ Lists fields items ∧
        List.Forall₂ Item.ReadsAs items job.sale.items ∧
        Identifies fields identifier t ∧ job.sale.identifier = .str t := by
  refine ⟨⟨?_, ?_⟩, fun job accepted => ?_⟩
  · rintro ⟨job, accepted⟩
    obtain ⟨fields, items, t, rfl, template_eq, listed, identified, made⟩ :=
      ofValue_eq_ok_iff_lists.1 accepted
    have described := Sale.readsAs_of_ofItems (listed.isJson json) made
    refine .record template_eq listed (fun e mem => ?_) (exists_identifies_iff.1 ⟨t, identified⟩)
    obtain ⟨i, a, describes, -⟩ := exists_forall₂_iff.1 ⟨_, described⟩ e mem
    exact ⟨a, describes⟩
  · rintro @⟨fields, template, items, template_eq, listed, described, named⟩
    obtain ⟨amounts, described⟩ := exists_forall₂_iff.2 described
    obtain ⟨t, identified⟩ := exists_identifies_iff.2 named
    obtain ⟨sale, made⟩ : ∃ sale, Sale.ofItems (.str t) (.list items) = .ok sale :=
      Sale.exists_ofItems_of_describes (listed.isJson json) described
        (small _ _ _ rfl listed described)
    exact ⟨⟨template, sale⟩, ofValue_eq_ok_iff_lists.2
      ⟨fields, items, t, rfl, template_eq, listed, identified, made⟩⟩
  · obtain ⟨fields, items, t, rfl, template_eq, listed, identified, made⟩ :=
      ofValue_eq_ok_iff_lists.1 accepted
    have read := Sale.readsAs_of_ofItems (listed.isJson json) made
    exact ⟨fields, items, t, rfl, template_eq, listed, read.imp fun _ _ ⟨_, _, reads⟩ => reads,
      identified, (Sale.ofItems_eq_ok_iff.1 made).2.1⟩

def sketch (template : Text) (items : Value) : List (CodePoints × Value) :=
  [(Text.toCodePoints "template".toList, .ofText template),
    (Text.toCodePoints "items".toList, items)]

def oddments : List Value :=
  [.object [(Text.toCodePoints "price".toList, .bool true)],
    .object [(Text.toCodePoints "name".toList, .list [.null]),
      (Text.toCodePoints "price".toList, .ofText " 2.5_0 ".toList)]]

theorem exists_ofValue_iff_oddments :
    let fields := sketch "x".toList (.list oddments)
    (Value.object fields).isJson = true ∧ HasSmallPrices (.object fields) ∧
      IsWellFormed none (.object fields) ∧
      ∃ job, ofValue (.object fields) none = .ok job ∧ job.sale.identifier = .str [] ∧
        job.sale.items.length = 2 := by
  intro fields
  have json : (Value.object fields).isJson = true := by decide
  have listed : Lists fields oddments := .list rfl
  have read : Numeral.readBinary64 " 2.5_0 ".toList = some (Binary64.ofRatio false 5 2) := by
    decide +kernel
  have described : List.Forall₂ Item.Describes oddments
      [.whole 1, .real (Binary64.ofRatio false 5 2)] :=
    .cons (.record (.bool true) rfl) (.cons (.record (.numeral read) rfl) .nil)
  have addable : (Amount.whole 0).Addable [.whole 1, .real (Binary64.ofRatio false 5 2)] := by
    constructor
    · intro n mem
      have one : n = 1 := by simpa using mem
      subst one
      decide +kernel
    · rintro _ ⟨⟩ run rest split
      rcases run with _ | ⟨n, _ | ⟨m, run⟩⟩
      · decide +kernel
      · cases split
        decide +kernel
      · cases split
  have small : HasSmallPrices (.object fields) := hasSmallPrices_of_addable listed described addable
  have formed : IsWellFormed none (.object fields) :=
    .record rfl listed (exists_forall₂_iff.1 ⟨_, described⟩) fun _ => nofun
  refine ⟨json, small, formed, ?_⟩
  have accepted := exists_ofValue_iff json none small
  obtain ⟨job, made⟩ := accepted.1.2 formed
  obtain ⟨_, items, t, ⟨⟩, -, listed_again, read, identified, named⟩ := accepted.2 job made
  cases (lists_iff.1 listed).symm.trans (lists_iff.1 listed_again)
  refine ⟨job, made, ?_, read.length_eq.symm⟩
  cases identifies_iff.1 identified
  exact named

/-- A text that is empty passes for a list without elements. -/
theorem empty_text_listed :
    let fields := sketch "x".toList (.str [])
    (Value.object fields).isJson = true ∧ HasSmallPrices (.object fields) ∧
      Value.field? "items".toList fields = some (.str []) ∧
      ∃ job, ofValue (.object fields) none = .ok job := by
  intro fields
  have listed : Lists fields [] := .none fun v found => by cases found; rfl
  have addable : (Amount.whole 0).Addable [] := by
    refine ⟨nofun, ?_⟩
    rintro _ ⟨⟩ run rest split
    obtain ⟨none, -⟩ := List.append_eq_nil_iff.1 split.symm
    rw [List.map_eq_nil_iff.1 none]
    decide +kernel
  exact ⟨rfl, hasSmallPrices_of_addable listed .nil addable, rfl, _, rfl⟩

end Job

end ReceiptPress

import Mathlib.Data.List.Permutation
import ReceiptPress.Proofs.Faults
import ReceiptPress.Proofs.Synthesis.Passes
import ReceiptPress.Proofs.Tag.Filling

namespace ReceiptPress.Synthesis

variable {sale : Sale} {d : Tag.Dictionary}

/-! ## Texts of data tags -/

theorem dataText_of_str {e : Tag.Entry} {name : Text} {v : CodePoints}
    (field : e.field = some name) (found : sale.field? name = some (.str v)) :
    dataText sale e = .ok (if v = [] then e.fallback else v.toText) := by
  rw [dataText, field, Option.bind_some, found]
  cases v with
  | nil => rfl
  | cons c cs => rfl

theorem dataText_of_no_field {e : Tag.Entry} (none : e.field = none) :
    dataText sale e = .ok e.fallback := by
  rw [dataText, none, Option.bind_none]

/-! ## One entry after another -/

theorem substituteAll_cons {e : Tag.Entry} {v : Text} (text : dataText sale e = .ok v)
    (rest : List Tag.Entry) (line : Text) :
    substituteAll sale (e :: rest) line = substituteAll sale rest (Text.replace e.tag v line) := by
  rw [substituteAll]
  by_cases present : Text.occurs e.tag line = true
  · rw [if_pos present, text]
    rfl
  · rw [Text.occurs_iff_infix] at present
    rw [if_neg (mt Text.occurs_iff_infix.1 present), Tag.replace_of_absent present]

theorem substitute_pair {first second : Tag.Entry} {v w : Text}
    (order : d.ofCategories [.data] = [first, second]) (first_text : dataText sale first = .ok v)
    (second_text : dataText sale second = .ok w) (line : Text) :
    substitute sale d line =
      .ok (Text.replace second.tag w (Text.replace first.tag v line)) := by
  rw [substitute, order, substituteAll_cons first_text, substituteAll_cons second_text]
  rfl

theorem exists_substitute (readable : ∀ e ∈ d.ofCategories [.data], ∃ v, dataText sale e = .ok v)
    (line : Text) : ∃ u, substitute sale d line = .ok u := by
  unfold substitute
  generalize d.ofCategories [.data] = entries at readable ⊢
  induction entries generalizing line with
  | nil => exact ⟨line, rfl⟩
  | cons e rest ih =>
    obtain ⟨v, text⟩ := readable e List.mem_cons_self
    rw [substituteAll_cons text]
    exact ih _ fun x mem => readable x (List.mem_cons_of_mem e mem)

def PutsSafe (sale : Sale) (entries : List Tag.Entry) (line : Text) : Prop :=
  ∀ e ∈ entries, Text.occurs e.tag line = true → ∀ v ∈ (dataText sale e).toOption, Tag.Safe v

instance (sale : Sale) (entries : List Tag.Entry) (line : Text) :
    Decidable (PutsSafe sale entries line) :=
  inferInstanceAs (Decidable (∀ e ∈ entries, Text.occurs e.tag line = true →
    ∀ v ∈ (dataText sale e).toOption, Tag.Safe v))

theorem words_substituteAll {entries : List Tag.Entry} {line u : Text}
    (tags : ∀ e ∈ entries, Tag.isTag e.tag = true) (safe : PutsSafe sale entries line)
    (substituted : substituteAll sale entries line = .ok u) :
    Tag.words u = (Tag.words line).filter (· ∉ entries.map Tag.Entry.tag) := by
  induction entries generalizing line with
  | nil =>
    cases substituted
    exact (List.filter_eq_self.2 fun w _ => by simp).symm
  | cons e rest ih =>
    have tag := tags e List.mem_cons_self
    have rest_tags : ∀ x ∈ rest, Tag.isTag x.tag = true :=
      fun x mem => tags x (List.mem_cons_of_mem e mem)
    rw [substituteAll] at substituted
    by_cases present : Text.occurs e.tag line = true
    · rw [if_pos present] at substituted
      obtain ⟨v, text, behind⟩ := bind_eq_ok.1 substituted
      have v_safe : Tag.Safe v := safe e List.mem_cons_self present v (by rw [text]; rfl)
      have left := Tag.words_replace_of_safe tag v_safe line
      -- Safe text brings no tag with it, so what the later entries find was there before.
      have rest_safe : PutsSafe sale rest (Text.replace e.tag v line) := by
        intro x mem found
        refine safe x (List.mem_cons_of_mem e mem) ?_
        rw [Text.occurs_iff_infix, ← Tag.mem_words_iff (rest_tags x mem)] at found ⊢
        rw [left] at found
        exact (List.mem_filter.1 found).1
      rw [ih rest_tags rest_safe behind, left, List.filter_filter]
      refine List.filter_congr fun w _ => ?_
      by_cases here : w = e.tag <;> simp [here]
    · rw [if_neg present] at substituted
      have absent : e.tag ∉ Tag.words line := by
        rw [Tag.mem_words_iff tag, ← Text.occurs_iff_infix]
        exact present
      rw [ih rest_tags (fun x mem => safe x (List.mem_cons_of_mem e mem)) substituted]
      refine List.filter_congr fun w mem => ?_
      have other : w ≠ e.tag := fun same => absent (same ▸ mem)
      simp [other]

theorem words_substitute {line u : Text} (safe : PutsSafe sale (d.ofCategories [.data]) line)
    (substituted : substitute sale d line = .ok u) :
    Tag.words u = (Tag.words line).filter (· ∉ (d.ofCategories [.data]).map Tag.Entry.tag) :=
  words_substituteAll (fun e mem => (d.wellFormed e (List.mem_filter.1 mem).1).isTag) safe
    substituted

/-! ## The standard data tags -/

def storeEntry : Tag.Entry := .data "STORE_ID" "Identifier" "identifier" "UNDEFINED"

def totalEntry : Tag.Entry := .data "TOTAL" "Total" "total" "0.00"

theorem dataEntries_of_perm (reordered : d.entries.Perm Tag.Entry.standard) :
    d.ofCategories [.data] = [storeEntry, totalEntry] ∨
      d.ofCategories [.data] = [totalEntry, storeEntry] := by
  have both : (d.ofCategories [.data]).Perm [storeEntry, totalEntry] :=
    reordered.filter fun e : Tag.Entry => [Tag.Category.data].contains e.category
  exact List.perm_pair.1 both

/-- The identifier is put in place of its tags first, and then the total in place of its own, those
among them that the identifier brought in or completed. So all places are filled in at once exactly
if the first step makes no more tags of the total than there are in the line, or the total is its
own tag; in particular if the identifier is safe text. If neither text makes tags of the other, the
order of the entries makes no difference. -/
theorem substitute_standard {identifier total : CodePoints}
    (identified : sale.identifier = .str identifier) (totalled : sale.total = .str total)
    (line : Text) :
    let storeTag := Tag.named "STORE_ID"
    let totalTag := Tag.named "TOTAL"
    let store := if identifier = [] then "UNDEFINED".toList else identifier.toText
    let sum := if total = [] then "0.00".toList else total.toText
    let storeFilled := Tag.fill (fun w => if w = storeTag then some store else none) line
    let sumFilled := Tag.fill (fun w => if w = totalTag then some sum else none) line
    let filled := Tag.fill
      (fun w => if w = storeTag then some store else if w = totalTag then some sum else none) line
    (d.entries = Tag.Entry.standard →
      substitute sale d line =
          .ok (Tag.fill (fun w => if w = totalTag then some sum else none) storeFilled) ∧
        (substitute sale d line = .ok filled ↔
          sum = totalTag ∨
            (Tag.words storeFilled).count totalTag = (Tag.words line).count totalTag)) ∧
      (d.entries.Perm Tag.Entry.standard →
        (Tag.words storeFilled).count totalTag = (Tag.words line).count totalTag →
        (Tag.words sumFilled).count storeTag = (Tag.words line).count storeTag →
        substitute sale d line = .ok filled) ∧
      (Tag.Safe store →
        (Tag.words storeFilled).count totalTag = (Tag.words line).count totalTag) ∧
      (Tag.Safe sum →
        (Tag.words sumFilled).count storeTag = (Tag.words line).count storeTag) := by
  intro storeTag totalTag store sum storeFilled sumFilled filled
  have store_text : dataText sale storeEntry = .ok store :=
    dataText_of_str rfl (congrArg some identified)
  have sum_text : dataText sale totalEntry = .ok sum :=
    dataText_of_str rfl (congrArg some totalled)
  have store_isTag : Tag.isTag storeTag = true := by decide
  have total_isTag : Tag.isTag totalTag = true := by decide
  have apart : storeTag ≠ totalTag := by decide
  have store_first : Text.replace storeTag store line = storeFilled :=
    Tag.replace_eq_fill store_isTag store line
  have sum_first : Text.replace totalTag sum line = sumFilled :=
    Tag.replace_eq_fill total_isTag sum line
  have in_order (order : d.ofCategories [.data] = [storeEntry, totalEntry]) :
      substitute sale d line = .ok (Text.replace totalTag sum storeFilled) :=
    store_first ▸ substitute_pair order store_text sum_text line
  have reversed (order : d.ofCategories [.data] = [totalEntry, storeEntry]) :
      substitute sale d line = .ok (Text.replace storeTag store sumFilled) :=
    sum_first ▸ substitute_pair order sum_text store_text line
  have at_once : Text.replace totalTag sum storeFilled = filled ↔ sum = totalTag ∨
      (Tag.words storeFilled).count totalTag = (Tag.words line).count totalTag := by
    have either_order : filled = Tag.fill (Tag.also (Tag.also (fun _ => none) storeTag store)
        totalTag sum) line :=
      Tag.fill_also_comm apart.symm (fun _ => none) sum store line
    rw [either_order]
    exact Tag.replace_fill_iff total_isTag (by simp [apart.symm]) sum line
  refine ⟨fun standard => ?_, fun reordered same_totals same_stores => ?_, fun safe => ?_,
    fun safe => ?_⟩
  · have in_order := in_order (by rw [Tag.Dictionary.ofCategories, standard]; rfl)
    simp only [in_order, Except.ok.injEq]
    exact ⟨Tag.replace_eq_fill total_isTag sum storeFilled, at_once⟩
  · rcases dataEntries_of_perm reordered with order | order
    · rw [in_order order, at_once.2 (.inr same_totals)]
    · rw [reversed order]
      exact congrArg _
        (Tag.replace_fill_of_count_eq store_isTag (by simp [apart]) same_stores)
  · rw [← store_first]
    exact Tag.count_words_replace_of_safe store_isTag safe apart.symm line
  · rw [← sum_first]
    exact Tag.count_words_replace_of_safe total_isTag safe apart line

def reversedStandard : Tag.Dictionary where
  entries := Tag.Entry.standard.reverse
  wellFormed := by decide
  distinct := by decide
  kept_eq := by simp

theorem substitute_standard_shop :
    let sale := (Setting.small (.ofList [])).sale
    let line := "{{STORE_ID}} {{{TOTAL}}}".toList
    sale.identifier = .str (Text.toCodePoints "Corner Shop".toList) ∧
      sale.total = .str (Text.toCodePoints "3.00".toList) ∧
      reversedStandard.entries.Perm Tag.Entry.standard ∧
      substitute sale .standard line = .ok "Corner Shop {3.00}".toList ∧
      substitute sale reversedStandard line = .ok "Corner Shop {3.00}".toList := by
  intro sale line
  have identified : sale.identifier = .str (Text.toCodePoints "Corner Shop".toList) := rfl
  have totalled : sale.total = .str (Text.toCodePoints "3.00".toList) := rfl
  have reordered : reversedStandard.entries.Perm Tag.Entry.standard := List.reverse_perm _
  obtain ⟨in_order, any_order, store_safe, sum_safe⟩ :=
    substitute_standard (d := .standard) identified totalled line
  obtain ⟨-, reversed, -, -⟩ :=
    substitute_standard (d := reversedStandard) identified totalled line
  have totals := store_safe (by decide)
  have stores := sum_safe (by decide)
  refine ⟨identified, totalled, reordered, ?_, ?_⟩
  · exact ((in_order rfl).2.2 (.inr totals)).trans (by decide +kernel)
  · exact (reversed reordered totals stores).trans (by decide +kernel)

/-- An identifier that is a data tag itself is exchanged in turn, or not, as the entries stand. -/
theorem value_exchanged_again :
    let sale : Sale :=
      { identifier := .ofText "{{TOTAL}}".toList, total := .ofText "5.00".toList }
    let line := "{{STORE_ID}}".toList
    let filled := Tag.fill (fun w =>
      if w = Tag.named "STORE_ID" then some "{{TOTAL}}".toList
      else if w = Tag.named "TOTAL" then some "5.00".toList else none) line
    filled = "{{TOTAL}}".toList ∧ substitute sale .standard line = .ok "5.00".toList ∧
      substitute sale reversedStandard line = .ok "{{TOTAL}}".toList := by
  decide +kernel

end ReceiptPress.Synthesis

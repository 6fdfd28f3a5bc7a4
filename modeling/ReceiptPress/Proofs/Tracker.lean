import ReceiptPress.Proofs.Tag.Lookup
import ReceiptPress.Tracker

namespace ReceiptPress

namespace TypeAttribute

theorem ofName?_eq_some_iff {name : Text} {a : TypeAttribute} :
    ofName? name = some a ↔ a.name.toList = name := by
  constructor
  · intro found
    simpa using List.find?_some found
  · rintro rfl
    cases a <;> decide

def isSwitchedBy (a : TypeAttribute) (e : Tag.Entry) : Bool :=
  e.category = .toggle && a.isNamedBy e

theorem isNamedBy_iff {a : TypeAttribute} {e : Tag.Entry} :
    a.isNamedBy e = true ↔ e.attributeName.bind ofName? = some a := by
  simp only [isNamedBy, decide_eq_true_eq, Option.bind_eq_some_iff, ofName?_eq_some_iff]
  exact ⟨fun named => ⟨_, named, rfl⟩, fun ⟨_, named, same⟩ => same ▸ named⟩

end TypeAttribute

namespace Tracker

variable {t u : Tracker} {d : Tag.Dictionary}

theorem isOn_switch (t : Tracker) (a : TypeAttribute) (on : Bool) (b : TypeAttribute) :
    (t.switch a on).isOn b = if b = a then on else t.isOn b := by
  cases a <;> cases b <;> rfl

theorem limit_congr (same : t.isOn = u.isOn) (p : Profile) : t.limit p = u.limit p := by
  have width : t.doubleWidth = u.doubleWidth := congrFun same .doubleWidth
  rw [limit, limit, width]

theorem leaks_congr (same : t.isOn = u.isOn) : t.leaks d = u.leaks d := by
  rw [leaks, leaks, same]

theorem isOn_initial (a : TypeAttribute) : ({} : Tracker).isOn a = false := by
  cases a <;> rfl

theorem leaks_eq_nil_iff : t.leaks d = [] ↔ t.isOn = ({} : Tracker).isOn := by
  rw [leaks, List.map_eq_nil_iff, List.filter_eq_nil_iff]
  constructor
  · intro off
    funext a
    have among : a ∈ TypeAttribute.all := by cases a <;> decide
    rw [isOn_initial, eq_false_of_ne_true (off a among)]
  · intro same a _
    rw [same, isOn_initial]
    exact Bool.false_ne_true

/-- The entry of the last tag that switches an attribute, if there is one. -/
def lastSwitch (d : Tag.Dictionary) (a : TypeAttribute) (tags : List Text) : Option Tag.Entry :=
  ((tags.filterMap d.get?).filter a.isSwitchedBy).getLast?

theorem isOn_applyEntry_eq (t : Tracker) (e : Tag.Entry) (a : TypeAttribute) :
    (t.applyEntry e).isOn a = if a.isSwitchedBy e then e.enabled else t.isOn a := by
  unfold applyEntry TypeAttribute.isSwitchedBy
  cases e.category with
  | toggle =>
    simp only [decide_true, Bool.true_and, TypeAttribute.isNamedBy_iff]
    cases e.attributeName.bind TypeAttribute.ofName? with
    | none => rfl
    | some b => simp only [isOn_switch, Option.some.injEq, eq_comm]
  | align =>
    cases e.alignment with
    | none => rfl
    | some _ => cases a <;> rfl
  | block => rfl
  | data => rfl

theorem isOn_apply_eq (t : Tracker) (d : Tag.Dictionary) (tags : List Text) (a : TypeAttribute) :
    (t.apply d tags).isOn a = ((lastSwitch d a tags).map Tag.Entry.enabled).getD (t.isOn a) := by
  induction tags generalizing t with
  | nil => rfl
  | cons tag tags ih =>
    refine (ih (t.applyTag d tag)).trans ?_
    unfold applyTag lastSwitch
    cases found : d.get? tag with
    | none => rw [List.filterMap_cons_none found]
    | some e =>
      dsimp only
      rw [List.filterMap_cons_some found, List.filter_cons, isOn_applyEntry_eq]
      split
      · rw [List.getLast?_cons]
        cases ((tags.filterMap d.get?).filter a.isSwitchedBy).getLast? <;> rfl
      · rfl

theorem isOn_apply (same : t.isOn = u.isOn) (tags : List Text) :
    (t.apply d tags).isOn = (u.apply d tags).isOn := by
  funext a
  rw [isOn_apply_eq, isOn_apply_eq, same]

theorem isOn_apply_initial (d : Tag.Dictionary) (tags : List Text) (a : TypeAttribute) :
    (({} : Tracker).apply d tags).isOn a = (lastSwitch d a tags).any Tag.Entry.enabled := by
  rw [isOn_apply_eq, isOn_initial]
  cases lastSwitch d a tags <;> rfl

theorem mem_of_lastSwitch {a : TypeAttribute} {tags : List Text} {e : Tag.Entry}
    (last : lastSwitch d a tags = some e) :
    e ∈ d.ofCategories [.toggle] ∧ a.isNamedBy e = true := by
  obtain ⟨applied, switched⟩ := List.mem_filter.1 (List.mem_of_getLast? last)
  obtain ⟨tag, -, found⟩ := List.mem_filterMap.1 applied
  obtain ⟨toggle, named⟩ := Bool.and_eq_true_iff.1 switched
  refine ⟨List.mem_filter.2 ⟨(Tag.Dictionary.get?_eq_some_iff.1 found).1, ?_⟩, named⟩
  simpa using toggle

theorem switchName_eq_of_lastSwitch {a : TypeAttribute} {tags : List Text}
    (on : (lastSwitch d a tags).any Tag.Entry.enabled = true) :
    ∃ before e after, d.ofCategories [.toggle] = before ++ e :: after ∧
      (a.isNamedBy e && e.enabled) = true ∧
      (∀ x ∈ before, (a.isNamedBy x && x.enabled) = false) ∧ switchName d a = e.tag := by
  obtain ⟨last, last_eq, enabled⟩ := (Option.any_eq_true _ _).1 on
  obtain ⟨among, named⟩ := mem_of_lastSwitch last_eq
  have exists_first : ((d.ofCategories [.toggle]).find? fun e =>
      a.isNamedBy e && e.enabled).isSome = true :=
    List.find?_isSome.2 ⟨last, among, Bool.and_eq_true_iff.2 ⟨named, enabled⟩⟩
  obtain ⟨e, first⟩ := Option.isSome_iff_exists.1 exists_first
  obtain ⟨switches, before, after, entries_eq, none_before⟩ :=
    List.find?_eq_some_iff_append.1 first
  refine ⟨before, e, after, entries_eq, switches, fun x mem => ?_, ?_⟩
  · simpa only [Bool.not_eq_true'] using none_before x mem
  · rw [switchName, first]

end Tracker

end ReceiptPress

import ReceiptPress.Proofs.Settings

namespace ReceiptPress

namespace Value

mutual

def hasShortNumbers : Value → Bool
  | int n => decide (Numeral.IsShort n)
  | list elements => haveShortNumbers elements
  | object fields => fieldsHaveShortNumbers fields
  | item name price => hasShortNumbers name && hasShortNumbers price
  | _ => true

def haveShortNumbers : List Value → Bool
  | [] => true
  | v :: rest => hasShortNumbers v && haveShortNumbers rest

def fieldsHaveShortNumbers : List (CodePoints × Value) → Bool
  | [] => true
  | (_, v) :: rest => hasShortNumbers v && fieldsHaveShortNumbers rest

end

mutual

/-- How many calls are in progress where a value is written deepest. -/
def calls : Value → Nat
  | list elements => callsOfAll elements + 1
  | object fields => callsOfFields fields + 1
  | item name price => max (calls name) (calls price) + 3
  | _ => 1

def callsOfAll : List Value → Nat
  | [] => 0
  | v :: rest => max (calls v) (callsOfAll rest)

def callsOfFields : List (CodePoints × Value) → Nat
  | [] => 0
  | (_, v) :: rest => max (calls v) (callsOfFields rest)

end

def isWritable (v : Value) : Bool := v.hasShortNumbers && decide (v.calls ≤ writingRoom)

theorem calls_pos (v : Value) : 0 < v.calls := by
  cases v <;> simp [calls]

/-- What an attempt to write in some room says of the numbers in a value and of the calls that it
takes. -/
inductive Tells {α : Type} (short : Bool) (calls room : Nat) : Except Fault α → Prop
  | written {a : α} (all_short : short = true) (enough : calls ≤ room) :
      Tells short calls room (.ok a)
  | tooLong (long : short = false) : Tells short calls room (.error .tooLongToWrite)
  | tooDeep (few : room < calls) : Tells short calls room (.error .tooDeepToWrite)

section

variable {α β γ : Type} {short also : Bool} {calls others room : Nat}

theorem Tells.resize {m : Except Fault α} {more room' : Nat} (tells : Tells short calls room m)
    (fits : more ≤ room' ↔ calls ≤ room) : Tells short more room' m := by
  cases tells with
  | written all_short enough => exact .written all_short (fits.2 enough)
  | tooLong long => exact .tooLong long
  | tooDeep few =>
    exact .tooDeep (Nat.lt_of_not_le fun enough => Nat.not_le_of_lt few (fits.1 enough))

theorem Tells.map {m : Except Fault α} {k : α → β} (tells : Tells short calls room m) :
    Tells short calls room (m >>= fun a => pure (k a)) := by
  cases tells with
  | written all_short enough => exact .written all_short enough
  | tooLong long => exact .tooLong long
  | tooDeep few => exact .tooDeep few

theorem Tells.both {m : Except Fault α} {n : Except Fault β} {k : α → β → γ}
    (first : Tells short calls room m) (second : Tells also others room n) :
    Tells (short && also) (max calls others) room
      (m >>= fun a => n >>= fun b => pure (k a b)) := by
  cases first with
  | written all_short enough =>
    cases second with
    | written also_short also_enough =>
      exact .written (Bool.and_eq_true_iff.2 ⟨all_short, also_short⟩)
        (Nat.max_le.2 ⟨enough, also_enough⟩)
    | tooLong long => exact .tooLong (by rw [long, Bool.and_false])
    | tooDeep few => exact .tooDeep (Nat.lt_of_lt_of_le few (Nat.le_max_right calls others))
  | tooLong long => exact .tooLong (by rw [long, Bool.false_and])
  | tooDeep few => exact .tooDeep (Nat.lt_of_lt_of_le few (Nat.le_max_left calls others))

end

theorem tells_intText (n : Int) (room : Nat) :
    Tells (hasShortNumbers (.int n)) 1 (room + 1) (intText n) := by
  rw [intText]
  by_cases long : Nat.pow 10 Numeral.digitLimit ≤ n.natAbs
  · rw [if_pos long]
    exact .tooLong (decide_eq_false (Nat.not_lt_of_le long))
  · rw [if_neg long]
    exact .written (decide_eq_true (Nat.lt_of_not_le long)) (Nat.succ_le_succ (Nat.zero_le room))

mutual

theorem tells_literalWithin (room : Nat) (v : Value) :
    Tells v.hasShortNumbers v.calls room (literalWithin room v) := by
  cases room with
  | zero =>
    rw [literalWithin]
    exact .tooDeep v.calls_pos
  | succ room =>
    cases v with
    | null | bool | float | str => exact .written rfl (Nat.succ_le_succ (Nat.zero_le room))
    | int n =>
      simp only [literalWithin, calls]
      exact tells_intText n room
    | list elements =>
      rw [literalWithin, hasShortNumbers, calls]
      exact (tells_literalsWithin room elements).map.resize Nat.succ_le_succ_iff
    | object fields =>
      rw [literalWithin, hasShortNumbers, calls]
      exact (tells_fieldLiteralsWithin room fields).map.resize Nat.succ_le_succ_iff
    | item name price =>
      have name_pos := name.calls_pos
      rw [literalWithin, hasShortNumbers, calls]
      refine ((tells_literalWithin (room - 2) name).both
        (tells_literalWithin (room - 2) price)).resize ?_
      omega

theorem tells_literalsWithin (room : Nat) (vs : List Value) :
    Tells (haveShortNumbers vs) (callsOfAll vs) room (literalsWithin room vs) := by
  cases vs with
  | nil => exact .written rfl (Nat.zero_le room)
  | cons v rest => exact (tells_literalWithin room v).both (tells_literalsWithin room rest)

theorem tells_fieldLiteralsWithin (room : Nat) (fields : List (CodePoints × Value)) :
    Tells (fieldsHaveShortNumbers fields) (callsOfFields fields) room
      (fieldLiteralsWithin room fields) := by
  cases fields with
  | nil => exact .written rfl (Nat.zero_le room)
  | cons field rest =>
    exact (tells_literalWithin room field.2).both (tells_fieldLiteralsWithin room rest)

end

theorem tells_text (v : Value) : Tells v.hasShortNumbers v.calls writingRoom v.text := by
  have tells := tells_literalWithin writingRoom v
  cases v with
  | str s => exact .written rfl (Nat.succ_le_succ (Nat.zero_le _))
  | _ =>
    rw [text, literal, map_eq_pure_bind]
    · exact tells.map
    · exact nofun

theorem exists_text_iff (v : Value) : (∃ t, v.text = .ok t) ↔ v.isWritable = true := by
  have tells := v.tells_text
  rw [isWritable, Bool.and_eq_true, decide_eq_true_iff]
  generalize v.text = written at tells ⊢
  cases tells with
  | written all_short enough => exact ⟨fun _ => ⟨all_short, enough⟩, fun _ => ⟨_, rfl⟩⟩
  | tooLong long =>
    exact ⟨nofun, fun ⟨all_short, _⟩ => Bool.noConfusion (all_short.symm.trans long)⟩
  | tooDeep few => exact ⟨nofun, fun ⟨_, enough⟩ => absurd enough (Nat.not_le_of_lt few)⟩

theorem text_error {v : Value} {f : Fault} (refused : v.text = .error f) :
    f = .tooLongToWrite ∧ v.hasShortNumbers = false ∨
      f = .tooDeepToWrite ∧ writingRoom < v.calls := by
  have tells := v.tells_text
  rw [refused] at tells
  cases tells with
  | tooLong long => exact .inl ⟨rfl, long⟩
  | tooDeep few => exact .inr ⟨rfl, few⟩

theorem text_of_calls {v : Value} (short : v.hasShortNumbers = true)
    (few : writingRoom < v.calls) : v.text = .error .tooDeepToWrite := by
  have tells := v.tells_text
  generalize v.text = written at tells ⊢
  cases tells with
  | written _ enough => exact absurd enough (Nat.not_le_of_lt few)
  | tooLong long => cases short.symm.trans long
  | tooDeep => rfl

theorem isWritable_of_not_given {v : Value} (falsy : v.isGiven = false) :
    v.isWritable = true := by
  cases v with
  | null | bool | float | str => rfl
  | int n =>
    have zero : n = 0 := by simpa [isGiven] using falsy
    subst zero
    decide +kernel
  | list elements =>
    have none : elements = [] := by simpa [isGiven] using falsy
    subst none
    rfl
  | object fields =>
    have none : fields = [] := by simpa [isGiven] using falsy
    subst none
    rfl
  | item => cases falsy

theorem calls_le_of_mem {v : Value} {vs : List Value} (mem : v ∈ vs) :
    v.calls ≤ callsOfAll vs := by
  induction vs with
  | nil => cases mem
  | cons w rest ih =>
    rcases List.mem_cons.1 mem with rfl | mem
    · exact Nat.le_max_left _ _
    · exact Nat.le_trans (ih mem) (Nat.le_max_right _ _)

theorem calls_le_of_elements {v e : Value} {vs : List Value} (read : v.elements = .ok vs)
    (mem : e ∈ vs) : e.calls ≤ v.calls := by
  cases v with
  | list elements =>
    cases read
    exact Nat.le_succ_of_le (calls_le_of_mem mem)
  | str s =>
    cases read
    obtain ⟨p, -, rfl⟩ := List.mem_map.1 mem
    exact Nat.le_refl 1
  | object fields =>
    cases read
    obtain ⟨field, -, rfl⟩ := List.mem_map.1 mem
    exact calls_pos _
  | _ => cases read

theorem callsOfFields_eq (fields : List (CodePoints × Value)) :
    callsOfFields fields = callsOfAll (fields.map Prod.snd) := by
  induction fields with
  | nil => rfl
  | cons field rest ih => rw [callsOfFields, ih, List.map_cons, callsOfAll]

theorem calls_lt_of_field? {name : Text} {fields : List (CodePoints × Value)} {v : Value}
    (found : field? name fields = some v) : v.calls < (object fields).calls := by
  obtain ⟨field, first, rfl⟩ := Option.map_eq_some_iff.1 found
  have mem : field.2 ∈ fields.map Prod.snd := List.mem_map_of_mem (List.mem_of_find?_eq_some first)
  rw [calls, callsOfFields_eq]
  exact Nat.lt_succ_of_le (calls_le_of_mem mem)

section

variable {name : Text} {default : Value} {fields : List (CodePoints × Value)}

theorem given_or_absent (name : Text) (fields : List (CodePoints × Value)) :
    (∃ v, field? name fields = some v ∧ v.isGiven = true) ∨
      ∀ v, field? name fields = some v → v.isGiven = false := by
  cases field? name fields with
  | none => exact .inr nofun
  | some v =>
    cases given : v.isGiven with
    | true => exact .inl ⟨v, rfl, given⟩
    | false => exact .inr fun w same => Option.some.inj same ▸ given

theorem fieldOr_of_given {v : Value} (found : field? name fields = some v)
    (given : v.isGiven = true) : fieldOr name default fields = v := by
  rw [fieldOr, found, Option.getD_some, orElse, if_pos given]

theorem fieldOr_of_absent (absent : ∀ v, field? name fields = some v → v.isGiven = false) :
    fieldOr name default fields = default := by
  have falsy : ((field? name fields).getD .null).isGiven = false := by
    cases found : field? name fields with
    | none => rfl
    | some v => exact absent v found
  rw [fieldOr, orElse, falsy]
  rfl

theorem calls_fieldOr_le (plain : default.calls = 1) :
    (fieldOr name default fields).calls ≤ (object fields).calls := by
  rcases given_or_absent name fields with ⟨v, found, given⟩ | absent
  · rw [fieldOr_of_given found given]
    exact Nat.le_of_lt (calls_lt_of_field? found)
  · rw [fieldOr_of_absent absent, plain]
    exact calls_pos _

end

end Value

end ReceiptPress

import ReceiptPress.Value.Basic

namespace ReceiptPress.Value

mutual

def same : Value → Value → Bool
  | null, null => true
  | bool a, bool b => a = b
  | int m, int n => m = n
  | float x, float y => x = y
  | str s, str t => s = t
  | list vs, list ws => sameElements vs ws
  | object fs, object gs => sameFields fs gs
  | item name price, item other cost => same name other && same price cost
  | _, _ => false

def sameElements : List Value → List Value → Bool
  | [], [] => true
  | v :: vs, w :: ws => same v w && sameElements vs ws
  | _, _ => false

def sameFields : List (CodePoints × Value) → List (CodePoints × Value) → Bool
  | [], [] => true
  | (name, v) :: fs, (other, w) :: gs => name = other && same v w && sameFields fs gs
  | _, _ => false

end

mutual

theorem same_iff (v w : Value) : same v w = true ↔ v = w := by
  cases v with
  | list vs =>
    cases w with
    | list ws => rw [same, sameElements_iff vs ws, list.injEq]
    | _ => simp [same]
  | object fs =>
    cases w with
    | object gs => rw [same, sameFields_iff fs gs, object.injEq]
    | _ => simp [same]
  | item name price =>
    cases w with
    | item other cost =>
      rw [same, Bool.and_eq_true, same_iff name other, same_iff price cost, item.injEq]
    | _ => simp [same]
  | _ => cases w <;> simp [same]

theorem sameElements_iff (vs ws : List Value) : sameElements vs ws = true ↔ vs = ws := by
  cases vs with
  | nil => cases ws <;> simp [sameElements]
  | cons v vs =>
    cases ws with
    | nil => simp [sameElements]
    | cons w ws =>
      rw [sameElements, Bool.and_eq_true, same_iff v w, sameElements_iff vs ws, List.cons.injEq]

theorem sameFields_iff (fs gs : List (CodePoints × Value)) :
    sameFields fs gs = true ↔ fs = gs := by
  cases fs with
  | nil => cases gs <;> simp [sameFields]
  | cons f fs =>
    cases gs with
    | nil => simp [sameFields]
    | cons g gs =>
      rw [sameFields, Bool.and_eq_true, Bool.and_eq_true, decide_eq_true_eq, same_iff f.2 g.2,
        sameFields_iff fs gs, List.cons.injEq, Prod.ext_iff]

end

instance : DecidableEq Value := fun v w => decidable_of_iff _ (same_iff v w)

end ReceiptPress.Value

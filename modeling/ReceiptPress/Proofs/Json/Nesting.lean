import ReceiptPress.Json.Reader
import ReceiptPress.Proofs.Faults
import ReceiptPress.Proofs.Value

namespace ReceiptPress.Json

def Frame.calls : Frame → Nat
  | .list elements => Value.callsOfAll elements
  | .object fields | .field fields _ => Value.callsOfFields fields

/-- No value that an open list or record holds takes more calls to be written than the reader left
for it, below the lists and records that are open around it. -/
def Fits : List Frame → Prop
  | [] => True
  | frame :: rest => frame.calls + rest.length ≤ Reading.depthLimit ∧
      rest.length < Reading.depthLimit ∧ Fits rest

structure Reading.IsShallow (r : Reading) : Prop where
  stack : Fits r.stack
  done : ∀ v, r.expected = .done v → v.calls ≤ Reading.depthLimit + 1

namespace Reading

variable {stack : List Frame} {v : Value} {r : Reading} {token : Token}

theorem callsOfAll_reverse (vs : List Value) :
    Value.callsOfAll vs.reverse = Value.callsOfAll vs := by
  have onto (done vs : List Value) : Value.callsOfAll (vs.reverseAux done) =
      max (Value.callsOfAll vs) (Value.callsOfAll done) := by
    induction vs generalizing done with
    | nil => exact (Nat.zero_max _).symm
    | cons v rest ih =>
      rw [List.reverseAux, ih, Value.callsOfAll, Value.callsOfAll]
      omega
  exact (onto [] vs).trans (Nat.max_zero _)

theorem callsOfFields_insertField_le (name : CodePoints) (v : Value)
    (fields : List (CodePoints × Value)) :
    Value.callsOfFields (Value.insertField name v fields) ≤
      max v.calls (Value.callsOfFields fields) := by
  induction fields with
  | nil => exact Nat.le_refl _
  | cons field rest ih =>
    obtain ⟨other, w⟩ := field
    rw [Value.insertField, Value.callsOfFields]
    split
    · rw [Value.callsOfFields]
      omega
    · rw [Value.callsOfFields]
      omega

theorem isShallow_deliver (fits : Fits stack) (room : v.calls + stack.length ≤ depthLimit + 1)
    (delivered : deliver stack v = some r) : r.IsShallow := by
  unfold deliver at delivered
  split at delivered
  · cases delivered
    exact ⟨trivial, fun w same => by cases same; exact room⟩
  · cases delivered
    obtain ⟨held, enough, fits⟩ := fits
    refine ⟨⟨?_, enough, fits⟩, fun w same => Expected.noConfusion same⟩
    simp only [Frame.calls, Value.callsOfAll, List.length_cons] at held room ⊢
    omega
  · cases delivered
    obtain ⟨held, enough, fits⟩ := fits
    rename_i fields name rest
    have inserted := callsOfFields_insertField_le name v fields
    refine ⟨⟨?_, enough, fits⟩, fun w same => Expected.noConfusion same⟩
    simp only [Frame.calls, List.length_cons] at held room ⊢
    omega
  · cases delivered

theorem isShallow_close (fits : Fits stack) (closed : close stack token = some r) :
    r.IsShallow := by
  unfold close at closed
  split at closed
  · obtain ⟨held, enough, fits⟩ := fits
    refine isShallow_deliver fits ?_ closed
    rw [Value.calls, callsOfAll_reverse]
    simp only [Frame.calls] at held
    omega
  · obtain ⟨held, enough, fits⟩ := fits
    refine isShallow_deliver fits ?_ closed
    rw [Value.calls]
    simp only [Frame.calls] at held
    omega
  · cases closed

theorem isShallow_opened {frame : Frame} {expected : Expected} (fits : Fits stack)
    (enough : ¬depthLimit ≤ stack.length) (empty : frame.calls = 0)
    (more : ∀ v, expected ≠ .done v) : IsShallow ⟨frame :: stack, expected⟩ := by
  refine ⟨⟨?_, Nat.lt_of_not_le enough, fits⟩, fun v same => absurd same (more v)⟩
  omega

theorem length_le_of_fits (fits : Fits stack) : stack.length ≤ depthLimit := by
  cases stack with
  | nil => exact Nat.zero_le _
  | cons frame rest => exact fits.2.1

theorem isShallow_begin (fits : Fits stack) (begun : begin stack token = .ok (some r)) :
    r.IsShallow := by
  have enough := length_le_of_fits fits
  have plain {v : Value} (one : v.calls = 1) (delivered : deliver stack v = some r) :
      r.IsShallow :=
    isShallow_deliver fits (by omega) delivered
  unfold begin at begun
  split at begun
  · split at begun
    · cases begun
    · rename_i few
      cases begun
      exact isShallow_opened fits few rfl nofun
  · split at begun
    · cases begun
    · rename_i few
      cases begun
      exact isShallow_opened fits few rfl nofun
  · exact plain rfl (Except.ok.inj begun)
  · exact plain rfl (Except.ok.inj begun)
  · exact plain rfl (Except.ok.inj begun)
  · exact plain rfl (Except.ok.inj begun)
  · split at begun
    · cases begun
    · exact plain rfl (Except.ok.inj begun)
  · cases begun

theorem isShallow_next (fits : Fits stack) (continued : next stack = some r) : r.IsShallow := by
  unfold next at continued
  split at continued
  all_goals
    cases continued
  · exact ⟨fits, nofun⟩
  · exact ⟨fits, nofun⟩

theorem isShallow_named {name : CodePoints} (fits : Fits stack)
    (continued : named stack name = some r) : r.IsShallow := by
  unfold named at continued
  split at continued
  · cases continued
    exact ⟨fits, nofun⟩
  · cases continued

theorem eq_ok_of_finished {m : Except Refusal (Option Reading)} {after : Reading}
    (finished : (m >>= fun after? =>
      match after? with
      | some r => pure r
      | none => throw Refusal.malformed) = .ok after) :
    m = .ok (some after) := by
  obtain ⟨after?, chosen, finished⟩ := bind_eq_ok.1 finished
  cases after? with
  | none => cases finished
  | some r =>
    cases finished
    exact chosen

theorem isShallow_step {before after : Reading} (shallow : before.IsShallow)
    (stepped : step before token = .ok after) : after.IsShallow := by
  have fits := shallow.stack
  unfold step at stepped
  split at stepped
  all_goals have chosen := eq_ok_of_finished stepped
  · exact isShallow_begin fits chosen
  · exact isShallow_close fits (Except.ok.inj chosen)
  · exact isShallow_begin fits chosen
  · exact isShallow_close fits (Except.ok.inj chosen)
  · exact isShallow_named fits (Except.ok.inj chosen)
  · exact isShallow_named fits (Except.ok.inj chosen)
  · cases chosen
    exact ⟨fits, nofun⟩
  · exact isShallow_next fits (Except.ok.inj chosen)
  · exact isShallow_close fits (Except.ok.inj chosen)
  · cases chosen

theorem isShallow_foldlM {before after : Reading} {tokens : List Token}
    (shallow : before.IsShallow) (read : tokens.foldlM step before = .ok after) :
    after.IsShallow := by
  induction tokens generalizing before with
  | nil =>
    cases read
    exact shallow
  | cons token rest ih =>
    rw [List.foldlM_cons] at read
    obtain ⟨between, stepped, read⟩ := bind_eq_ok.1 read
    exact ih (isShallow_step shallow stepped) read

end Reading

theorem calls_of_read {t : Text} {v : Value} (done : read t = .ok v) :
    v.calls ≤ Reading.depthLimit + 1 := by
  obtain ⟨reading, run, done⟩ := bind_eq_ok.1 done
  have initial : Reading.IsShallow ⟨[], .value⟩ := ⟨trivial, nofun⟩
  have shallow := Reading.isShallow_foldlM initial run
  split at done
  · rename_i w expected
    cases done
    exact shallow.done v expected
  · cases done

end ReceiptPress.Json

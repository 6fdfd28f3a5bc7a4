import ReceiptPress.Fault

namespace ReceiptPress

variable {α β : Type} {f : Fault}

theorem bind_eq_ok {ε : Type} {m : Except ε α} {k : α → Except ε β} {b : β} :
    m >>= k = .ok b ↔ ∃ a, m = .ok a ∧ k a = .ok b := by
  cases m with
  | error f => exact ⟨fun h => (by cases h), fun ⟨_, h, _⟩ => (by cases h)⟩
  | ok a => exact ⟨fun h => ⟨a, rfl, h⟩, fun ⟨_, h, hk⟩ => (by cases h; exact hk)⟩

theorem map_eq_ok {m : Except Fault α} {k : α → β} {b : β} :
    k <$> m = .ok b ↔ ∃ a, m = .ok a ∧ k a = b := by
  cases m with
  | error f => exact ⟨fun h => (by cases h), fun ⟨_, h, _⟩ => (by cases h)⟩
  | ok a =>
    exact ⟨fun h => ⟨a, rfl, Except.ok.inj h⟩, fun ⟨_, h, hk⟩ => (by cases h; exact congrArg _ hk)⟩

theorem pure_eq_ok {ε : Type} {a b : α} : (pure a : Except ε α) = .ok b ↔ a = b :=
  ⟨Except.ok.inj, congrArg _⟩

theorem ok_bind (a : α) (k : α → Except Fault β) : Except.ok a >>= k = k a := rfl

theorem throw_bind (k : PUnit → Except Fault β) :
    (throw f : Except Fault PUnit) >>= k = .error f := rfl

theorem throw_bind_ne_ok {m : Except Fault α} {cause : α → Fault} {k : Unit → Except Fault β}
    {b : β} : (m >>= fun a => throw (cause a) >>= k) ≠ .ok b := by
  intro h
  obtain ⟨a, -, h⟩ := bind_eq_ok.1 h
  obtain ⟨u, h, -⟩ := bind_eq_ok.1 h
  cases h

section

variable {ε : Type} {e : ε}

theorem bind_eq_error {m : Except ε α} {k : α → Except ε β} :
    m >>= k = .error e ↔ m = .error e ∨ ∃ a, m = .ok a ∧ k a = .error e := by
  cases m with
  | error f =>
    constructor
    · exact fun h => .inl (congrArg _ (Except.error.inj h))
    · rintro (h | ⟨_, h, _⟩)
      · exact congrArg _ (Except.error.inj h)
      · cases h
  | ok a =>
    constructor
    · exact fun h => .inr ⟨a, rfl, h⟩
    · rintro (h | ⟨_, h, hk⟩)
      · cases h
      · cases h
        exact hk

theorem map_eq_error {m : Except ε α} {k : α → β} : k <$> m = .error e ↔ m = .error e := by
  cases m with
  | error f => exact ⟨fun h => congrArg _ (Except.error.inj h), fun h => (by cases h; rfl)⟩
  | ok a => exact ⟨fun h => (by cases h), fun h => (by cases h)⟩

theorem bind_pure_eq_error {m : Except ε α} {k : α → β} :
    (m >>= fun a => pure (k a)) = .error e ↔ m = .error e := by
  rw [bind_eq_error]
  exact ⟨fun h => h.elim id fun ⟨_, _, done⟩ => (by cases done), .inl⟩

theorem mapM_eq_error {g : α → Except ε β} {xs : List α} :
    xs.mapM g = .error e ↔
      ∃ before x after ys, xs = before ++ x :: after ∧ before.mapM g = .ok ys ∧ g x = .error e := by
  induction xs with
  | nil =>
    constructor
    · intro h
      cases h
    · rintro ⟨before, x, after, -, eq, -⟩
      cases before <;> cases eq
  | cons x xs ih =>
    rw [List.mapM_cons, bind_eq_error]
    constructor
    · rintro (refused | ⟨y, done, behind⟩)
      · exact ⟨[], x, xs, [], rfl, rfl, refused⟩
      · have behind : xs.mapM g = .error e :=
          (bind_eq_error.1 behind).elim (fun h => h) fun ⟨_, _, h⟩ => (by cases h)
        obtain ⟨before, v, after, ys, rfl, before_done, refused⟩ := ih.1 behind
        refine ⟨x :: before, v, after, y :: ys, rfl, ?_, refused⟩
        rw [List.mapM_cons, done, before_done]
        rfl
    · rintro ⟨before, v, after, ys, eq, before_done, refused⟩
      cases before with
      | nil =>
        cases eq
        exact .inl refused
      | cons b before =>
        cases eq
        rw [List.mapM_cons] at before_done
        cases done : g x with
        | error f => rw [done] at before_done; cases before_done
        | ok y =>
          rw [done] at before_done
          cases rest : before.mapM g with
          | error f => rw [rest] at before_done; cases before_done
          | ok zs =>
            have behind := ih.2 ⟨before, v, after, zs, rfl, rest, refused⟩
            refine .inr ⟨y, rfl, ?_⟩
            rw [behind]
            rfl

theorem mem_of_mapM_eq_ok {g : α → Except ε β} {xs : List α} {ys : List β}
    (done : xs.mapM g = .ok ys) :
    (∀ x ∈ xs, ∃ y, g x = .ok y) ∧ ∀ y ∈ ys, ∃ x ∈ xs, g x = .ok y := by
  induction xs generalizing ys with
  | nil =>
    cases done
    exact ⟨nofun, nofun⟩
  | cons x xs ih =>
    rw [List.mapM_cons] at done
    cases here : g x with
    | error f => rw [here] at done; cases done
    | ok y =>
      rw [here] at done
      cases behind : xs.mapM g with
      | error f => rw [behind] at done; cases done
      | ok zs =>
        rw [behind] at done
        cases done
        obtain ⟨all, only⟩ := ih behind
        refine ⟨List.forall_mem_cons.2 ⟨⟨y, here⟩, all⟩, List.forall_mem_cons.2 ⟨?_, ?_⟩⟩
        · exact ⟨x, List.mem_cons_self, here⟩
        · intro z mem
          obtain ⟨w, among, result⟩ := only z mem
          exact ⟨w, List.mem_cons_of_mem x among, result⟩

end

def cause? : Except Fault α → Option Fault
  | .ok _ => none
  | .error f => some f

theorem cause?_eq_some_iff {m : Except Fault α} : cause? m = some f ↔ m = .error f := by
  cases m <;> simp [cause?]

theorem cause?_eq_none_iff {m : Except Fault α} : cause? m = none ↔ ∃ a, m = .ok a := by
  cases m <;> simp [cause?]

end ReceiptPress

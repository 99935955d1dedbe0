import RegisterMachine.Machine

/-!
# Actions as functions of the state

An action takes a state to an outcome together with the next state. The equations
below open the sequencing of actions, one statement at a time; the inversion lemma
for `>>=` takes a successful run apart at its first statement.
-/
namespace RegisterMachine.Stateful

variable {ε σ α β : Type}

theorem bind_apply (x : EStateM ε σ α) (f : α → EStateM ε σ β) (s : σ) :
    (x >>= f) s = match x s with
      | .ok a s => f a s
      | .error e s => .error e s := rfl

theorem bind_of_ok {x : EStateM ε σ α} {a : α} {s s' : σ} (h : x s = .ok a s')
    (f : α → EStateM ε σ β) : (x >>= f) s = f a s' := by
  rw [bind_apply, h]

theorem bind_of_error {x : EStateM ε σ α} {e : ε} {s s' : σ} (h : x s = .error e s')
    (f : α → EStateM ε σ β) : (x >>= f) s = .error e s' := by
  rw [bind_apply, h]

/-- A sequence succeeds exactly if both of its parts do. -/
theorem bind_eq_ok {x : EStateM ε σ α} {f : α → EStateM ε σ β} {b : β} {s s' : σ} :
    (x >>= f) s = .ok b s' ↔ ∃ a mid, x s = .ok a mid ∧ f a mid = .ok b s' := by
  rw [bind_apply]
  constructor
  · intro h
    cases hx : x s with
    | ok a mid => rw [hx] at h; exact ⟨a, mid, rfl, h⟩
    | error e mid => rw [hx] at h; cases h
  · rintro ⟨a, mid, hx, hf⟩
    rw [hx]
    exact hf

/-- A sequence fails exactly if one of its parts does, the second one after a success of the first. -/
theorem bind_eq_error {x : EStateM ε σ α} {f : α → EStateM ε σ β} {e : ε} {s s' : σ} :
    (x >>= f) s = .error e s' ↔
      x s = .error e s' ∨ ∃ a mid, x s = .ok a mid ∧ f a mid = .error e s' := by
  rw [bind_apply]
  constructor
  · intro h
    cases hx : x s with
    | ok a mid => rw [hx] at h; exact .inr ⟨a, mid, rfl, h⟩
    | error e' mid => rw [hx] at h; cases h; exact .inl rfl
  · rintro (hx | ⟨a, mid, hx, hf⟩)
    · rw [hx]
    · rw [hx]
      exact hf

@[simp] theorem pure_apply (a : α) (s : σ) : (pure a : EStateM ε σ α) s = .ok a s := rfl

@[simp] theorem throw_apply (e : ε) (s : σ) : (throw e : EStateM ε σ α) s = .error e s := rfl

@[simp] theorem get_bind_apply (f : σ → EStateM ε σ β) (s : σ) : (get >>= f) s = f s s := rfl

@[simp] theorem getThe_bind_apply (f : σ → EStateM ε σ β) (s : σ) :
    ((getThe σ : EStateM ε σ σ) >>= f) s = f s s := rfl

@[simp] theorem modify_apply (g : σ → σ) (s : σ) :
    (modify g : EStateM ε σ PUnit) s = .ok ⟨⟩ (g s) := rfl

def endState : EStateM.Result ε σ α → σ
  | .ok _ s => s
  | .error _ s => s

def error? : EStateM.Result ε σ α → Option ε
  | .ok _ _ => none
  | .error e _ => some e

theorem eq_error_of_error? {r : EStateM.Result ε σ α} {e : ε} (h : error? r = some e) :
    r = .error e (endState r) := by
  cases r with
  | ok a s => cases h
  | error e' s =>
      obtain rfl := Option.some.inj h
      rfl

theorem eq_ok_of_error? {r : EStateM.Result ε σ PUnit} (h : error? r = none) :
    r = .ok ⟨⟩ (endState r) := by
  cases r with
  | ok a s => rfl
  | error e s => cases h

section

variable {R : σ → σ → Prop}

/-- Two outcomes report the same and end in related states. -/
inductive SameOutcome (R : σ → σ → Prop) :
    EStateM.Result ε σ α → EStateM.Result ε σ α → Prop
  | ok {a : α} {s s' : σ} : R s s' → SameOutcome R (.ok a s) (.ok a s')
  | error {e : ε} {s s' : σ} : R s s' → SameOutcome R (.error e s) (.error e s')

namespace SameOutcome

variable {r r' : EStateM.Result ε σ α}

theorem endState (h : SameOutcome R r r') : R (endState r) (Stateful.endState r') := by
  cases h with
  | ok hR => exact hR
  | error hR => exact hR

theorem error?_eq (h : SameOutcome R r r') : error? r = error? r' := by
  cases h <;> rfl

end SameOutcome

/-- The action reports the same in related states and leaves related states: it does not look at
what the states differ in. -/
def Respects (R : σ → σ → Prop) (x : EStateM ε σ α) : Prop :=
  ∀ s s', R s s' → SameOutcome R (x s) (x s')

namespace Respects

theorem pure (a : α) : Respects R (Pure.pure a : EStateM ε σ α) := fun _ _ h => .ok h

theorem throw (e : ε) : Respects R (MonadExcept.throw e : EStateM ε σ α) := fun _ _ h => .error h

theorem modify {g : σ → σ} (h : ∀ s s', R s s' → R (g s) (g s')) :
    Respects R (modify g : EStateM ε σ PUnit) := fun s s' hR => .ok (h s s' hR)

theorem bind {x : EStateM ε σ α} {k : α → EStateM ε σ β} (hx : Respects R x)
    (hk : ∀ a, Respects R (k a)) : Respects R (x >>= k) := by
  intro s s' h
  have hsame := hx s s' h
  rw [bind_apply, bind_apply]
  generalize x s = r, x s' = r' at hsame ⊢
  cases hsame with
  | ok hR => exact hk _ _ _ hR
  | error hR => exact .error hR

/-- What follows a look at the state has to treat related states alike. -/
theorem get_bind {k : σ → EStateM ε σ β} (hsame : ∀ s s', R s s' → k s' = k s)
    (hk : ∀ s, Respects R (k s)) : Respects R (get >>= k) := by
  intro s s' h
  rw [get_bind_apply, get_bind_apply, hsame s s' h]
  exact hk s s s' h

/-- An action that respects a change of the state keeps the states that the change leaves alone. -/
theorem endState_of_fixed {f : σ → σ} {x : EStateM ε σ α}
    (hx : Respects (fun s s' => s' = f s) x) {s : σ} (h : f s = s) :
    f (Stateful.endState (x s)) = Stateful.endState (x s) :=
  (hx s s h.symm).endState.symm

end Respects

end

end RegisterMachine.Stateful

import RegisterMachine.Proofs.Execution

/-!
# Partial primitives

Reading an element, cutting a sequence, dividing, repeating a text and making cells are
defined on part of their arguments only. The primitives of this module say so: outside
its domain a primitive ends in `undefined`, which is no fault, names the primitive and
cannot be handled. `total` embeds the actions that never end so.
-/
namespace RegisterMachine.Strict

open Stateful

/-- An operation that is defined on part of its arguments only. -/
inductive Primitive where
  /-- The element at an index, read or replaced. -/
  | element
  /-- The part of a sequence between two bounds. -/
  | slice
  /-- A quotient or a remainder. -/
  | division
  /-- Copies of a text in a row. -/
  | repetition
  /-- A number of fresh cells. -/
  | allocation
  /-- A call of a function from itself, to a bounded depth. -/
  | recursion
  deriving DecidableEq, Repr

/-- How an action ends early: outside the domain of a primitive, or with a fault. -/
inductive Trap (ε : Type) where
  | undefined (p : Primitive)
  | fault (e : ε)
  deriving DecidableEq, Repr

variable {ε σ α β : Type}

/-- An action that uses no partial primitive. -/
def total (act : EStateM ε σ α) : EStateM (Trap ε) σ α := fun s =>
  match act s with
  | .ok a s => .ok a s
  | .error e s => .error (.fault e) s

@[simp] theorem total_pure (a : α) : total (pure a : EStateM ε σ α) = pure a := rfl

@[simp] theorem total_get : total (get : EStateM ε σ σ) = get := rfl

@[simp] theorem total_modify (f : σ → σ) :
    total (modify f : EStateM ε σ PUnit) = modify f := rfl

@[simp] theorem total_bind (x : EStateM ε σ α) (f : α → EStateM ε σ β) :
    total (x >>= f) = total x >>= fun a => total (f a) := by
  funext s
  show total (x >>= f) s = (total x >>= fun a => total (f a)) s
  rw [total, bind_apply, bind_apply, total]
  cases x s <;> rfl

/-- After an embedded action it is enough to look at the states in which that action ends. -/
theorem total_bind_apply {x : EStateM ε σ α} {f : α → EStateM ε σ β}
    {g : α → EStateM (Trap ε) σ β} {s : σ}
    (h : ∀ a mid, x s = .ok a mid → g a mid = total (f a) mid) :
    (total x >>= g) s = total (x >>= f) s := by
  rw [total_bind, bind_apply, bind_apply, total]
  cases hx : x s with
  | ok a mid => exact h a mid hx
  | error e mid => rfl

/-- An action that is embedded by `total` never leaves the domain of a primitive. -/
theorem total_ne_undefined (act : EStateM ε σ α) (p : Primitive) (s s' : σ) :
    total act s ≠ .error (.undefined p) s' := by
  rw [total]
  cases act s <;> nofun

/-- The element at an index, which has to lie inside the sequence. -/
def element (xs : List α) (i : Int) : EStateM (Trap ε) σ α :=
  if i < 0 then throw (.undefined .element)
  else match xs[i.toNat]? with
    | some x => pure x
    | none => throw (.undefined .element)

/-- The sequence with another element at an index, which has to lie inside the sequence. -/
def replaced (xs : List α) (i : Int) (x : α) : EStateM (Trap ε) σ (List α) :=
  if i < 0 ∨ xs.length ≤ i then throw (.undefined .element) else pure (xs.set i.toNat x)

/-- The part of a sequence from `low` up to `high`, which have to be in order and inside it. -/
def slice (xs : List α) (low high : Int) : EStateM (Trap ε) σ (List α) :=
  if 0 ≤ low ∧ low ≤ high ∧ high ≤ xs.length then pure ((xs.take high.toNat).drop low.toNat)
  else throw (.undefined .slice)

/-- The quotient rounded toward zero, for a divisor other than zero. -/
def quotient (n d : Int64) : EStateM (Trap ε) σ Int64 :=
  if d = 0 then throw (.undefined .division) else pure (n / d)

/-- The remainder of `quotient`, for a divisor other than zero. -/
def remainder (n d : Int64) : EStateM (Trap ε) σ Int64 :=
  if d = 0 then throw (.undefined .division) else pure (n % d)

/-- Copies of a text: their number must not be negative, nor the result longer than any text. -/
def repetition (t : Text) (count : Int64) : EStateM (Trap ε) σ Text :=
  if count < 0 ∨ Value.maxLength < t.length * count.toNatClampNeg then
    throw (.undefined .repetition)
  else pure (t.times count.toNatClampNeg)

/-- Fresh cells, whose number must not be negative. -/
def allocation (count : Int64) : EStateM (Trap ε) σ (Array Value) :=
  if count < 0 then throw (.undefined .allocation)
  else pure (Array.replicate count.toNatClampNeg .zero)

theorem element_of_getElem? {xs : List α} {n : Nat} {x : α} (h : xs[n]? = some x) :
    (element xs (n : Int) : EStateM (Trap ε) σ α) = pure x := by
  have hn : ¬ (n : Int) < 0 := by omega
  rw [element, if_neg hn, Int.toNat_natCast, h]

@[simp] theorem element_cons_zero (x : α) (xs : List α) :
    (element (x :: xs) 0 : EStateM (Trap ε) σ α) = pure x :=
  element_of_getElem? (n := 0) rfl

@[simp] theorem element_cons_one (x y : α) (xs : List α) :
    (element (x :: y :: xs) 1 : EStateM (Trap ε) σ α) = pure y :=
  element_of_getElem? (n := 1) rfl

theorem element_getLast {xs : List α} {x : α} (h : xs.getLast? = some x) :
    (element xs (xs.length - 1) : EStateM (Trap ε) σ α) = pure x := by
  have hpos : 0 < xs.length := by
    rw [List.length_pos_iff]
    rintro rfl
    cases h
  have hi : (xs.length : Int) - 1 = ((xs.length - 1 : Nat) : Int) := by omega
  rw [hi]
  exact element_of_getElem? (by rw [← List.getLast?_eq_getElem?, h])

theorem slice_of_le {xs : List α} {low high : Nat} (h : low ≤ high) (h' : high ≤ xs.length) :
    (slice xs (low : Int) (high : Int) : EStateM (Trap ε) σ (List α)) =
      pure ((xs.take high).drop low) := by
  rw [slice, if_pos ⟨by omega, by omega, by omega⟩, Int.toNat_natCast, Int.toNat_natCast]

theorem slice_dropLast {xs : List α} (h : xs ≠ []) :
    (slice xs 0 (xs.length - 1) : EStateM (Trap ε) σ (List α)) = pure xs.dropLast := by
  have hpos := List.length_pos_iff.2 h
  have hi : (xs.length : Int) - 1 = ((xs.length - 1 : Nat) : Int) := by omega
  rw [hi, show (0 : Int) = ((0 : Nat) : Int) from rfl, slice_of_le (Nat.zero_le _) (by omega),
    List.drop_zero, List.dropLast_eq_take]

theorem slice_tail (x : α) (xs : List α) :
    (slice (x :: xs) 1 (x :: xs).length : EStateM (Trap ε) σ (List α)) = pure xs := by
  rw [show (1 : Int) = ((1 : Nat) : Int) from rfl, slice_of_le (by simp) (Nat.le_refl _),
    List.take_length]
  rfl

theorem slice_inside (x : α) {xs : List α} (h : xs ≠ []) :
    (slice (x :: xs) 1 ((x :: xs).length - 1) : EStateM (Trap ε) σ (List α)) =
      pure xs.dropLast := by
  have hpos := List.length_pos_iff.2 h
  have hi : ((x :: xs).length : Int) - 1 = (xs.length : Int) := by simp
  rw [hi, show (1 : Int) = ((1 : Nat) : Int) from rfl, slice_of_le (by omega) (by simp),
    List.dropLast_eq_take]
  cases hn : xs.length with
  | zero => omega
  | succ n => simp

theorem quotient_of_ne {n d : Int64} (h : d ≠ 0) :
    (quotient n d : EStateM (Trap ε) σ Int64) = pure (n / d) := if_neg h

theorem remainder_of_ne {n d : Int64} (h : d ≠ 0) :
    (remainder n d : EStateM (Trap ε) σ Int64) = pure (n % d) := if_neg h

end RegisterMachine.Strict

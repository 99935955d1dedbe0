import RegisterMachine.Proofs.Stateful

/-!
# Equations of the memory

Each action on registers and stack is given here as one equation: the fault it ends
in, or the memory it leaves. `grownTo`, `popped`, `pushed` and `written` are the four
ways in which the stack changes. Indexed access goes from the base to an offset from
the base, which is the physical index again, also where the difference wraps.
-/
namespace RegisterMachine

theorem RegisterFile.integer_eq_ok {file : RegisterFile} {r : Register} {n : Int64} :
    file.integer r = .ok n ↔ file.get r = .integer n := by
  rw [integer]
  cases file.get r with
  | integer k => simp
  | text t => simp

namespace Memory

open Stateful

/-- The memory with a value appended at the physical end; `top` was the top pointer. -/
def pushed (m : Memory) (top : Int64) (v : Value) : Memory where
  registers := m.registers.set .sp (.integer (top + 1))
  cells := m.cells.push v
  size := m.size + 1

/-- The memory without its last cell; `top` was the top pointer. -/
def popped (m : Memory) (top : Int64) : Memory where
  registers := m.registers.set .sp (.integer (top - 1))
  cells := m.cells.pop
  size := m.size - 1

def grownTo (m : Memory) (index : Int64) : Memory :=
  { m with cells := grown m.cells index.toNatClampNeg }

def written (m : Memory) (index : Int64) (v : Value) : Memory :=
  { m with
    cells := (grown m.cells index.toNatClampNeg).setIfInBounds index.toNatClampNeg v }

/-- The value in a cell, zero where there is no cell. -/
def cellAt (m : Memory) (index : Int64) : Value := m.cells.getD index.toNatClampNeg .zero

/-- An index that is not negative is the same number as a position. -/
theorem natCast_index {index : Int64} (h : ¬ index < 0) :
    (index.toNatClampNeg : Int) = index.toInt := by
  rw [Int64.lt_iff_toInt_lt, Int64.toInt_zero] at h
  rw [← Int64.toNat_toInt]
  omega

@[simp] theorem size_grown (cells : Array Value) (n : Nat) :
    (grown cells n).size = max cells.size (n + 1) := by
  simp only [grown, Array.size_append, Array.size_replicate]
  omega

/-- Growing keeps every cell and adds zeros. -/
theorem getElem?_grown (cells : Array Value) (n k : Nat) :
    (grown cells n)[k]? =
      if k < cells.size then cells[k]? else if k ≤ n then some .zero else none := by
  rw [grown, Array.getElem?_append]
  split
  · rfl
  · rw [Array.getElem?_replicate]
    split <;> split <;> first | rfl | omega

theorem getElem?_grown_of_lt {cells : Array Value} {k : Nat} (h : k < cells.size) (n : Nat) :
    (grown cells n)[k]? = cells[k]? := by
  rw [getElem?_grown, if_pos h]

@[simp] theorem getD_grown (cells : Array Value) (n : Nat) :
    (grown cells n).getD n .zero = cells.getD n .zero := by
  simp only [Array.getD_eq_getD_getElem?, getElem?_grown]
  split
  · rfl
  · rename_i h
    simp [Array.getElem?_eq_none (Nat.not_lt.1 h)]

theorem getElem?_pushed {m : Memory} {k : Nat} (h : k < m.cells.size) (top : Int64) (v : Value) :
    (m.pushed top v).cells[k]? = m.cells[k]? := by
  rw [pushed, Array.getElem?_push_lt h, Array.getElem?_eq_getElem h]

@[simp] theorem size_popped (m : Memory) (top : Int64) :
    (m.popped top).cells.size = m.cells.size - 1 := Array.size_pop

theorem getElem?_popped {m : Memory} {k : Nat} {top : Int64}
    (h : k < (m.popped top).cells.size) : (m.popped top).cells[k]? = m.cells[k]? := by
  rw [size_popped] at h
  rw [popped, Array.getElem?_pop, if_pos h]

theorem ofExcept_apply {α : Type} (x : Except Fault α) (m : Memory) :
    Action.ofExcept x m = match x with
      | .ok a => .ok a m
      | .error fault => .error fault m := by
  cases x <;> rfl

theorem registerInteger_apply (r : Register) (m : Memory) :
    registerInteger r m = match m.registers.integer r with
      | .ok n => .ok n m
      | .error fault => .error fault m := by
  rw [registerInteger, get_bind_apply, ofExcept_apply]
  cases m.registers.integer r <;> rfl

theorem push_apply (v : Value) (m : Memory) :
    push v m = match m.registers.integer .sp with
      | .ok top => .ok ⟨⟩ (m.pushed top v)
      | .error fault => .error fault m := by
  rw [push, bind_apply, registerInteger_apply]
  cases m.registers.integer .sp <;> rfl

theorem push_eq_ok {v : Value} {m m' : Memory} (h : push v m = .ok ⟨⟩ m') :
    ∃ top, m.registers.integer .sp = .ok top ∧ m' = m.pushed top v := by
  rw [push_apply] at h
  cases hs : m.registers.integer .sp with
  | error fault => rw [hs] at h; cases h
  | ok top =>
      rw [hs] at h
      cases h
      exact ⟨top, rfl, rfl⟩

theorem pop_apply (m : Memory) :
    pop m = match m.cells.back?, m.registers.integer .sp with
      | none, _ => .error .stackUnderflow m
      | some v, .ok top => .ok v (m.popped top)
      | some _, .error fault => .error fault m := by
  rw [pop, get_bind_apply]
  cases m.cells.back? with
  | none => rfl
  | some v =>
      dsimp only
      rw [bind_apply, registerInteger_apply]
      cases m.registers.integer .sp <;> rfl

theorem pop_eq_ok {v : Value} {m m' : Memory} (h : pop m = .ok v m') :
    ∃ top, m.registers.integer .sp = .ok top ∧ m.cells.back? = some v ∧ m' = m.popped top := by
  rw [pop_apply] at h
  cases hb : m.cells.back? with
  | none => rw [hb] at h; cases h
  | some w =>
      cases hs : m.registers.integer .sp with
      | error fault => rw [hb, hs] at h; cases h
      | ok top =>
          rw [hb, hs] at h
          cases h
          exact ⟨top, rfl, rfl, rfl⟩

theorem growTo_apply (index : Int64) (m : Memory) :
    growTo index m =
      if index < 0 then .error (.stackAddress index) m else .ok ⟨⟩ (m.grownTo index) := by
  rw [growTo]
  split <;> rfl

theorem growTo_eq_ok {index : Int64} {m m' : Memory} (h : growTo index m = .ok ⟨⟩ m') :
    ¬ index < 0 ∧ m' = m.grownTo index := by
  rw [growTo_apply] at h
  split at h <;> cases h
  rename_i hneg
  exact ⟨hneg, rfl⟩

theorem growTo_eq_error {index : Int64} {fault : Fault} {m m' : Memory}
    (h : growTo index m = .error fault m') : index < 0 ∧ m' = m := by
  rw [growTo_apply] at h
  split at h <;> cases h
  rename_i hneg
  exact ⟨hneg, rfl⟩

/-- The offset from the base leads back to the physical index. -/
theorem locate_apply (index base : Int64) (m : Memory) (h : m.registers.integer .bp = .ok base) :
    locate (index - base) m =
      if index < 0 then .error (.stackAddress index) m else .ok index (m.grownTo index) := by
  rw [locate, bind_apply, registerInteger_apply, h]
  dsimp only
  rw [bind_apply, growTo_apply, Int64.add_comm, Int64.sub_add_cancel]
  by_cases hneg : index < 0
  · simp only [if_pos hneg]
  · simp only [if_neg hneg, pure_apply]

theorem readIndexed_apply (index base : Int64) (m : Memory)
    (h : m.registers.integer .bp = .ok base) :
    readIndexed (index - base) m =
      if index < 0 then .error (.stackAddress index) m
      else .ok (m.cellAt index) (m.grownTo index) := by
  rw [readIndexed, bind_apply, locate_apply index base m h]
  by_cases hneg : index < 0
  · simp only [if_pos hneg]
  · simp only [if_neg hneg, get_bind_apply, pure_apply, cellAt, grownTo, getD_grown]

theorem writeIndexed_apply (index base : Int64) (v : Value) (m : Memory)
    (h : m.registers.integer .bp = .ok base) :
    writeIndexed (index - base) v m =
      if index < 0 then .error (.stackAddress index) m else .ok ⟨⟩ (m.written index v) := by
  rw [writeIndexed, bind_apply, locate_apply index base m h]
  by_cases hneg : index < 0
  · simp only [if_pos hneg]
  · simp only [if_neg hneg, modify_apply, written, grownTo]

end Memory

end RegisterMachine

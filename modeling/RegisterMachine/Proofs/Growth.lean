import RegisterMachine.Proofs.Execution

/-!
# How operands lengthen the stack

Resolving operands does one thing to the machine: it appends zero cells, up to the largest
address among the operands. That holds halfway, too: a token that does not resolve appends
nothing, and the cells of the tokens before it stay.
-/
namespace RegisterMachine

open Stateful

namespace Memory

/-- The memory with a number of zero cells appended to its stack. -/
def lengthened (m : Memory) (n : Nat) : Memory :=
  { m with cells := m.cells ++ Array.replicate n .zero }

@[simp] theorem lengthened_registers (m : Memory) (n : Nat) :
    (m.lengthened n).registers = m.registers := rfl

@[simp] theorem lengthened_size (m : Memory) (n : Nat) : (m.lengthened n).size = m.size := rfl

@[simp] theorem size_lengthened (m : Memory) (n : Nat) :
    (m.lengthened n).cells.size = m.cells.size + n := by
  simp [lengthened]

@[simp] theorem lengthened_zero (m : Memory) : m.lengthened 0 = m := by
  simp [lengthened]

@[simp] theorem lengthened_lengthened (m : Memory) (n k : Nat) :
    (m.lengthened n).lengthened k = m.lengthened (n + k) := by
  simp [lengthened, Array.append_assoc]

theorem grownTo_eq (m : Memory) (index : Int64) :
    m.grownTo index = m.lengthened (index.toNatClampNeg + 1 - m.cells.size) := rfl

theorem getElem?_lengthened {m : Memory} {k : Nat} (h : k < m.cells.size) (n : Nat) :
    (m.lengthened n).cells[k]? = m.cells[k]? := by
  rw [lengthened, Array.getElem?_append, if_pos h]

/-- New cells hold zero, so a cell has the value it seemed to have before. -/
@[simp] theorem cellAt_lengthened (m : Memory) (n : Nat) (index : Int64) :
    (m.lengthened n).cellAt index = m.cellAt index := by
  simp only [cellAt, lengthened, Array.getD_eq_getD_getElem?, Array.getElem?_append]
  split
  · rfl
  · rename_i h
    rw [Array.getElem?_eq_none (Nat.not_lt.1 h), Array.getElem?_replicate]
    split <;> rfl

end Memory

namespace Operand

/-- The length that the stack needs for the cell of an operand. -/
def reach : Operand → Nat
  | .address index _ => index.toNatClampNeg + 1
  | _ => 0

/-- A token resolves in a stack that is lengthened as far as the operand reaches. The operand
holds the value of its cell. -/
theorem lengthened_of_resolve {labels : NameTable} {token : Text} {operand : Operand}
    {m m' : Memory} (h : resolve labels token m = .ok operand m') :
    m' = m.lengthened (operand.reach - m.cells.size) ∧
      ∀ index held, operand = .address index held →
        (∃ base, m.registers.integer .bp = .ok base) ∧ ¬ index < 0 ∧ held = m.cellAt index := by
  obtain ⟨hp, rfl⟩ | ⟨index, base, hbase, hneg, rfl, rfl⟩ := resolve_eq_ok h
  · have hreach : operand.reach = 0 := by
      cases operand with
      | address index held => exact absurd hp resolvePlain_ne_address
      | constant v => rfl
      | register r => rfl
    refine ⟨by simp [hreach], ?_⟩
    rintro index held rfl
    exact absurd hp resolvePlain_ne_address
  · refine ⟨m.grownTo_eq index, ?_⟩
    rintro _ _ ⟨⟩
    exact ⟨⟨base, hbase⟩, hneg, rfl⟩

/-- A token that does not resolve leaves the memory as it is. -/
theorem resolve_eq_error {labels : NameTable} {token : Text} {fault : Fault} {m m' : Memory}
    (h : resolve labels token m = .error fault m') : m' = m := by
  cases hb : bracketed? token with
  | none =>
      rw [resolve_of_plain hb] at h
      split at h <;> cases h
      rfl
  | some inside =>
      rw [resolve_of_bracketed hb, resolveAddress_apply] at h
      split at h
      · cases h
        rfl
      · cases h
        rfl
      · split at h <;> cases h
        rfl

/-- An operand other than a constant takes any value, as long as the base is an integer and its
address is no negative one. -/
theorem set_of_assignable {operand : Operand} (v : Value) {m : Memory}
    (hconst : ∀ c, operand ≠ .constant c)
    (haddress : ∀ index held, operand = .address index held →
      (∃ base, m.registers.integer .bp = .ok base) ∧ ¬ index < 0) :
    ∃ after, operand.set v m = .ok after (operand.stored v m) := by
  cases operand with
  | constant c => exact absurd rfl (hconst c)
  | register r => exact ⟨_, rfl⟩
  | address index held =>
      obtain ⟨⟨base, hbase⟩, hneg⟩ := haddress index held rfl
      refine ⟨.address index v, ?_⟩
      rw [set_address_apply, hbase]
      exact if_neg hneg

end Operand

namespace Machine

theorem lengthened_of_resolve {token : Text} {operand : Operand} {m m' : Machine}
    (h : resolve token m = .ok operand m') :
    m' = m.withMemory (m.memory.lengthened (operand.reach - m.memory.cells.size)) := by
  obtain ⟨memory, hres, rfl⟩ := resolve_eq_ok.1 h
  rw [(Operand.lengthened_of_resolve hres).1]

theorem onMemory_eq_error {α : Type} {act : Memory.Action α} {fault : Fault} {m m' : Machine} :
    onMemory act m = .error fault m' ↔
      ∃ memory, act m.memory = .error fault memory ∧ m' = m.withMemory memory := by
  rw [onMemory_apply]
  constructor
  · intro h
    cases hact : act m.memory with
    | ok a memory => rw [hact] at h; cases h
    | error cause memory =>
        rw [hact] at h
        cases h
        exact ⟨memory, rfl, rfl⟩
  · rintro ⟨memory, hact, rfl⟩
    rw [hact]

theorem resolve_eq_error {token : Text} {fault : Fault} {m m' : Machine}
    (h : resolve token m = .error fault m') : m' = m := by
  rw [resolve, get_bind_apply] at h
  obtain ⟨memory, hres, rfl⟩ := onMemory_eq_error.1 h
  rw [Operand.resolve_eq_error hres, withMemory_self]

/-- The length that the stack needs for the cells of all operands. -/
def reachAll (operands : List Operand) : Nat := (operands.map Operand.reach).foldr max 0

@[simp] theorem reachAll_nil : reachAll [] = 0 := rfl

@[simp] theorem reachAll_cons (operand : Operand) (operands : List Operand) :
    reachAll (operand :: operands) = max operand.reach (reachAll operands) := rfl

theorem reach_le_reachAll {operand : Operand} {operands : List Operand} (h : operand ∈ operands) :
    operand.reach ≤ reachAll operands := by
  induction operands with
  | nil => cases h
  | cons first rest ih =>
      rw [reachAll_cons]
      obtain rfl | h := List.mem_cons.1 h
      · exact Nat.le_max_left _ _
      · exact Nat.le_trans (ih h) (Nat.le_max_right _ _)

/-- Operands are resolved in a stack that reaches up to the largest address among them. Every
address among them is no negative one, and holds the value of its cell. -/
theorem lengthened_of_resolveAll {tokens : List Text} {operands : List Operand} {m m' : Machine}
    (h : resolveAll tokens m = .ok operands m') :
    m' = m.withMemory (m.memory.lengthened (reachAll operands - m.memory.cells.size)) ∧
      ∀ index held, .address index held ∈ operands →
        (∃ base, m.memory.registers.integer .bp = .ok base) ∧ ¬ index < 0 ∧
          held = m.memory.cellAt index := by
  induction tokens generalizing operands m with
  | nil =>
      obtain ⟨rfl, rfl⟩ := resolveAll_nil_eq_ok.1 h
      simp
  | cons token tokens ih =>
      obtain ⟨operand, rest, mid, hfirst, hrest, rfl⟩ := resolveAll_cons_eq_ok.1 h
      obtain ⟨memory, hres, rfl⟩ := resolve_eq_ok.1 hfirst
      obtain ⟨rfl, hoperand⟩ := Operand.lengthened_of_resolve hres
      obtain ⟨rfl, hoperands⟩ := ih hrest
      constructor
      · simp only [withMemory_memory, withMemory_withMemory, Memory.lengthened_lengthened,
          Memory.size_lengthened, reachAll_cons]
        congr 2
        omega
      · intro index held hmem
        obtain he | hmem := List.mem_cons.1 hmem
        · exact hoperand index held he.symm
        · simpa using hoperands index held hmem

/-- The cell of a resolved address exists, and the operand holds its value. -/
theorem getElem?_of_resolveAll {tokens : List Text} {operands : List Operand} {index : Int64}
    {held : Value} {m m' : Machine} (h : resolveAll tokens m = .ok operands m')
    (hmem : .address index held ∈ operands) :
    m'.memory.cells[index.toNatClampNeg]? = some held := by
  obtain ⟨rfl, hoperands⟩ := lengthened_of_resolveAll h
  obtain ⟨-, -, hheld⟩ := hoperands index held hmem
  have hreach : index.toNatClampNeg + 1 ≤ reachAll operands := reach_le_reachAll hmem
  rw [withMemory_memory]
  generalize hmemory : m.memory.lengthened (reachAll operands - m.memory.cells.size) = memory
  have hlt : index.toNatClampNeg < memory.cells.size := by
    rw [← hmemory, Memory.size_lengthened]
    omega
  have hcell : held = memory.cellAt index := by rw [hheld, ← hmemory, Memory.cellAt_lengthened]
  rw [Array.getElem?_eq_getElem hlt, hcell, Memory.cellAt, Array.getD_eq_getD_getElem?,
    Array.getElem?_eq_getElem hlt]
  rfl

theorem resolve_of_resolveAll_one {token : Text} {operand : Operand} {m m' : Machine}
    (h : resolveAll [token] m = .ok [operand] m') : resolve token m = .ok operand m' := by
  obtain ⟨found, rest, mid, hfirst, hrest, he⟩ := resolveAll_cons_eq_ok.1 h
  obtain ⟨-, rfl⟩ := resolveAll_nil_eq_ok.1 hrest
  cases he
  exact hfirst

/-- The zero cells that resolving tokens appends, up to the first one that does not resolve. -/
def resolvingGrowth : List Text → Machine → Nat
  | [], _ => 0
  | token :: tokens, m =>
      match resolve token m with
      | .ok operand mid => operand.reach - m.memory.cells.size + resolvingGrowth tokens mid
      | .error _ _ => 0

/-- Resolving tokens appends cells and does nothing else, also if one of them does not resolve. -/
theorem endState_resolveAll (tokens : List Text) (m : Machine) :
    endState (resolveAll tokens m) =
      m.withMemory (m.memory.lengthened (resolvingGrowth tokens m)) := by
  induction tokens generalizing m with
  | nil => simp [resolveAll, resolvingGrowth, endState]
  | cons token tokens ih =>
      rw [resolvingGrowth, resolveAll, List.mapM_cons, bind_apply]
      cases hres : resolve token m with
      | error fault mid =>
          dsimp only [endState]
          rw [resolve_eq_error hres, Memory.lengthened_zero, withMemory_self]
      | ok operand mid =>
          have hrest : endState ((do return operand :: (← resolveAll tokens)) mid) =
              endState (resolveAll tokens mid) := by
            rw [bind_apply]
            cases resolveAll tokens mid <;> rfl
          refine hrest.trans ?_
          rw [ih, lengthened_of_resolve hres]
          simp

end Machine

/-- The zero cells that an opcode itself appends, once its operands are resolved: an allocation
does, and so does a pop into an address that the shortened stack does not reach. -/
def Opcode.growth (op : Opcode) (operands : List Operand) (m : Memory) : Nat :=
  match op, operands with
  | .alloc, [a] =>
      match a.get m.registers, m.registers.integer .bp with
      | .integer offset, .ok base =>
          if base + offset < 0 then 0 else (base + offset).toNatClampNeg + 1 - m.cells.size
      | _, _ => 0
  | .pop, [a] =>
      match Memory.pop m with
      | .ok _ shorter => a.reach - shorter.cells.size
      | .error _ _ => 0
  | _, _ => 0

theorem Opcode.growth_of_ne {op : Opcode} (hpop : op ≠ .pop) (halloc : op ≠ .alloc)
    (operands : List Operand) (m : Memory) : op.growth operands m = 0 := by
  cases op <;> first | rfl | exact absurd rfl hpop | exact absurd rfl halloc

namespace Machine

/-- The zero cells that an instruction appends, in resolving its operands and by its opcode. -/
def performGrowth (inst : Instruction) (m : Machine) : Nat :=
  resolvingGrowth inst.operands m +
    match resolveAll inst.operands m with
    | .ok operands mid => inst.opcode.growth operands mid.memory
    | .error _ _ => 0

theorem performGrowth_of_resolved {inst : Instruction} {operands : List Operand} {m mid : Machine}
    (h : resolveAll inst.operands m = .ok operands mid) :
    performGrowth inst m =
      resolvingGrowth inst.operands m + inst.opcode.growth operands mid.memory := by
  rw [performGrowth, h]

theorem performGrowth_of_unresolved {inst : Instruction} {fault : Fault} {m m' : Machine}
    (h : resolveAll inst.operands m = .error fault m') :
    performGrowth inst m = resolvingGrowth inst.operands m := by
  rw [performGrowth, h, Nat.add_zero]

def growth (m : Machine) : Nat :=
  match m.nextIndex with
  | .error _ => 0
  | .ok i =>
      match m.code[i.toNatClampNeg]? with
      | none => 0
      | some inst => performGrowth inst (m.entered i inst)

theorem growth_of_executes {m : Machine} {i : Int64} {inst : Instruction}
    (h : m.Executes i inst) : m.growth = performGrowth inst (m.entered i inst) := by
  rw [growth, h.1]
  dsimp only
  rw [h.2]

theorem growth_of_error {m : Machine} {fault : Fault} (h : m.nextIndex = .error fault) :
    m.growth = 0 := by
  rw [growth, h]

end Machine

end RegisterMachine

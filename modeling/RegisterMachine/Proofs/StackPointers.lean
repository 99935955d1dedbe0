import Mathlib.Algebra.BigOperators.Intervals
import RegisterMachine.Proofs.EffectFrame

/-!
# The two stack pointers over a run

Four quantities describe the stack: the number of its cells, its logical size, and the pointers
`sp` and `bp`, which are registers like any other. Pushing and popping move the first three
together, growing moves the number of cells alone. So the stack is longer than its logical size by
just the cells that were grown; a program that does not write to `sp` keeps it at the logical size
less one, and one that does not write to `bp` keeps the base where the reset has put it.
-/
namespace RegisterMachine

open Stateful
open Text (ofString)

namespace Memory

/-- By how many cells the stack is longer than its logical size. -/
def slack (m : Memory) : Int := m.cells.size - m.size

@[simp] theorem slack_lengthened (m : Memory) (n : Nat) :
    (m.lengthened n).slack = m.slack + n := by
  simp only [slack, size_lengthened, lengthened_size]
  omega

@[simp] theorem slack_pushed (m : Memory) (top : Int64) (v : Value) :
    (m.pushed top v).slack = m.slack := by
  simp only [slack, pushed, Array.size_push]
  omega

theorem slack_of_pop {v : Value} {m m' : Memory} (h : pop m = .ok v m') : m'.slack = m.slack := by
  obtain ⟨top, -, hback, rfl⟩ := pop_eq_ok h
  have hpos : 0 < m.cells.size := by
    refine Array.size_pos_iff.2 fun hempty => ?_
    rw [hempty] at hback
    cases hback
  have hsize : (m.popped top).size = m.size - 1 := rfl
  rw [slack, slack, size_popped, hsize]
  omega

end Memory

theorem Operand.stored_size (a : Operand) (v : Value) (m : Memory) :
    (a.stored v m).size = m.size := by
  cases a <;> rfl

theorem Operand.slack_stored (a : Operand) (v : Value) (m : Memory) :
    (a.stored v m).slack = m.slack + (a.reach - m.cells.size : Nat) := by
  rw [Memory.slack, Memory.slack, size_stored, stored_size]
  omega

namespace Machine

theorem reach_le_of_resolveAll {tokens : List Text} {operands : List Operand} {a : Operand}
    {m m' : Machine} (h : resolveAll tokens m = .ok operands m') (ha : a ∈ operands) :
    a.reach ≤ m'.memory.cells.size := by
  obtain ⟨rfl, -⟩ := lengthened_of_resolveAll h
  have hle := reach_le_reachAll ha
  rw [withMemory_memory, Memory.size_lengthened]
  omega

/-- An opcode whose operands have their cells adds to the slack what it appends by itself. -/
theorem MemoryChange.slack {op : Opcode} {operands : List Operand} {m m' : Memory}
    (h : MemoryChange op operands m m') (hreach : ∀ a ∈ operands, a.reach ≤ m.cells.size) :
    m'.slack = m.slack + op.growth operands m := by
  have hnothing {n : Nat} (hn : n = 0) : m.slack = m.slack + n := by
    rw [hn]
    exact (Int.add_zero _).symm
  cases h with
  | none hpop halloc => exact hnothing (Opcode.growth_of_ne hpop halloc _ _)
  | assign hop hpop =>
      have halloc : op ≠ .alloc := by
        rintro rfl
        cases hop
      rw [Operand.slack_stored, Nat.sub_eq_zero_of_le (hreach _ List.mem_cons_self)]
      rw [Opcode.growth_of_ne hpop halloc]
  | accumulate hax =>
      refine hnothing (Opcode.growth_of_ne ?_ ?_ _ _) <;> rintro rfl <;> cases hax
  | push _ => exact (Memory.slack_pushed _ _ _).trans (hnothing rfl)
  | @call a top _ _ _ => exact (Memory.slack_pushed m top _).trans (hnothing rfl)
  | jmp => exact hnothing rfl
  | pop hp => rw [Operand.slack_stored, Memory.slack_of_pop hp, Opcode.growth, hp]
  | ret hp => exact (Memory.slack_of_pop hp).trans (hnothing rfl)
  | alloc hn hbase hneg =>
      rw [Memory.grownTo_eq, Memory.slack_lengthened, Opcode.growth, hn, hbase]
      dsimp only
      rw [if_neg hneg]

/-- An instruction adds to the slack what it appends, whether it succeeds or fails. -/
theorem slack_perform (inst : Instruction) (m : Machine) :
    (endState (perform inst m)).memory.slack = m.memory.slack + performGrowth inst m := by
  cases hp : perform inst m with
  | error fault m' =>
      obtain ⟨devices, -, rfl⟩ | ⟨hzero, -, v, shorter, hpop, rfl⟩ := perform_residue hp
      · exact Memory.slack_lengthened _ _
      · rw [hzero]
        exact (Memory.slack_of_pop hpop).trans (Int.add_zero _).symm
  | ok u m' =>
      obtain ⟨operands, mid, hres, heff⟩ := perform_eq_ok hp
      have hend := endState_resolveAll inst.operands m
      rw [hres] at hend
      have hmid : mid.memory = m.memory.lengthened (resolvingGrowth inst.operands m) :=
        congrArg Machine.memory hend
      have hslack := heff.memoryChange.slack fun a ha => reach_le_of_resolveAll hres ha
      show m'.memory.slack = _
      rw [hslack, performGrowth_of_resolved hres, hmid, Memory.slack_lengthened]
      omega

theorem slack_tick (m : Machine) :
    (endState (tick m)).memory.slack = m.memory.slack + m.growth := by
  cases hn : m.nextIndex with
  | error fault =>
      rw [endState_tick_of_error hn, growth_of_error hn]
      exact (Int.add_zero _).symm
  | ok i =>
      obtain ⟨inst, hx⟩ := exists_executes hn
      rw [memory_endState_tick hx, slack_perform, growth_of_executes hx, entered_memory]
      rfl

theorem slack_afterTicks (m : Machine) (n : Nat) :
    (m.afterTicks n).memory.slack =
      m.memory.slack + (∑ k ∈ Finset.range n, (m.afterTicks k).growth : Nat) := by
  induction n with
  | zero => exact (Int.add_zero _).symm
  | succ n ih =>
      rw [afterTicks_succ, slack_tick, ih, Finset.sum_range_succ, Int.natCast_add, Int.add_assoc]

/-- Slack is never taken back. -/
theorem slack_le_afterTicks (m : Machine) {k n : Nat} (h : k ≤ n) :
    (m.afterTicks k).memory.slack ≤ (m.afterTicks n).memory.slack := by
  have hmono : Monotone fun n => (m.afterTicks n).memory.slack := monotone_nat_of_le_succ fun n => by
    rw [afterTicks_succ, slack_tick]
    exact Int.le_add_of_nonneg_right (Int.natCast_nonneg _)
  exact hmono h

end Machine

namespace Memory

/-- The top pointer is the logical size less one, as a machine word. -/
def TopAligned (m : Memory) : Prop := m.registers.sp = .integer (Int64.ofInt (m.size - 1))

theorem TopAligned.pushed {m : Memory} {top : Int64} (h : m.TopAligned)
    (htop : m.registers.integer .sp = .ok top) (v : Value) : (m.pushed top v).TopAligned := by
  have hword : top = Int64.ofInt (m.size - 1) :=
    Value.integer.inj ((RegisterFile.integer_eq_ok.1 htop).symm.trans h)
  show Value.integer (top + 1) = .integer (Int64.ofInt (m.size + 1 - 1))
  rw [hword, show m.size + 1 - 1 = m.size - 1 + 1 by omega, Int64.ofInt_add]
  rfl

theorem TopAligned.of_pop {v : Value} {m m' : Memory} (h : m.TopAligned)
    (hpop : pop m = .ok v m') : m'.TopAligned := by
  obtain ⟨top, htop, -, rfl⟩ := pop_eq_ok hpop
  have hword : top = Int64.ofInt (m.size - 1) :=
    Value.integer.inj ((RegisterFile.integer_eq_ok.1 htop).symm.trans h)
  show Value.integer (top - 1) = .integer (Int64.ofInt (m.size - 1 - 1))
  rw [hword, Int64.ofInt_sub (m.size - 1)]
  rfl

theorem TopAligned.stored {a : Operand} {m : Memory} (h : m.TopAligned)
    (ha : a ≠ .register .sp) (v : Value) : (a.stored v m).TopAligned := by
  have hsp : (a.stored v m).registers.sp = m.registers.sp := Operand.get_stored_of_ne v m ha
  rw [TopAligned, a.stored_size, hsp]
  exact h

end Memory

namespace Machine

/-- Whatever moves the logical size moves the top pointer along. -/
theorem MemoryChange.topAligned {op : Opcode} {operands : List Operand} {m m' : Memory}
    (h : MemoryChange op operands m m') (htop : m.TopAligned)
    (hdest : op.assigns → operands.head? ≠ some (.register .sp)) : m'.TopAligned := by
  cases h with
  | none _ _ => exact htop
  | assign hop _ => exact htop.stored (fun ha => hdest hop (congrArg some ha)) _
  | accumulate _ => exact htop
  | push hsp => exact htop.pushed hsp _
  | call hsp => exact htop.pushed hsp m.registers.ip
  | jmp => exact htop
  | pop hp => exact (htop.of_pop hp).stored (fun ha => hdest rfl (congrArg some ha)) _
  | ret hp =>
      have haligned := htop.of_pop hp
      exact haligned
  | alloc _ _ _ => exact htop

theorem topAligned_perform {inst : Instruction} {m : Machine}
    (hwritten : inst.writtenOperand? ≠ some (ofString "rsp")) (h : m.memory.TopAligned) :
    (endState (perform inst m)).memory.TopAligned := by
  cases hp : perform inst m with
  | error fault m' =>
      obtain ⟨devices, -, rfl⟩ | ⟨-, -, v, shorter, hpop, rfl⟩ := perform_residue hp
      · exact h
      · exact h.of_pop hpop
  | ok u m' =>
      obtain ⟨operands, mid, hres, heff⟩ := perform_eq_ok hp
      obtain ⟨hmid, -⟩ := lengthened_of_resolveAll hres
      have haligned : mid.memory.TopAligned := by
        rw [hmid]
        exact h
      exact heff.memoryChange.topAligned haligned
        (head?_ne_of_writtenOperand? (.inr (.inl rfl)) hwritten hres)

end Machine

/-- No opcode changes the base pointer by itself. -/
theorem Opcode.bp_not_mem_changes (op : Opcode) : Register.bp ∉ op.changes := by
  cases op <;> decide

namespace Machine

theorem bp_perform {inst : Instruction} {m : Machine}
    (hwritten : inst.writtenOperand? ≠ some (ofString "rbp")) :
    (endState (perform inst m)).memory.registers.bp = m.memory.registers.bp := by
  cases hp : perform inst m with
  | error fault m' => exact register_of_perform_error hp (by decide : Register.bp ≠ .sp)
  | ok u m' =>
      obtain ⟨operands, mid, hres, heff⟩ := perform_eq_ok hp
      obtain ⟨hmid, -⟩ := lengthened_of_resolveAll hres
      have hbp := heff.memoryChange.register_eq inst.opcode.bp_not_mem_changes
        (head?_ne_of_writtenOperand? (.inr (.inr rfl)) hwritten hres)
      rw [hmid] at hbp
      exact hbp

end Machine

namespace Operand

/-- The token is a bracketed address at an offset from the base. -/
inductive SpellsBase : Text → Int64 → Prop
  | base : SpellsBase (ofString "[rbp]") 0
  | above (d : Fin 10) :
      SpellsBase (ofString "[rbp+" ++ [UInt8.ofNat (48 + d), Text.byte ']']) (Int64.ofNat d)
  | below (d : Fin 10) :
      SpellsBase (ofString "[rbp-" ++ [UInt8.ofNat (48 + d), Text.byte ']']) (-Int64.ofNat d)

theorem SpellsBase.reads {token : Text} {offset : Int64} (h : SpellsBase token offset) :
    bracketed? token = some token.tail.dropLast ∧
      AddressForm.parse? token.tail.dropLast = some ⟨ofString "rbp", offset⟩ := by
  cases h with
  | base => decide
  | above d => revert d; decide
  | below d => revert d; decide

/-- An address that is spelled from the base lies at that offset from the base. -/
theorem index_of_resolve_base {labels : NameTable} {token : Text} {offset base : Int64}
    {operand : Operand} {m m' : Memory} (hspells : SpellsBase token offset)
    (hbase : m.registers.bp = .integer base) (h : resolve labels token m = .ok operand m') :
    ∃ held, operand = .address (base + offset) held := by
  obtain ⟨hbracketed, hform⟩ := hspells.reads
  have hindex : calculateAddress labels token.tail.dropLast m.registers = .ok (base + offset) := by
    have hname : resolvePlain labels (ofString "rbp") = .ok (.register .bp) := rfl
    simp only [calculateAddress, hform, hname, bind, Except.bind, get, RegisterFile.get, hbase]
    rfl
  rw [resolve_of_bracketed hbracketed, resolveAddress_apply, hindex] at h
  split at h
  · cases h
  · cases h
  · rename_i hok _
    cases hok
    split at h <;> cases h
    exact ⟨_, rfl⟩

end Operand

namespace Machine

/-- Each operand of a list is resolved with the registers that the first one is resolved with. -/
theorem resolve_of_resolveAll {tokens : List Text} {operands : List Operand} {m m' : Machine}
    {j : Nat} {token : Text} (h : resolveAll tokens m = .ok operands m')
    (hj : tokens[j]? = some token) :
    ∃ operand memory memory', operands[j]? = some operand ∧
      memory.registers = m.memory.registers ∧
      Operand.resolve m.labels token memory = .ok operand memory' := by
  induction tokens generalizing operands m j with
  | nil => cases hj
  | cons first rest ih =>
      obtain ⟨operand, others, mid, hfirst, hrest, rfl⟩ := resolveAll_cons_eq_ok.1 h
      obtain ⟨memory, hres, rfl⟩ := resolve_eq_ok.1 hfirst
      cases j with
      | zero =>
          obtain rfl := Option.some.inj hj
          exact ⟨operand, _, memory, rfl, rfl, hres⟩
      | succ j =>
          obtain ⟨found, before, after, hfound, hregisters, hres'⟩ := ih hrest hj
          exact ⟨found, before, after, hfound,
            hregisters.trans (Operand.resolve_kept hres).registers, hres'⟩

/-- Stack and stack pointers are as a reset leaves them. -/
structure Fresh (cells : Int64) (m : Machine) : Prop where
  slack : m.memory.slack = 0
  top : m.memory.TopAligned
  base : m.memory.registers.bp = .integer (cells - 1)

theorem reset_memory (m : Machine) : m.reset.memory = Memory.initial m.cells := by
  obtain ⟨log, h⟩ := m.reset_eq
  rw [h]

theorem fresh_reset {m : Machine} (h : 0 ≤ m.cells) : Fresh m.cells m.reset := by
  have hneg : ¬ m.cells < 0 := Int64.not_lt.2 h
  constructor
  · rw [reset_memory, Memory.slack, Memory.initial, Array.size_replicate,
      Memory.natCast_index hneg, Int.sub_self]
  · rw [reset_memory, Memory.TopAligned]
    show Value.integer (m.cells - 1) = .integer (Int64.ofInt (m.cells.toInt - 1))
    rw [Int64.ofInt_sub, Int64.ofInt_toInt]
    rfl
  · rw [reset_memory]
    rfl

theorem Fresh.started {cells : Int64} {m : Machine} (h : Fresh cells m) (entry : Int64) :
    Fresh cells (m.started entry) := ⟨h.slack, h.top, h.base⟩

theorem topAligned_tick {m : Machine} (hwrites : NeverWrites (ofString "rsp") m)
    (h : m.memory.TopAligned) : (endState (tick m)).memory.TopAligned := by
  cases hn : m.nextIndex with
  | error fault =>
      rw [endState_tick_of_error hn]
      exact h
  | ok i =>
      obtain ⟨inst, hx⟩ := exists_executes hn
      rw [memory_endState_tick hx]
      refine topAligned_perform (hwrites.of_executes hx) ?_
      rw [entered_memory]
      exact h

theorem bp_tick {m : Machine} (hwrites : NeverWrites (ofString "rbp") m) :
    (endState (tick m)).memory.registers.bp = m.memory.registers.bp := by
  cases hn : m.nextIndex with
  | error fault => rw [endState_tick_of_error hn]
  | ok i =>
      obtain ⟨inst, hx⟩ := exists_executes hn
      rw [memory_endState_tick hx, bp_perform (hwrites.of_executes hx), entered_memory]
      rfl

theorem topAligned_afterTicks {m : Machine} (hwrites : NeverWrites (ofString "rsp") m)
    (h : m.memory.TopAligned) (n : Nat) : (m.afterTicks n).memory.TopAligned := by
  induction n with
  | zero => exact h
  | succ n ih =>
      rw [afterTicks_succ]
      exact topAligned_tick (hwrites.afterTicks n) ih

theorem bp_afterTicks {m : Machine} (hwrites : NeverWrites (ofString "rbp") m) (n : Nat) :
    (m.afterTicks n).memory.registers.bp = m.memory.registers.bp := by
  induction n with
  | zero => rfl
  | succ n ih => rw [afterTicks_succ, bp_tick (hwrites.afterTicks n), ih]

/-- Instructions that write to no pointer: arithmetic writes to the accumulator, and a register by
number or a bracketed address is no pointer. -/
inductive SparesPointers (inst : Instruction) : Prop
  | arithmetic {f : Value → Value → Except Fault Value} : operation? inst.opcode = some f →
      SparesPointers inst
  | numbered {digits : Text} : inst.operands.head? = some (Text.byte 'r' :: digits) →
      digits.isDigits → SparesPointers inst
  | indexed {token inside : Text} : inst.operands.head? = some token →
      Operand.bracketed? token = some inside → SparesPointers inst

theorem SparesPointers.writtenOperand?_ne {inst : Instruction} (h : SparesPointers inst)
    (name : Text) (hname : ¬ name.isDigits) :
    inst.writtenOperand? ≠ some (Text.byte 'r' :: name) := by
  intro hwritten
  rw [Instruction.writtenOperand?] at hwritten
  split at hwritten
  · rename_i hassigns
    cases h with
    | arithmetic hop =>
        generalize inst.opcode = op at hop hassigns
        cases op <;> cases hop <;> cases hassigns
    | numbered hhead hdigits =>
        cases hhead.symm.trans hwritten
        exact hname hdigits
    | indexed hhead hbracketed =>
        cases hhead.symm.trans hwritten
        cases hbracketed
  · cases hwritten

/-- What holds of the stack and its pointers `n` ticks after a reset to a number of cells. -/
structure PointersTrack (cells : Int64) (start : Machine) (n : Nat) : Prop where
  /-- The stack is longer than its logical size by the cells that were grown so far. -/
  slack : (start.afterTicks n).memory.slack =
    (∑ k ∈ Finset.range n, (start.afterTicks k).growth : Nat)
  slack_nonneg : 0 ≤ (start.afterTicks n).memory.slack
  slack_mono : ∀ k ≤ n, (start.afterTicks k).memory.slack ≤ (start.afterTicks n).memory.slack
  top : start.NeverWrites (ofString "rsp") →
    (start.afterTicks n).memory.registers.sp =
      .integer (Int64.ofInt ((start.afterTicks n).memory.size - 1))
  base : start.NeverWrites (ofString "rbp") →
    (start.afterTicks n).memory.registers.bp = .integer (cells - 1)
  /-- An address that is spelled from the base denotes the same cell in every instruction. -/
  cell : start.NeverWrites (ofString "rbp") →
    ∀ i inst operands mid, (start.afterTicks n).Executes i inst →
      resolveAll inst.operands ((start.afterTicks n).entered i inst) = .ok operands mid →
      ∀ (j : Nat) token offset, inst.operands[j]? = some token →
        Operand.SpellsBase token offset →
        ∃ held, operands[j]? = some (.address (cells - 1 + offset) held)

/-- However a run goes after a reset, also through faults: the stack is longer than its logical
size by the cells that were grown; a program that does not write to `rsp` keeps the top pointer at
the logical size less one, and one that does not write to `rbp` keeps the base. Arithmetic, registers
by number and bracketed addresses never write to either. -/
theorem stack_pointers_over_runs {m start : Machine} (hcells : 0 ≤ m.cells)
    (hstart : start = m.reset ∨ ∃ entry, start = m.reset.started entry) (n : Nat) :
    PointersTrack m.cells start n ∧ ∀ inst, SparesPointers inst →
      inst.writtenOperand? ≠ some (ofString "rsp") ∧
        inst.writtenOperand? ≠ some (ofString "rbp") := by
  have hfresh : Fresh m.cells start := by
    obtain rfl | ⟨entry, rfl⟩ := hstart
    · exact fresh_reset hcells
    · exact (fresh_reset hcells).started entry
  have hslack : (start.afterTicks n).memory.slack =
      (∑ k ∈ Finset.range n, (start.afterTicks k).growth : Nat) := by
    rw [slack_afterTicks, hfresh.slack, Int.zero_add]
  have hbase (hwrites : start.NeverWrites (ofString "rbp")) :
      (start.afterTicks n).memory.registers.bp = .integer (m.cells - 1) :=
    (bp_afterTicks hwrites n).trans hfresh.base
  have hspares (inst : Instruction) (h : SparesPointers inst) :
      inst.writtenOperand? ≠ some (ofString "rsp") ∧
        inst.writtenOperand? ≠ some (ofString "rbp") :=
    ⟨h.writtenOperand?_ne (ofString "sp") (by decide),
      h.writtenOperand?_ne (ofString "bp") (by decide)⟩
  refine ⟨?_, hspares⟩
  exact {
    slack := hslack
    slack_nonneg := by
      rw [hslack]
      exact Int.natCast_nonneg _
    slack_mono := fun k hk => slack_le_afterTicks start hk
    top := fun hwrites => topAligned_afterTicks hwrites hfresh.top n
    base := hbase
    cell := fun hwrites i inst operands mid hx hres j token offset hj hspells => by
      obtain ⟨operand, memory, memory', hfound, hregisters, hres⟩ := resolve_of_resolveAll hres hj
      have hbp : memory.registers.bp = .integer (m.cells - 1) := by
        rw [hregisters, entered_memory]
        exact hbase hwrites
      obtain ⟨held, rfl⟩ := Operand.index_of_resolve_base hspells hbp hres
      exact ⟨held, hfound⟩ }

def growing : Machine :=
  { Machine.initial .empty 2 with
    code := #[.push (ofString "r1"), .mov (ofString "[rbp+3]") (ofString "7"),
      .pop (ofString "[rbp+3]"), .alloc (ofString "5"),
      .mov (ofString "[rbp+7]") (ofString "nowhere")] }

theorem stack_pointers_over_runs_growing :
    0 ≤ growing.cells ∧ growing.reset.NeverWrites (ofString "rsp") ∧
      growing.reset.NeverWrites (ofString "rbp") ∧ PointersTrack growing.cells growing.reset 5 ∧
      (growing.reset.afterTicks 5).memory.slack = 7 ∧
      (growing.reset.afterTicks 5).memory.registers.sp = .integer 1 ∧
      (growing.reset.afterTicks 5).memory.registers.bp = .integer 1 := by
  have hcells : 0 ≤ growing.cells := by decide
  exact ⟨hcells, by decide, by decide, (stack_pointers_over_runs hcells (.inl rfl) 5).1,
    by decide +kernel, by decide +kernel, by decide +kernel⟩

end Machine

end RegisterMachine

import RegisterMachine.Proofs.Bookkeeping
import RegisterMachine.Proofs.Failure
import RegisterMachine.Proofs.StackDiscipline

/-!
# The effect of each instruction, and its frame

`Opcode.Does` is the table of the instruction set: for each opcode the machine after it, given the
operands and the machine in which they were resolved. Besides, resolving appends zero cells up to
the largest address among the operands. Every register and every cell that the table does not name
keeps its value.
-/
namespace RegisterMachine

open Stateful

namespace Machine

/-- The value is stored in the place of the operand, which is not a constant. -/
def Stores (a : Operand) (v : Value) (m m' : Machine) : Prop :=
  m' = m.withMemory (a.stored v m.memory) ∧ a.Holds v m'.memory

/-- The accumulator takes the result of an operation on the values of two operands. -/
def Accumulates (f : Value → Value → Except Fault Value) (a b : Operand) (m m' : Machine) : Prop :=
  ∃ v, f (a.get m.memory.registers) (b.get m.memory.registers) = .ok v ∧
    m' = m.withMemory { m.memory with registers := m.memory.registers.set .ax v }

end Machine

open Machine (Stores Accumulates)

/-- What an opcode does to a machine in which its operands are resolved. Values of operands are
those before the effect. -/
def Opcode.Does (op : Opcode) (operands : List Operand) (m m' : Machine) : Prop :=
  let file := m.memory.registers
  match op, operands with
  | .mov, [a, b] => Stores a (b.get file) m m'
  | .tostring, [a, b] => Stores a (.text (b.get file).toText) m m'
  | .lea, [a, .address index _] => Stores a (.integer index) m m'
  | .input, [a] => ∃ line devices, Machine.readLine m = .ok line { m with devices } ∧
      Stores a (.text line) { m with devices } m'
  | .add, [a, b] => Accumulates Value.add a b m m'
  | .sub, [a, b] => Accumulates Value.sub a b m m'
  | .mul, [a, b] => Accumulates Value.mul a b m m'
  | .div, [a, b] => Accumulates Value.floorDiv a b m m'
  | .push, [a] => ∃ top, file.sp = .integer top ∧
      m' = m.withMemory (m.memory.pushed top (a.get file))
  | .call, [a] => ∃ top target, file.sp = .integer top ∧ a.get file = .integer target ∧
      m' = (m.withMemory (m.memory.pushed top file.ip)).atIp target
  | .pop, [a] => ∃ top v, file.sp = .integer top ∧ m.memory.cells.back? = some v ∧
      Stores a v (m.withMemory (m.memory.popped top)) m'
  | .ret, [] => ∃ top target, file.sp = .integer top ∧
      m.memory.cells.back? = some (.integer target) ∧
      m' = (m.withMemory (m.memory.popped top)).atIp target
  | .jmp, [a] => ∃ target, a.get file = .integer target ∧ m' = m.atIp target
  | .alloc, [a] => ∃ offset base, a.get file = .integer offset ∧ file.bp = .integer base ∧
      ¬ base + offset < 0 ∧ m' = m.withMemory (m.memory.grownTo (base + offset))
  | .halt, [a] => ∃ steps, a.get file = .integer steps ∧ ¬ steps < 0 ∧ m' = m.paused steps
  | .exit, [] => m' = { m with running := false }
  | .output, [_] => ∃ devices, m' = { m with devices }
  | .debug, [_] => ∃ devices, m' = { m with devices }
  | _, _ => False

namespace Machine

theorem stores_of_set {a after : Operand} {v : Value} {m : Machine} {memory : Memory}
    (h : a.set v m.memory = .ok after memory) : Stores a v m (m.withMemory memory) :=
  ⟨by rw [(Operand.set_eq_ok h).1], Operand.holds_of_set h⟩

/-- Every effect is in the table. -/
theorem Effect.does {op : Opcode} {operands : List Operand} {m m' : Machine}
    (h : Effect op operands m m') : op.Does operands m m' := by
  cases h with
  | mov hs => exact stores_of_set hs
  | tostring hs => exact stores_of_set hs
  | lea hs => exact stores_of_set hs
  | input hline hs =>
      obtain ⟨devices, rfl⟩ := readLine_eq_ok hline
      exact ⟨_, devices, hline, stores_of_set hs⟩
  | arithmetic hop hv hs =>
      cases hs
      have hresult : Accumulates _ _ _ m _ := ⟨_, hv, rfl⟩
      cases op <;> cases hop
      · exact hresult
      · exact hresult
      · exact hresult
      · exact hresult
  | output h => exact put_eq_ok h
  | debug h => exact showState_eq_ok h
  | halt hn hneg => exact ⟨_, hn, hneg, rfl⟩
  | exit => exact rfl
  | jmp hn => exact ⟨_, hn, rfl⟩
  | push hp =>
      obtain ⟨top, htop, rfl⟩ := Memory.push_eq_ok hp
      exact ⟨top, RegisterFile.integer_eq_ok.1 htop, rfl⟩
  | call hn hp =>
      obtain ⟨top, htop, rfl⟩ := Memory.push_eq_ok hp
      exact ⟨top, _, RegisterFile.integer_eq_ok.1 htop, hn, rfl⟩
  | pop hp hs =>
      obtain ⟨top, htop, hback, rfl⟩ := Memory.pop_eq_ok hp
      exact ⟨top, _, RegisterFile.integer_eq_ok.1 htop, hback, stores_of_set hs⟩
  | ret hp =>
      obtain ⟨top, htop, hback, rfl⟩ := Memory.pop_eq_ok hp
      exact ⟨top, _, RegisterFile.integer_eq_ok.1 htop, hback, rfl⟩
  | alloc hn hbase hg =>
      obtain ⟨hneg, rfl⟩ := Memory.growTo_eq_ok hg
      exact ⟨_, _, hn, RegisterFile.integer_eq_ok.1 hbase, hneg, rfl⟩

end Machine

/-- The registers that an opcode changes by itself, whatever its operands are. -/
def Opcode.changes : Opcode → List Register
  | .add | .sub | .mul | .div => [.ax]
  | .push | .pop => [.sp]
  | .call | .ret => [.sp, .ip]
  | .jmp => [.ip]
  | _ => []

theorem Operand.get_stored_of_ne {a : Operand} {r : Register} (v : Value) (m : Memory)
    (h : a ≠ .register r) : (a.stored v m).registers.get r = m.registers.get r := by
  cases a with
  | constant c => rfl
  | address index held => rfl
  | register s =>
      refine RegisterFile.get_set_of_ne _ _ ?_
      rintro rfl
      exact h rfl

theorem Operand.size_stored (a : Operand) (v : Value) (m : Memory) :
    (a.stored v m).cells.size = max m.cells.size a.reach := by
  cases a with
  | constant c => exact (Nat.max_zero _).symm
  | register r => exact (Nat.max_zero _).symm
  | address index held =>
      simp only [stored, Memory.written, reach, Array.size_setIfInBounds, Memory.size_grown]

namespace Machine

/-- The ways in which an effect changes the memory: what holds of each of them holds of all
instructions. -/
inductive MemoryChange : Opcode → List Operand → Memory → Memory → Prop
  | none {op operands m} : op ≠ .pop → op ≠ .alloc → MemoryChange op operands m m
  | assign {op a rest v m} : op.assigns → op ≠ .pop →
      MemoryChange op (a :: rest) m (a.stored v m)
  | accumulate {op operands v m} : op.changes = [.ax] →
      MemoryChange op operands m { m with registers := m.registers.set .ax v }
  | push {a top m} : m.registers.integer .sp = .ok top →
      MemoryChange .push [a] m (m.pushed top (a.get m.registers))
  | call {a top target m} : m.registers.integer .sp = .ok top →
      MemoryChange .call [a] m { m.pushed top m.registers.ip with
        registers := (m.pushed top m.registers.ip).registers.set .ip (.integer target) }
  | jmp {a target m} :
      MemoryChange .jmp [a] m { m with registers := m.registers.set .ip (.integer target) }
  | pop {a v m shorter} : Memory.pop m = .ok v shorter →
      MemoryChange .pop [a] m (a.stored v shorter)
  | ret {target m shorter} : Memory.pop m = .ok (.integer target) shorter →
      MemoryChange .ret [] m { shorter with
        registers := shorter.registers.set .ip (.integer target) }
  | alloc {a offset base m} : a.get m.registers = .integer offset →
      m.registers.integer .bp = .ok base → ¬ base + offset < 0 →
      MemoryChange .alloc [a] m (m.grownTo (base + offset))

theorem Effect.memoryChange {op : Opcode} {operands : List Operand} {m m' : Machine}
    (h : Effect op operands m m') : MemoryChange op operands m.memory m'.memory := by
  have hassign {op : Opcode} {a after : Operand} {rest : List Operand} {v : Value}
      {memory memory' : Memory} (hop : op.assigns) (hpop : op ≠ .pop)
      (hs : a.set v memory = .ok after memory') : MemoryChange op (a :: rest) memory memory' := by
    rw [(Operand.set_eq_ok hs).1]
    exact .assign hop hpop
  cases h with
  | mov hs => exact hassign rfl nofun hs
  | tostring hs => exact hassign rfl nofun hs
  | lea hs => exact hassign rfl nofun hs
  | input hline hs =>
      obtain ⟨devices, rfl⟩ := readLine_eq_ok hline
      exact hassign rfl nofun hs
  | arithmetic hop _ hs =>
      cases hs
      exact .accumulate (by cases op <;> cases hop <;> rfl)
  | output h =>
      obtain ⟨devices, rfl⟩ := put_eq_ok h
      exact .none nofun nofun
  | debug h =>
      obtain ⟨devices, rfl⟩ := showState_eq_ok h
      exact .none nofun nofun
  | halt _ _ =>
      rw [paused_memory]
      exact .none nofun nofun
  | exit => exact .none nofun nofun
  | jmp _ => exact .jmp
  | push hp =>
      obtain ⟨top, htop, rfl⟩ := Memory.push_eq_ok hp
      exact .push htop
  | call _ hp =>
      obtain ⟨top, htop, rfl⟩ := Memory.push_eq_ok hp
      exact .call htop
  | pop hp hs =>
      obtain ⟨rfl, -, -⟩ := Operand.set_eq_ok hs
      exact .pop hp
  | ret hp => exact .ret hp
  | alloc hn hbase hg =>
      obtain ⟨hneg, rfl⟩ := Memory.growTo_eq_ok hg
      exact .alloc hn hbase hneg

namespace MemoryChange

variable {op : Opcode} {operands : List Operand} {m m' : Memory}

/-- A register that is neither changed by the opcode nor assigned to keeps its value. -/
theorem register_eq {r : Register} (h : MemoryChange op operands m m') (hr : r ∉ op.changes)
    (hdest : op.assigns → operands.head? ≠ some (.register r)) :
    m'.registers.get r = m.registers.get r := by
  have hassigned {a : Operand} {v : Value} {rest : List Operand} (memory : Memory)
      (hop : op.assigns) (hhead : operands = a :: rest) :
      (a.stored v memory).registers.get r = memory.registers.get r := by
    refine Operand.get_stored_of_ne v memory fun ha => hdest hop ?_
    rw [hhead, ha, List.head?_cons]
  cases h with
  | none _ _ => rfl
  | assign hop _ => exact hassigned m hop rfl
  | accumulate hax =>
      rw [hax] at hr
      exact RegisterFile.get_set_of_ne _ _ (List.ne_of_not_mem_cons hr)
  | push _ => exact RegisterFile.get_set_of_ne _ _ (List.ne_of_not_mem_cons hr)
  | call _ =>
      have hip : r ≠ .ip := List.ne_of_not_mem_cons (List.not_mem_of_not_mem_cons hr)
      exact (RegisterFile.get_set_of_ne _ _ hip).trans
        (RegisterFile.get_set_of_ne _ _ (List.ne_of_not_mem_cons hr))
  | jmp => exact RegisterFile.get_set_of_ne _ _ (List.ne_of_not_mem_cons hr)
  | pop hp =>
      obtain ⟨top, -, -, rfl⟩ := Memory.pop_eq_ok hp
      exact (hassigned _ rfl rfl).trans
        (RegisterFile.get_set_of_ne _ _ (List.ne_of_not_mem_cons hr))
  | ret hp =>
      obtain ⟨top, -, -, rfl⟩ := Memory.pop_eq_ok hp
      have hip : r ≠ .ip := List.ne_of_not_mem_cons (List.not_mem_of_not_mem_cons hr)
      exact (RegisterFile.get_set_of_ne _ _ hip).trans
        (RegisterFile.get_set_of_ne _ _ (List.ne_of_not_mem_cons hr))
  | alloc _ _ _ => rfl

/-- Pop and return alone make the stack shorter, by one cell at most. -/
theorem size_le (h : MemoryChange op operands m m') :
    m.cells.size - (if op = .pop ∨ op = .ret then 1 else 0) ≤ m'.cells.size := by
  cases h with
  | none _ _ => exact Nat.sub_le _ _
  | assign _ _ =>
      rw [Operand.size_stored]
      exact Nat.le_trans (Nat.sub_le _ _) (Nat.le_max_left _ _)
  | accumulate _ => exact Nat.sub_le _ _
  | push _ =>
      rw [Memory.pushed, Array.size_push]
      exact Nat.le_succ_of_le (Nat.sub_le _ _)
  | call _ =>
      show _ ≤ (m.cells.push m.registers.ip).size
      rw [Array.size_push]
      exact Nat.le_succ_of_le (Nat.sub_le _ _)
  | jmp => exact Nat.sub_le _ _
  | pop hp =>
      obtain ⟨top, -, -, rfl⟩ := Memory.pop_eq_ok hp
      rw [Operand.size_stored, Memory.size_popped]
      exact Nat.le_max_left _ _
  | @ret target _ _ hp =>
      obtain ⟨top, -, -, rfl⟩ := Memory.pop_eq_ok hp
      exact Nat.le_of_eq (Memory.size_popped m top).symm
  | alloc _ _ _ =>
      rw [Memory.grownTo, Memory.size_grown]
      exact Nat.le_trans (Nat.sub_le _ _) (Nat.le_max_left _ _)

end MemoryChange

end Machine

/-- The operand token that an instruction assigns to. -/
def Instruction.writtenOperand? (inst : Instruction) : Option Text :=
  if inst.opcode.assigns then inst.operands.head? else none

namespace Machine

/-- An instruction that does not name one of the three pointers as its written operand does not
assign to it either: no number and no other spelling denotes a pointer. -/
theorem head?_ne_of_writtenOperand? {inst : Instruction} {operands : List Operand} {r : Register}
    {m mid : Machine} (hr : r = .ip ∨ r = .sp ∨ r = .bp)
    (hwritten : inst.writtenOperand? ≠ some (Text.byte 'r' :: r.name))
    (hres : resolveAll inst.operands m = .ok operands mid) :
    inst.opcode.assigns → operands.head? ≠ some (.register r) := by
  intro hassigns hhead
  rw [Instruction.writtenOperand?, if_pos hassigns] at hwritten
  generalize inst.operands = tokens at hwritten hres
  cases tokens with
  | nil =>
      obtain ⟨rfl, -⟩ := resolveAll_nil_eq_ok.1 hres
      cases hhead
  | cons token tokens =>
      obtain ⟨operand, rest, last, hfirst, -, rfl⟩ := resolveAll_cons_eq_ok.1 hres
      obtain rfl : operand = .register r := Option.some.inj hhead
      obtain ⟨memory, hres, -⟩ := resolve_eq_ok.1 hfirst
      exact hwritten (congrArg some (Operand.token_of_resolve hres hr))

/-- No instruction of the program has the token for its written operand. -/
def NeverWrites (token : Text) (m : Machine) : Prop :=
  ∀ inst ∈ m.code, inst.writtenOperand? ≠ some token

instance (token : Text) (m : Machine) : Decidable (NeverWrites token m) :=
  inferInstanceAs (Decidable (∀ inst ∈ m.code, inst.writtenOperand? ≠ some token))

theorem NeverWrites.of_executes {token : Text} {m : Machine} {i : Int64} {inst : Instruction}
    (h : NeverWrites token m) (hx : m.Executes i inst) : inst.writtenOperand? ≠ some token :=
  h inst (Array.mem_of_getElem? hx.2)

theorem NeverWrites.afterTicks {token : Text} {m : Machine} (h : NeverWrites token m) (n : Nat) :
    NeverWrites token (m.afterTicks n) := by
  rw [NeverWrites, (steady_afterTicks m n).code]
  exact h

/-- Beyond the memory an instruction changes nothing but the running flag, for an exit or if the
sleeper stops the machine in a halt, the pauses of a halt, and the devices that it uses. -/
structure Elsewhere (op : Opcode) (m m' : Machine) : Prop where
  running : op ≠ .exit → op ≠ .halt → m'.running = m.running
  slept : op ≠ .halt → m'.slept = m.slept
  devices : op ≠ .input → op ≠ .output → op ≠ .debug → m'.devices = m.devices
  rest : m' = { m with
    memory := m'.memory
    running := m'.running
    slept := m'.slept
    devices := m'.devices }

theorem Effect.elsewhere {op : Opcode} {operands : List Operand} {m m' : Machine}
    (h : Effect op operands m m') : Elsewhere op m m' := by
  have hmemory (op : Opcode) (memory : Memory) : Elsewhere op m (m.withMemory memory) :=
    ⟨fun _ _ => rfl, fun _ => rfl, fun _ _ _ => rfl, rfl⟩
  cases h with
  | mov _ => exact hmemory _ _
  | tostring _ => exact hmemory _ _
  | lea _ => exact hmemory _ _
  | arithmetic _ _ _ => exact hmemory _ _
  | push _ => exact hmemory _ _
  | pop _ _ => exact hmemory _ _
  | alloc _ _ _ => exact hmemory _ _
  | jmp _ => exact hmemory _ _
  | call _ _ => exact hmemory _ _
  | ret _ => exact hmemory _ _
  | input hline _ =>
      obtain ⟨devices, rfl⟩ := readLine_eq_ok hline
      exact ⟨fun _ _ => rfl, fun _ => rfl, fun h => absurd rfl h, rfl⟩
  | output h =>
      obtain ⟨devices, rfl⟩ := put_eq_ok h
      exact ⟨fun _ _ => rfl, fun _ => rfl, fun _ h => absurd rfl h, rfl⟩
  | debug h =>
      obtain ⟨devices, rfl⟩ := showState_eq_ok h
      exact ⟨fun _ _ => rfl, fun _ => rfl, fun _ _ h => absurd rfl h, rfl⟩
  | exit => exact ⟨fun h => absurd rfl h, fun _ => rfl, fun _ _ _ => rfl, rfl⟩
  | @halt _ n _ _ _ =>
      obtain ⟨slept, running, hpaused⟩ := m.paused_eq n
      rw [hpaused]
      exact ⟨fun _ h => absurd rfl h, fun h => absurd rfl h, fun _ _ _ => rfl, rfl⟩

/-- An instruction changes nothing but the memory, the running flag, the pauses and the devices,
also if it fails halfway. -/
theorem endState_perform_eq (inst : Instruction) (m : Machine) :
    ∃ memory running slept devices, endState (perform inst m) =
      { m with memory, running, slept, devices } := by
  cases h : perform inst m with
  | ok u m' =>
      obtain ⟨operands, mid, hres, heffect⟩ := perform_eq_ok h
      obtain ⟨-, hmid⟩ := resolveAll_kept hres
      have hrest := heffect.elsewhere.rest
      rw [hmid] at hrest
      exact ⟨m'.memory, m'.running, m'.slept, m'.devices, hrest⟩
  | error fault m' =>
      obtain ⟨devices, -, rfl⟩ | ⟨-, -, v, shorter, -, rfl⟩ := perform_residue h
      · exact ⟨_, m.running, m.slept, devices, rfl⟩
      · exact ⟨shorter, m.running, m.slept, m.devices, rfl⟩

/-- A tick changes, beyond that, the ticks and the log. -/
theorem endState_tick_frame (m : Machine) :
    ∃ memory running slept devices ticks log, endState (tick m) =
      { m with memory, running, slept, devices, ticks, log } := by
  cases hn : m.nextIndex with
  | error fault =>
      rw [endState_tick_of_error hn]
      exact ⟨m.memory, m.running, m.slept, m.devices, m.ticks, m.log, rfl⟩
  | ok i =>
      obtain ⟨inst, hx⟩ := exists_executes hn
      obtain ⟨slept, running, ticks, htick⟩ := endState_tick_eq hx
      obtain ⟨memory, _, _, devices, hperform⟩ := endState_perform_eq inst (m.entered i inst)
      rw [htick, hperform, entered_eq]
      exact ⟨memory, running, slept, devices, ticks, _, rfl⟩

/-- The cells of a machine in which operands are resolved keep their values, apart from the cell
that is assigned to and the one that is taken off. -/
theorem Effect.cell_eq_of_resolved {inst : Instruction} {operands : List Operand}
    {m mid m' : Machine} {k : Nat} (hres : resolveAll inst.operands m = .ok operands mid)
    (h : Effect inst.opcode operands mid m') (hk : k < mid.memory.cells.size)
    (hassign : inst.opcode.assigns → ∀ index held, operands.head? = some (.address index held) →
      index.toNatClampNeg ≠ k)
    (htaken : inst.opcode = .pop ∨ inst.opcode = .ret → k + 1 ≠ mid.memory.cells.size) :
    m'.memory.cells[k]? = mid.memory.cells[k]? := by
  have hk' : k < m'.memory.cells.size := by
    have hle := h.memoryChange.size_le
    split at hle
    · have := htaken ‹_›
      omega
    · omega
  refine h.cell_eq hk hk' fun hop index held hhead => ⟨hassign hop index held hhead, ?_⟩
  have hcell := getElem?_of_resolveAll hres (List.mem_of_mem_head? hhead)
  exact (Array.getElem?_eq_some_iff.1 hcell).1

end Machine

/-- Both operands are the same register, or the same cell. -/
def Operand.SamePlace : Operand → Operand → Prop
  | .register r, .register s => r = s
  | .address index _, .address index' _ => index = index'
  | _, _ => False

namespace Machine

/-- The difference between the machine before an instruction and the one after it; in between
stands the machine in which the operands are resolved. -/
structure Framed (inst : Instruction) (operands : List Operand) (m mid m' : Machine) : Prop where
  /-- Resolving appends zero cells up to the largest address among the operands. -/
  lengthened : mid.memory = m.memory.lengthened (reachAll operands - m.memory.cells.size)
  /-- An address stands for the cell at that index, and holds its value. -/
  held : ∀ index held, .address index held ∈ operands →
    ¬ index < 0 ∧ mid.memory.cells[index.toNatClampNeg]? = some held
  does : inst.opcode.Does operands mid m'
  /-- A pop into the cell that it takes off puts that cell back. -/
  restored : inst.opcode = .pop → ∀ index held, operands = [.address index held] →
    index.toNatClampNeg + 1 = mid.memory.cells.size → m'.memory.cells = mid.memory.cells
  register : ∀ r, r ∉ inst.opcode.changes →
    (inst.opcode.assigns → operands.head? ≠ some (.register r)) →
    m'.memory.registers.get r = m.memory.registers.get r
  cell : ∀ k < m.memory.cells.size,
    (inst.opcode.assigns → ∀ index held, operands.head? = some (.address index held) →
      index.toNatClampNeg ≠ k) →
    (inst.opcode = .pop ∨ inst.opcode = .ret → k + 1 ≠ mid.memory.cells.size) →
    m'.memory.cells[k]? = m.memory.cells[k]?
  /-- An operand that is read only still holds its value, unless it is the place of the result. -/
  source : ∀ b ∈ operands, (∀ c, b ≠ .constant c) →
    (∀ r ∈ inst.opcode.changes, b ≠ .register r) →
    (inst.opcode.assigns → ∀ a, operands.head? = some a → ¬ a.SamePlace b) →
    b.Holds (b.get mid.memory.registers) m'.memory
  elsewhere : Elsewhere inst.opcode mid m'

/-- A pop into the cell that it takes off puts that cell back. -/
theorem Effect.cells_of_pop {index : Int64} {held : Value} {m m' : Machine}
    (h : Effect .pop [.address index held] m m')
    (hlast : index.toNatClampNeg + 1 = m.memory.cells.size) :
    m'.memory.cells = m.memory.cells := by
  obtain ⟨top, v, -, hback, rfl, -⟩ := h.does
  have hlt : index.toNatClampNeg < m.memory.cells.size := by omega
  have hv : m.memory.cells[index.toNatClampNeg] = v := by
    rw [back?_of_size hlast.symm, Array.getElem?_eq_getElem hlt] at hback
    exact Option.some.inj hback
  simp only [withMemory_memory, Operand.stored, Memory.written]
  apply Array.ext
  · simp only [Array.size_setIfInBounds, Memory.size_grown, Memory.size_popped]
    omega
  · intro k hk hk'
    have hgrown : k < (Memory.grown (m.memory.popped top).cells index.toNatClampNeg).size := by
      rw [Memory.size_grown]
      omega
    rw [Array.getElem_setIfInBounds hgrown]
    split
    · subst k
      exact hv.symm
    · have hshort : k < (m.memory.popped top).cells.size := by
        rw [Memory.size_popped]
        omega
      have hsame := (Memory.getElem?_grown_of_lt hshort index.toNatClampNeg).trans
        (Memory.getElem?_popped hshort)
      rw [Array.getElem?_eq_getElem hgrown, Array.getElem?_eq_getElem hk'] at hsame
      exact Option.some.inj hsame

/-- Addresses that are no negative ones and name the same cell are equal. -/
theorem index_eq_of_toNatClampNeg {index index' : Int64} (h : ¬ index < 0) (h' : ¬ index' < 0)
    (heq : index.toNatClampNeg = index'.toNatClampNeg) : index = index' := by
  rw [← Int64.toInt_inj, ← Memory.natCast_index h, ← Memory.natCast_index h', heq]

/-- An operand that is read only still holds its value, unless it is the place of the result. -/
theorem Effect.holds_of_resolved {inst : Instruction} {operands : List Operand} {b : Operand}
    {m mid m' : Machine} (hres : resolveAll inst.operands m = .ok operands mid)
    (h : Effect inst.opcode operands mid m') (hb : b ∈ operands) (hconst : ∀ c, b ≠ .constant c)
    (hchanges : ∀ r ∈ inst.opcode.changes, b ≠ .register r)
    (hdest : inst.opcode.assigns → ∀ a, operands.head? = some a → ¬ a.SamePlace b) :
    b.Holds (b.get mid.memory.registers) m'.memory := by
  cases b with
  | constant c => exact absurd rfl (hconst c)
  | register r =>
      exact h.memoryChange.register_eq (fun hr => hchanges r hr rfl) fun hop hhead => hdest hop _ hhead rfl
  | address index held =>
      have hcell := getElem?_of_resolveAll hres hb
      obtain ⟨-, haddress⟩ := lengthened_of_resolveAll hres
      have hlt : index.toNatClampNeg < mid.memory.cells.size :=
        (Array.getElem?_eq_some_iff.1 hcell).1
      refine (h.cell_eq_of_resolved hres hlt ?_ ?_).trans hcell
      · intro hop index' held' hhead heq
        have hneg := (haddress index held hb).2.1
        have hneg' := (haddress index' held' (List.mem_of_mem_head? hhead)).2.1
        exact hdest hop _ hhead (index_eq_of_toNatClampNeg hneg' hneg heq)
      · rintro (hop | hop)
        · rw [hop] at h
          cases h with
          | arithmetic hf _ _ => cases hf
          | pop _ _ =>
              obtain rfl := List.mem_singleton.1 hb
              exact absurd rfl (hdest (by rw [hop]; rfl) _ rfl)
        · rw [hop] at h
          cases h with
          | arithmetic hf _ _ => cases hf
          | ret _ => cases hb

/-- The machine with the instruction at `i` in its log. -/
def noted (m : Machine) (i : Int64) (inst : Instruction) : Machine :=
  m.logging (Text.paddedDecimal 3 i.toInt ++ Text.ofString ": " ++ inst.disassemble)

/-- An instruction that succeeds resolves its operands, which appends zero cells at most, and then
does what the table says of its opcode. All other registers and cells keep their values. -/
theorem execute_framed {i : Int64} {inst : Instruction} {m m' : Machine}
    (h : execute i inst m = .ok ⟨⟩ m') :
    ∃ operands mid, resolveAll inst.operands (m.noted i inst) = .ok operands mid ∧
      mid = (m.noted i inst).withMemory mid.memory ∧ Framed inst operands m mid m' := by
  rw [execute, bind_of_ok (modify_apply _ _), at_apply, ← noted] at h
  have hmemory : (m.noted i inst).memory = m.memory := logging_memory _ _
  cases hp : perform inst (m.noted i inst) with
  | error fault done => rw [hp] at h; cases h
  | ok u done =>
      rw [hp] at h
      cases h
      obtain ⟨operands, mid, hres, heff⟩ := perform_eq_ok hp
      obtain ⟨hmid, haddress⟩ := lengthened_of_resolveAll hres
      have hlengthened : mid.memory =
          m.memory.lengthened (reachAll operands - m.memory.cells.size) := by
        rw [hmid, hmemory, withMemory_memory]
      have hregisters : mid.memory.registers = m.memory.registers := by
        rw [hlengthened, Memory.lengthened_registers]
      refine ⟨operands, mid, hres, (resolveAll_kept hres).2, ?_⟩
      exact {
        lengthened := hlengthened
        held := fun index held hmem =>
          ⟨(haddress index held hmem).2.1, getElem?_of_resolveAll hres hmem⟩
        does := heff.does
        restored := fun hop index held hoperands hlast => by
          rw [hop, hoperands] at heff
          exact heff.cells_of_pop hlast
        register := fun r hr hdest => by
          rw [heff.memoryChange.register_eq hr hdest, hregisters]
        cell := fun k hk hassign htaken => by
          have hlt : k < mid.memory.cells.size := by
            rw [hlengthened, Memory.size_lengthened]
            omega
          rw [heff.cell_eq_of_resolved hres hlt hassign htaken, hlengthened,
            Memory.getElem?_lengthened hk]
        source := fun b hb hconst hchanges hdest =>
          heff.holds_of_resolved hres hb hconst hchanges hdest
        elsewhere := heff.elsewhere }

def poppingInPlace : Machine :=
  let m := Machine.initial .empty 2
  { m with memory := { m.memory with cells := #[.integer 5, .text (Text.ofString "x")] } }

theorem execute_framed_popping :
    ∃ operands mid m', execute 0 (.pop (Text.ofString "[rbp]")) poppingInPlace = .ok ⟨⟩ m' ∧
      Framed (.pop (Text.ofString "[rbp]")) operands poppingInPlace mid m' ∧
      m'.memory.cells = #[.integer 5, .text (Text.ofString "x")] ∧
      m'.memory.registers.sp = .integer 0 := by
  have hexecute := eq_ok_of_error?
    (r := execute 0 (.pop (Text.ofString "[rbp]")) poppingInPlace) (by decide +kernel)
  obtain ⟨operands, mid, -, -, hframed⟩ := execute_framed hexecute
  exact ⟨operands, mid, _, hexecute, hframed, by decide +kernel, by decide +kernel⟩

end Machine

end RegisterMachine

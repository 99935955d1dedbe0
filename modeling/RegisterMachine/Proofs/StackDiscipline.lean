import RegisterMachine.Proofs.Execution

/-!
# Stack discipline

A value that was pushed stays in its cell for as long as the stack does not shrink
below it and no instruction assigns to that cell, whatever else is pushed, popped,
called, grown or returned from above it. The pop or the return that takes the cell off
finds the value there, so a return resumes after its call.
-/
namespace RegisterMachine

open Stateful

/-- The opcodes that assign to their first operand. -/
def Opcode.assigns : Opcode → Bool
  | .mov | .tostring | .input | .pop | .lea => true
  | _ => false

/-- The operand is a register or a cell, and that place holds `v` now. -/
def Operand.Holds : Operand → Value → Memory → Prop
  | .constant _, _, _ => False
  | .register r, v, m => m.registers.get r = v
  | .address index _, v, m => m.cells[index.toNatClampNeg]? = some v

theorem Operand.holds_of_set {operand after : Operand} {v : Value} {m m' : Memory}
    (h : operand.set v m = .ok after m') : operand.Holds v m' := by
  obtain ⟨rfl, hconst, -⟩ := set_eq_ok h
  cases operand with
  | constant c => exact hconst c rfl
  | register r => exact RegisterFile.get_set_self _ _ _
  | address index held =>
      simp only [Holds, stored, Memory.written]
      rw [Array.getElem?_setIfInBounds_self_of_lt]
      rw [Memory.size_grown]
      omega

namespace Machine

/-- The next tick assigns to stack cell `k`: the first operand of its instruction, where that is
the place of the result, is the bracketed address of the cell. -/
def AssignsCell (m : Machine) (k : Nat) : Prop :=
  ∃ i inst token index held mid, m.Executes i inst ∧ inst.opcode.assigns ∧
    inst.operands.head? = some token ∧
    resolve token (m.entered i inst) = .ok (.address index held) mid ∧ index.toInt = k

/-- From `m` successful ticks lead to `m'`; after each of them the stack reaches beyond cell `k`,
and none of them assigns to that cell. -/
inductive RunAbove (k : Nat) (m : Machine) : Machine → Prop
  | start : RunAbove k m m
  | tick {mid m'} :
      RunAbove k m mid → Machine.tick mid = .ok ⟨⟩ m' → k < m'.memory.cells.size →
      ¬ mid.AssignsCell k → RunAbove k m m'

/-- A cell that is there after a pop stays as it was, unless it is the one that is assigned to: what
is taken off can only come back by an assignment. -/
theorem getElem?_of_pop {a after : Operand} {v : Value} {m m' : Memory} {top : Int64} {k : Nat}
    (hs : a.set v (m.popped top) = .ok after m') (hk' : k < m'.cells.size)
    (hother : ∀ index held, a = .address index held →
      index.toNatClampNeg ≠ k ∧ index.toNatClampNeg < m.cells.size) :
    m'.cells[k]? = m.cells[k]? := by
  obtain ⟨rfl, -, -⟩ := Operand.set_eq_ok hs
  by_cases hlt : k < (m.popped top).cells.size
  · rw [Operand.getElem?_stored v hlt fun index held ha => (hother index held ha).1]
    exact Memory.getElem?_popped hlt
  · rw [Memory.size_popped] at hlt
    have hle : (a.stored v (m.popped top)).cells.size ≤ k := by
      refine Operand.size_stored_le v (by rw [Memory.size_popped]; omega) fun index held ha => ?_
      have hindex := hother index held ha
      omega
    exact absurd hk' (Nat.not_lt.2 hle)

/-- Once operands are resolved, an instruction keeps every cell that it neither assigns to nor
takes off the stack. The first operand, if it is an address, has its cell already. -/
theorem Effect.cell_eq {op : Opcode} {operands : List Operand} {m m' : Machine} {k : Nat}
    (h : Effect op operands m m') (hk : k < m.memory.cells.size)
    (hk' : k < m'.memory.cells.size)
    (hother : op.assigns → ∀ index held, operands.head? = some (.address index held) →
      index.toNatClampNeg ≠ k ∧ index.toNatClampNeg < m.memory.cells.size) :
    m'.memory.cells[k]? = m.memory.cells[k]? := by
  have hset {a after : Operand} {v : Value} {memory memory' : Memory} (hop : op.assigns)
      (hhead : operands.head? = some a) (hlt : k < memory.cells.size)
      (hs : a.set v memory = .ok after memory') : memory'.cells[k]? = memory.cells[k]? := by
    obtain ⟨rfl, -, -⟩ := Operand.set_eq_ok hs
    refine Operand.getElem?_stored v hlt fun index held ha => ?_
    exact (hother hop index held (by rw [hhead, ha])).1
  cases h with
  | mov hs => exact hset rfl rfl hk hs
  | tostring hs => exact hset rfl rfl hk hs
  | lea hs => exact hset rfl rfl hk hs
  | input hline hs =>
      obtain ⟨devices, rfl⟩ := readLine_eq_ok hline
      exact hset rfl rfl hk hs
  | arithmetic _ _ hs =>
      cases hs
      rfl
  | output h => obtain ⟨devices, rfl⟩ := put_eq_ok h; rfl
  | debug h => obtain ⟨devices, rfl⟩ := showState_eq_ok h; rfl
  | halt _ _ => rw [paused_memory]
  | exit => rfl
  | jmp _ => rfl
  | push hp =>
      obtain ⟨top, -, rfl⟩ := Memory.push_eq_ok hp
      exact Memory.getElem?_pushed hk _ _
  | call _ hp =>
      obtain ⟨top, -, rfl⟩ := Memory.push_eq_ok hp
      exact Memory.getElem?_pushed hk top _
  | alloc _ _ hg =>
      obtain ⟨-, rfl⟩ := Memory.growTo_eq_ok hg
      exact Memory.getElem?_grown_of_lt hk _
  | ret hp =>
      obtain ⟨top, -, -, rfl⟩ := Memory.pop_eq_ok hp
      have hsame : (m.memory.popped top).cells[k]? = m.memory.cells[k]? :=
        Memory.getElem?_popped hk'
      exact hsame
  | pop hp hs =>
      obtain ⟨top, -, -, rfl⟩ := Memory.pop_eq_ok hp
      exact getElem?_of_pop hs hk' fun index held ha => hother rfl index held (by rw [ha]; rfl)

/-- A successful tick taken apart: the operands are resolved, the instruction has its effect, and
memory and program are what the effect left. -/
theorem effect_of_tick {m m' : Machine} {i : Int64} {inst : Instruction} (hx : m.Executes i inst)
    (h : Machine.tick m = .ok ⟨⟩ m') :
    ∃ operands mid done, resolveAll inst.operands (m.entered i inst) = .ok operands mid ∧
      Effect inst.opcode operands mid done ∧ m'.memory = done.memory ∧ m'.code = m.code := by
  obtain ⟨i', inst', done, hx', hp, rfl⟩ := tick_eq_ok.1 h
  obtain ⟨rfl, rfl⟩ := hx.unique hx'
  obtain ⟨operands, mid, hres, heff⟩ := perform_eq_ok hp
  obtain ⟨-, hmid⟩ := resolveAll_kept hres
  refine ⟨operands, mid, done, hres, heff, by simp, ?_⟩
  rw [paused_code, ticked_code, heff.code_eq, hmid, withMemory_code, entered_code]

/-- A first operand that is an address was resolved first, and its cell exists from then on. -/
theorem resolveAll_address {tokens : List Text} {operands : List Operand} {index : Int64}
    {held : Value} {m m' : Machine} (h : resolveAll tokens m = .ok operands m')
    (hhead : operands.head? = some (.address index held)) :
    ∃ token, tokens.head? = some token ∧
      ∃ mid, resolve token m = .ok (.address index held) mid ∧ ¬ index < 0 ∧
        index.toNatClampNeg < m'.memory.cells.size := by
  cases tokens with
  | nil =>
      obtain ⟨rfl, -⟩ := resolveAll_nil_eq_ok.1 h
      cases hhead
  | cons token tokens =>
      obtain ⟨operand, rest, mid, hfirst, hrest, rfl⟩ := resolveAll_cons_eq_ok.1 h
      cases hhead
      obtain ⟨memory, hres, rfl⟩ := resolve_eq_ok.1 hfirst
      obtain ⟨hneg, hlt⟩ := Operand.lt_size_of_resolve hres
      obtain ⟨hkept, -⟩ := resolveAll_kept hrest
      exact ⟨token, rfl, _, hfirst, hneg, Nat.lt_of_lt_of_le hlt hkept.length⟩

/-- One tick keeps a cell to which it does not assign, if the cell is there before and after. -/
theorem tick_cell_eq {m m' : Machine} {k : Nat} (h : Machine.tick m = .ok ⟨⟩ m')
    (hk : k < m.memory.cells.size) (hk' : k < m'.memory.cells.size) (hassign : ¬ m.AssignsCell k) :
    m'.memory.cells[k]? = m.memory.cells[k]? := by
  obtain ⟨i, inst, -, hx, -, -⟩ := tick_eq_ok.1 h
  obtain ⟨operands, mid, done, hres, heff, hm, -⟩ := effect_of_tick hx h
  obtain ⟨hkept, -⟩ := resolveAll_kept hres
  have hsize : k < (m.entered i inst).memory.cells.size := by simpa using hk
  rw [hm] at hk' ⊢
  rw [heff.cell_eq (Nat.lt_of_lt_of_le hsize hkept.length) hk' ?_, hkept.cells k hsize]
  · simp
  intro hop index held hhead
  obtain ⟨token, htoken, last, hfirst, hneg, hlt⟩ := resolveAll_address hres hhead
  refine ⟨fun he => hassign ⟨i, inst, token, index, held, last, hx, hop, htoken, hfirst, ?_⟩, hlt⟩
  rw [← Memory.natCast_index hneg, he]

/-- The run keeps the cell. -/
theorem RunAbove.cell_eq {k : Nat} {m m' : Machine} (h : RunAbove k m m')
    (hk : k < m.memory.cells.size) :
    k < m'.memory.cells.size ∧ m'.memory.cells[k]? = m.memory.cells[k]? ∧ m'.code = m.code := by
  induction h with
  | start => exact ⟨hk, rfl, rfl⟩
  | tick _ ht hk' hassign ih =>
      obtain ⟨hmid, hcell, hcode⟩ := ih
      obtain ⟨i, inst, -, hx, -, -⟩ := tick_eq_ok.1 ht
      obtain ⟨-, -, -, -, -, -, hcode'⟩ := effect_of_tick hx ht
      exact ⟨hk', (tick_cell_eq ht hmid hk' hassign).trans hcell, hcode'.trans hcode⟩

/-- The value that a push or a call of the instruction at `i` appends: the index after the call, or
the value of the operand. -/
def appended (op : Opcode) (i : Int64) (operand : Operand) (file : RegisterFile) : Value :=
  if op = .call then .integer (i + 1) else operand.get file

theorem cells_of_tick_push {m m' : Machine} {i : Int64} {inst : Instruction}
    (hx : m.Executes i inst) (hop : inst.opcode = .push ∨ inst.opcode = .call)
    (h : Machine.tick m = .ok ⟨⟩ m') :
    ∃ operand mid, resolveAll inst.operands (m.entered i inst) = .ok [operand] mid ∧
      m'.memory.cells =
        mid.memory.cells.push (appended inst.opcode i operand mid.memory.registers) := by
  obtain ⟨operands, mid, done, hres, heff, hm, -⟩ := effect_of_tick hx h
  obtain ⟨hkept, -⟩ := resolveAll_kept hres
  rw [hm]
  obtain hop | hop := hop
  · rw [hop] at heff
    cases heff with
    | arithmetic hf _ _ => cases hf
    | push hp =>
        obtain ⟨top, -, rfl⟩ := Memory.push_eq_ok hp
        refine ⟨_, mid, hres, ?_⟩
        rw [hop]
        rfl
  · rw [hop] at heff
    cases heff with
    | arithmetic hf _ _ => cases hf
    | call hn hp =>
        obtain ⟨top, -, rfl⟩ := Memory.push_eq_ok hp
        refine ⟨_, mid, hres, ?_⟩
        have hip : mid.memory.registers.ip = .integer (i + 1) := by
          rw [hkept.registers, entered_memory]
          rfl
        rw [appended, if_pos hop, ← hip]
        rfl

theorem back?_of_size {cells : Array Value} {k : Nat} (h : cells.size = k + 1) :
    cells.back? = cells[k]? := by
  rw [Array.back?, h]
  rfl

/-- A pop that finds `v` in the last cell takes that cell off and delivers `v`. -/
theorem memory_of_tick_pop {m m' mid : Machine} {i : Int64} {token : Text} {operand : Operand}
    {k : Nat} {v : Value} (hx : m.Executes i (.pop token))
    (hres : resolve token (m.entered i (.pop token)) = .ok operand mid)
    (hsize : mid.memory.cells.size = k + 1) (hv : mid.memory.cells[k]? = some v)
    (h : Machine.tick m = .ok ⟨⟩ m') :
    ∃ top, mid.memory.registers.integer .sp = .ok top ∧
      m'.memory = operand.stored v (mid.memory.popped top) ∧ operand.Holds v m'.memory := by
  obtain ⟨operands, mid', done, hres', heff, hm, -⟩ := effect_of_tick hx h
  have he : operands = [operand] ∧ mid' = mid := by
    have := hres'.symm.trans (resolveAll_one hres)
    cases this
    exact ⟨rfl, rfl⟩
  obtain ⟨rfl, rfl⟩ := he
  rw [hm]
  cases heff with
  | pop hp hs =>
      obtain ⟨top, htop, hback, rfl⟩ := Memory.pop_eq_ok hp
      rw [back?_of_size hsize, hv] at hback
      cases hback
      exact ⟨top, htop, (Operand.set_eq_ok hs).1, Operand.holds_of_set hs⟩

/-- A return that finds `v` in the last cell takes that cell off and goes on at `v`. -/
theorem memory_of_tick_ret {m m' : Machine} {i : Int64} {k : Nat} {v : Value}
    (hx : m.Executes i .ret) (hsize : m.memory.cells.size = k + 1)
    (hv : m.memory.cells[k]? = some v) (h : Machine.tick m = .ok ⟨⟩ m') :
    m'.memory.cells = m.memory.cells.pop ∧
      ∃ n, v = .integer n ∧ m'.memory.registers.ip = .integer n := by
  obtain ⟨operands, mid, done, hres, heff, hm, -⟩ := effect_of_tick hx h
  obtain ⟨rfl, rfl⟩ := resolveAll_nil_eq_ok.1 hres
  rw [hm]
  cases heff with
  | ret hp =>
      obtain ⟨top, -, hback, rfl⟩ := Memory.pop_eq_ok hp
      rw [entered_memory, atIp_cells, back?_of_size hsize, hv] at hback
      cases hback
      exact ⟨by simp [Memory.popped], _, rfl, rfl⟩

/-- After the instruction at `i` of a program that fits the machine's integers the next one is at
`i + 1`, or at 0 if there is none. -/
theorem nextIndex_of_ip {m : Machine} {i : Int64} (hneg : ¬ i < 0)
    (hi : i.toNatClampNeg < m.code.size) (hfits : m.code.size < 9223372036854775808)
    (hip : m.memory.registers.ip = .integer (i + 1)) :
    m.nextIndex = .ok (if i.toNatClampNeg + 1 < m.code.size then i + 1 else 0) := by
  have hcast := Memory.natCast_index hneg
  have hnext : (i + 1).toInt = i.toInt + 1 := by
    rw [Int64.toInt_add, Int64.toInt_one, Int.bmod_eq_of_le] <;> omega
  have hempty : ¬ m.code.isEmpty := by
    rw [Array.isEmpty_iff_size_eq_zero]
    omega
  have hint : m.memory.registers.integer .ip = .ok (i + 1) := by
    simp only [RegisterFile.integer, RegisterFile.get, hip]
  simp only [nextIndex, if_neg hempty, hint, hnext]
  by_cases hlt : i.toNatClampNeg + 1 < m.code.size
  · have hpos : ¬ i + 1 < 0 := by
      rw [Int64.lt_iff_toInt_lt, hnext, Int64.toInt_zero]
      omega
    have hinside : ¬ (m.code.size : Int) ≤ i.toInt + 1 := by omega
    rw [if_neg hinside, if_neg hpos, if_pos hlt]
  · have hend : (m.code.size : Int) ≤ i.toInt + 1 := by omega
    rw [if_pos hend, if_neg Int64.lt_irrefl, if_neg hlt]

/-- A push or a call at `i` appends a value `v` at the end `k` of the stack. After any run above
`k`, cell `k` holds `v`. A pop that then finds the stack ending at `k` takes that cell off and
delivers `v` to its operand; a return takes it off and goes on at `v`, which for a call is the
instruction after it, if the length of the program is a machine integer. -/
theorem pushed_value_comes_back {m₀ m : Machine} {i : Int64} {inst : Instruction}
    (hx : m₀.Executes i inst) (hop : inst.opcode = .push ∨ inst.opcode = .call)
    (h : Machine.tick m₀ = .ok ⟨⟩ m) :
    ∃ k v operand mid, resolveAll inst.operands (m₀.entered i inst) = .ok [operand] mid ∧
      mid.memory.cells.size = k ∧ m.memory.cells = mid.memory.cells.push v ∧
      v = appended inst.opcode i operand mid.memory.registers ∧
      ∀ m₁, RunAbove k m m₁ → m₁.memory.cells[k]? = some v ∧
        (∀ j token target mid' m₂, m₁.Executes j (.pop token) →
          resolve token (m₁.entered j (.pop token)) = .ok target mid' →
          mid'.memory.cells.size = k + 1 → Machine.tick m₁ = .ok ⟨⟩ m₂ →
          ∃ top, mid'.memory.registers.integer .sp = .ok top ∧
            m₂.memory = target.stored v (mid'.memory.popped top) ∧ target.Holds v m₂.memory) ∧
        (∀ j m₂, m₁.Executes j .ret → m₁.memory.cells.size = k + 1 →
          Machine.tick m₁ = .ok ⟨⟩ m₂ →
          m₂.memory.cells = m₁.memory.cells.pop ∧
            (∃ n, v = .integer n ∧ m₂.memory.registers.ip = .integer n) ∧
            (inst.opcode = .call → m₀.code.size < 9223372036854775808 →
              m₂.nextIndex = .ok (if i.toNatClampNeg + 1 < m₀.code.size then i + 1 else 0))) := by
  obtain ⟨operand, mid, hres, hcells⟩ := cells_of_tick_push hx hop h
  refine ⟨_, _, operand, mid, hres, rfl, hcells, rfl, fun m₁ hrun => ?_⟩
  have hlt : mid.memory.cells.size < m.memory.cells.size := by
    rw [hcells, Array.size_push]
    omega
  obtain ⟨hlt', hcell, hcode⟩ := hrun.cell_eq hlt
  rw [hcells, Array.getElem?_push_size] at hcell
  refine ⟨hcell, ?_, ?_⟩
  · intro j token target mid' m₂ hpop htarget hsize ht
    obtain ⟨memory, hmem, rfl⟩ := resolve_eq_ok.1 htarget
    refine memory_of_tick_pop hpop htarget hsize ?_ ht
    rw [withMemory_memory, (Operand.resolve_kept hmem).cells _ (by simpa using hlt'),
      entered_memory, atIp_cells, hcell]
  · intro j m₂ hret hsize ht
    obtain ⟨hpop, n, hn, hip⟩ := memory_of_tick_ret hret hsize hcell ht
    refine ⟨hpop, ⟨n, hn, hip⟩, fun hcall hfits => ?_⟩
    rw [appended, if_pos hcall] at hn
    cases hn
    obtain ⟨-, -, -, -, -, -, hcode₀⟩ := effect_of_tick hx h
    obtain ⟨-, -, -, -, -, -, hcode₂⟩ := effect_of_tick hret ht
    have hcode' : m₂.code = m₀.code := hcode₂.trans (hcode.trans hcode₀)
    obtain ⟨hneg, hi⟩ := lt_size_of_nextIndex hx.1
    rw [← hcode'] at hi hfits ⊢
    exact nextIndex_of_ip hneg hi hfits hip

def callingRoutine : Machine :=
  { Machine.initial .empty 0 with
    code := #[.call (Text.ofString "2"), .exit, .push (Text.ofString "7"),
      .pop (Text.ofString "rax"), .ret]
    running := true }

theorem pushed_value_comes_back_call :
    RunAbove 0 (callingRoutine.run 1).2 (callingRoutine.run 3).2 ∧
      Machine.tick (callingRoutine.run 3).2 = .ok ⟨⟩ (callingRoutine.run 4).2 ∧
      (callingRoutine.run 3).2.memory.cells[0]? = some (.integer 1) ∧
      (callingRoutine.run 4).2.nextIndex = .ok 1 := by
  have hpush : ¬ (callingRoutine.run 1).2.AssignsCell 0 := by
    rintro ⟨i, inst, token, index, held, mid, hx, hop, -⟩
    have hx' : (callingRoutine.run 1).2.Executes 2 (.push (Text.ofString "7")) := ⟨rfl, rfl⟩
    obtain ⟨rfl, rfl⟩ := hx'.unique hx
    cases hop
  have hpop : ¬ (callingRoutine.run 2).2.AssignsCell 0 := by
    rintro ⟨i, inst, token, index, held, mid, hx, -, htoken, hres, -⟩
    have hx' : (callingRoutine.run 2).2.Executes 3 (.pop (Text.ofString "rax")) := ⟨rfl, rfl⟩
    obtain ⟨rfl, rfl⟩ := hx'.unique hx
    cases htoken
    cases hres
  have hrun : RunAbove 0 (callingRoutine.run 1).2 (callingRoutine.run 3).2 :=
    .tick (.tick .start rfl (by decide) hpush) rfl (by decide) hpop
  have hret : (callingRoutine.run 3).2.Executes 4 .ret := ⟨rfl, rfl⟩
  have hcall : callingRoutine.Executes 0 (.call (Text.ofString "2")) := ⟨rfl, rfl⟩
  have htick : Machine.tick callingRoutine = .ok ⟨⟩ (callingRoutine.run 1).2 := rfl
  obtain ⟨k, v, operand, mid, -, hk, hcells, hv, hback⟩ :=
    pushed_value_comes_back hcall (.inr rfl) htick
  have hzero : k = 0 := by
    have hsize : (callingRoutine.run 1).2.memory.cells.size = 1 := rfl
    rw [hcells, Array.size_push, hk] at hsize
    omega
  subst hzero
  obtain ⟨hcell, -, hreturn⟩ := hback _ hrun
  refine ⟨hrun, rfl, hcell.trans (congrArg some hv), ?_⟩
  exact (hreturn 4 _ hret rfl rfl).2.2 rfl (by decide)

end Machine

end RegisterMachine

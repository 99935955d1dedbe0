import RegisterMachine.Proofs.Assembler.Layout
import RegisterMachine.Proofs.EffectFrame

/-!
# Where a run goes

Only jumps, calls and returns set the instruction pointer, besides instructions that name `rip` for
their written operand. Without the latter, the machine goes on at the target of a jump or behind
the instruction, and starts over past the end of the program; so nothing but a negative target can
leave it without an instruction. Labels and numerals are no negative targets.
-/
namespace RegisterMachine

open Stateful
open Text (ofString)

/-- The opcodes that set the instruction pointer. -/
def Opcode.jumps : Opcode → Bool
  | .jmp | .call | .ret => true
  | _ => false

theorem Opcode.ip_not_mem_changes {op : Opcode} (h : ¬ op.jumps) : Register.ip ∉ op.changes := by
  cases op <;> first | decide | exact absurd rfl h

namespace Machine

/-- The instruction at `i` goes to a target: a jump and a call to the value of their operand, a
return to the value at the end of the stack. -/
inductive GoesTo (m : Machine) (i : Int64) : Instruction → Int64 → Prop
  | jmp {a operand mid target} :
      resolve a (m.entered i (.jmp a)) = .ok operand mid →
      operand.get mid.memory.registers = .integer target → GoesTo m i (.jmp a) target
  | call {a operand mid target} :
      resolve a (m.entered i (.call a)) = .ok operand mid →
      operand.get mid.memory.registers = .integer target → GoesTo m i (.call a) target
  | ret {target} : m.memory.cells.back? = some (.integer target) → GoesTo m i .ret target

/-- A jump that succeeds leads to its target. -/
theorem goesTo_of_perform {m m' : Machine} {i : Int64} {inst : Instruction}
    (hjumps : inst.opcode.jumps) (h : perform inst (m.entered i inst) = .ok ⟨⟩ m') :
    ∃ target, GoesTo m i inst target ∧ m'.memory.registers.ip = .integer target := by
  obtain ⟨operands, mid, hres, heff⟩ := perform_eq_ok h
  cases inst with
  | jmp a =>
      cases heff with
      | arithmetic hop _ _ => cases hop
      | jmp hn => exact ⟨_, .jmp (resolve_of_resolveAll_one hres) hn, rfl⟩
  | call a =>
      cases heff with
      | arithmetic hop _ _ => cases hop
      | call hn _ => exact ⟨_, .call (resolve_of_resolveAll_one hres) hn, rfl⟩
  | ret =>
      obtain ⟨rfl, rfl⟩ := resolveAll_nil_eq_ok.1 hres
      cases heff with
      | ret hp =>
          obtain ⟨top, -, hback, -⟩ := Memory.pop_eq_ok hp
          rw [entered_memory, atIp_cells] at hback
          exact ⟨_, .ret hback, rfl⟩
  | _ => cases hjumps

/-- An instruction that is no jump and does not write to the instruction pointer leaves it at the
next index. -/
theorem ip_of_perform {m m' : Machine} {i : Int64} {inst : Instruction}
    (hjumps : ¬ inst.opcode.jumps) (hwritten : inst.writtenOperand? ≠ some (ofString "rip"))
    (h : perform inst (m.entered i inst) = .ok ⟨⟩ m') :
    m'.memory.registers.ip = .integer (i + 1) := by
  obtain ⟨operands, mid, hres, heff⟩ := perform_eq_ok h
  obtain ⟨hmid, -⟩ := lengthened_of_resolveAll hres
  have hip : m'.memory.registers.ip = mid.memory.registers.ip :=
    heff.memoryChange.register_eq (Opcode.ip_not_mem_changes hjumps)
      (head?_ne_of_writtenOperand? (.inl rfl) hwritten hres)
  rw [hip, hmid, withMemory_memory, Memory.lengthened_registers, entered_memory]
  rfl

/-- After a tick the instruction pointer is at the target of a jump that succeeds, and one further
after any other instruction. -/
theorem ip_tick {m : Machine} {i : Int64} {inst : Instruction} (hx : m.Executes i inst)
    (hwritten : inst.writtenOperand? ≠ some (ofString "rip")) :
    (inst.opcode.jumps ∧ tick m = .ok ⟨⟩ (endState (tick m)) ∧
        ∃ target, GoesTo m i inst target ∧
          (endState (tick m)).memory.registers.ip = .integer target) ∨
      (inst.opcode.jumps → ∃ failure, tick m = .error failure (endState (tick m))) ∧
        (endState (tick m)).memory.registers.ip = .integer (i + 1) := by
  rw [memory_endState_tick hx, tick_of_executes hx]
  cases hp : perform inst (m.entered i inst) with
  | error fault done =>
      refine .inr ⟨fun _ => ⟨_, rfl⟩, ?_⟩
      have hip := register_of_perform_error hp (by decide : Register.ip ≠ .sp)
      rw [entered_memory] at hip
      exact hip
  | ok u done =>
      by_cases hjumps : inst.opcode.jumps
      · obtain ⟨target, hgoes, hip⟩ := goesTo_of_perform hjumps hp
        exact .inl ⟨hjumps, rfl, target, hgoes, hip⟩
      · exact .inr ⟨fun h => absurd h hjumps, ip_of_perform hjumps hwritten hp⟩

/-- The machine fetches the instruction at an index. -/
def Fetches (m : Machine) (i : Int64) : Prop := fetch m = .ok i (m.atIp i)

theorem fetches_iff {m : Machine} {i : Int64} : m.Fetches i ↔ m.nextIndex = .ok i := by
  rw [Fetches, fetch_apply]
  constructor
  · intro h
    cases hn : m.nextIndex with
    | error fault => rw [hn] at h; cases h
    | ok j =>
        rw [hn] at h
        injection h with hij
        rw [hij]
  · intro h
    rw [h]

/-- How it goes on after the instruction at `i`. -/
inductive GoesOn (m : Machine) (i : Int64) (inst : Instruction) (m' : Machine) : Prop
  /-- At the target; past the end of the program at the first instruction. -/
  | jump {target : Int64} : inst.opcode.jumps → tick m = .ok ⟨⟩ m' → GoesTo m i inst target →
      0 ≤ target → m'.Fetches (if (m.code.size : Int) ≤ target.toInt then 0 else target) →
      GoesOn m i inst m'
  /-- Nowhere: the target is negative. -/
  | lost {target : Int64} : inst.opcode.jumps → tick m = .ok ⟨⟩ m' → GoesTo m i inst target →
      target < 0 → fetch m' = .error (.ipRange target) m' → GoesOn m i inst m'
  /-- At the instruction behind; past the end of the program at the first one. So it does also after
  a jump that fails. -/
  | behind : (inst.opcode.jumps → ∃ failure, tick m = .error failure m') →
      m'.Fetches (if i.toNatClampNeg + 1 < m.code.size then i + 1 else 0) → GoesOn m i inst m'

theorem wrapped_of_neg {size : Nat} {ip : Int64} (h : ip < 0) : wrapped size ip = ip := by
  rw [Int64.lt_iff_toInt_lt, Int64.toInt_zero] at h
  rw [wrapped, if_neg (by omega)]

theorem not_wrapped_neg {size : Nat} {ip : Int64} (h : ¬ ip < 0) : ¬ wrapped size ip < 0 := by
  unfold wrapped
  split
  · exact Int64.lt_irrefl
  · exact h

/-- A pointer at an integer that is not negative has an instruction. -/
theorem fetches_of_ip {m : Machine} {ip : Int64} (hcode : m.code ≠ #[])
    (hip : m.memory.registers.ip = .integer ip) (h : ¬ ip < 0) :
    m.Fetches (wrapped m.code.size ip) := by
  rw [fetches_iff, nextIndex_of_integer hcode hip, if_neg (not_wrapped_neg h)]

theorem fetch_of_neg {m : Machine} {ip : Int64} (hcode : m.code ≠ #[])
    (hip : m.memory.registers.ip = .integer ip) (h : ip < 0) :
    fetch m = .error (.ipRange ip) m := by
  rw [fetch_apply, nextIndex_of_integer hcode hip, wrapped_of_neg h, if_pos h]

/-- A tick of a program that fits the integers of the machine. -/
theorem goesOn_tick {m : Machine} {i : Int64} {inst : Instruction} (hx : m.Executes i inst)
    (hfits : m.code.size < 9223372036854775808)
    (hwritten : inst.writtenOperand? ≠ some (ofString "rip")) :
    GoesOn m i inst (endState (tick m)) := by
  have hcode : (endState (tick m)).code = m.code := (steady_tick m).code
  obtain ⟨hneg, hlt⟩ := lt_size_of_nextIndex hx.1
  obtain ⟨hjumps, htick, target, hgoes, hip⟩ | ⟨hfail, hip⟩ := ip_tick hx hwritten
  · have hnonempty : (endState (tick m)).code ≠ #[] := hcode ▸ (nextIndex_eq_ok hx.1).1
    by_cases htarget : target < 0
    · exact .lost hjumps htick hgoes htarget (fetch_of_neg hnonempty hip htarget)
    · have hfetches := fetches_of_ip hnonempty hip htarget
      rw [hcode] at hfetches
      exact .jump hjumps htick hgoes (Int64.not_lt.1 htarget) hfetches
  · refine .behind hfail (fetches_iff.2 ?_)
    rw [← hcode] at hlt hfits ⊢
    exact nextIndex_of_ip hneg hlt hfits hip

theorem labels_tick (m : Machine) : (endState (tick m)).labels = m.labels := by
  obtain ⟨memory, running, slept, devices, ticks, log, h⟩ := endState_tick_frame m
  rw [h]

theorem labels_afterTicks (m : Machine) (n : Nat) : (m.afterTicks n).labels = m.labels :=
  afterTicks_induction (P := fun m' => m'.labels = m.labels) rfl
    (fun m' h => (labels_tick m').trans h) n

end Machine

/-- The token names a place in the program: it is a numeral, or a declared label that resolves to
its index. -/
inductive Operand.NamesPlace (labels : NameTable) (token : Text) : Prop
  | numeral : token.isDigits → NamesPlace labels token
  | label {index : Int64} : labels.find? token = some index →
      (∀ m, resolve labels token m = .ok (.constant (.integer index)) m) →
      NamesPlace labels token

/-- The instruction is no return, and if it is a jump or a call, then to a named place. -/
def Instruction.Anchored (labels : NameTable) (inst : Instruction) : Prop :=
  inst ≠ .ret ∧ ∀ a, inst = .jmp a ∨ inst = .call a → Operand.NamesPlace labels a

/-- A named place is an integer, and not a negative one if no label is. -/
theorem Operand.NamesPlace.not_neg {labels : NameTable} {token : Text} {operand : Operand}
    {target : Int64} {m m' : Memory} (h : NamesPlace labels token)
    (hlabels : ∀ name index, labels.find? name = some index → ¬ index < 0)
    (hres : resolve labels token m = .ok operand m')
    (htarget : operand.get m'.registers = .integer target) : ¬ target < 0 := by
  cases h with
  | numeral hdigits =>
      rw [resolve_of_isDigits hdigits, numeral?] at hres
      by_cases hfits : Text.digitsValue token < 9223372036854775808
      · rw [if_pos hfits] at hres
        cases hres
        cases htarget
        rw [Int64.lt_iff_toInt_lt, Int64.toInt_ofNat_of_lt hfits, Int64.toInt_zero]
        omega
      · rw [if_neg hfits] at hres
        cases hres
  | @label index hfind hindex =>
      rw [hindex] at hres
      cases hres
      cases htarget
      exact hlabels _ _ hfind

namespace Machine

theorem GoesTo.not_neg {m : Machine} {i target : Int64} {inst : Instruction}
    (h : GoesTo m i inst target) (hanchored : inst.Anchored m.labels)
    (hlabels : ∀ name index, m.labels.find? name = some index → ¬ index < 0) : ¬ target < 0 := by
  have hplace {a : Text} {operand : Operand} {mid : Machine}
      (ha : Operand.NamesPlace m.labels a)
      (hres : resolve a (m.entered i inst) = .ok operand mid)
      (htarget : operand.get mid.memory.registers = .integer target) : ¬ target < 0 := by
    obtain ⟨memory, htoken, rfl⟩ := resolve_eq_ok.1 hres
    rw [entered_labels] at htoken
    exact ha.not_neg hlabels htoken htarget
  cases h with
  | jmp hres htarget => exact hplace (hanchored.2 _ (.inl rfl)) hres htarget
  | call hres htarget => exact hplace (hanchored.2 _ (.inr rfl)) hres htarget
  | ret _ => exact absurd rfl hanchored.1

/-- The instruction that took the machine from one state to another was a jump to a negative target,
at which nothing can be fetched. -/
inductive Strays (m m' : Machine) : Fault → Prop
  | jump {i target : Int64} {inst : Instruction} :
      m.Executes i inst → inst.opcode.jumps → tick m = .ok ⟨⟩ m' → GoesTo m i inst target →
      target < 0 → Strays m m' (.ipRange target)

theorem exists_ip_afterTicks {m : Machine} {entry : Int64}
    (hwrites : NeverWrites (ofString "rip") m) (hip : m.memory.registers.ip = .integer entry)
    (n : Nat) : ∃ ip, (m.afterTicks n).memory.registers.ip = .integer ip := by
  induction n with
  | zero => exact ⟨entry, hip⟩
  | succ n ih =>
      rw [afterTicks_succ]
      cases hn : (m.afterTicks n).nextIndex with
      | error fault =>
          rw [endState_tick_of_error hn]
          exact ih
      | ok i =>
          obtain ⟨inst, hx⟩ := exists_executes hn
          obtain ⟨-, -, target, -, hip⟩ | ⟨-, hip⟩ :=
            ip_tick hx ((hwrites.afterTicks n).of_executes hx)
          · exact ⟨target, hip⟩
          · exact ⟨i + 1, hip⟩

theorem goesOn_afterTicks {m : Machine} {n : Nat} {i : Int64} {inst : Instruction}
    (hwrites : NeverWrites (ofString "rip") m) (hfits : m.code.size < 9223372036854775808)
    (hx : (m.afterTicks n).Executes i inst) :
    GoesOn (m.afterTicks n) i inst (m.afterTicks (n + 1)) := by
  rw [afterTicks_succ]
  refine goesOn_tick hx ?_ ((hwrites.afterTicks n).of_executes hx)
  rw [(steady_afterTicks m n).code]
  exact hfits

/-- Only a jump to a negative target leaves the machine without an instruction; and there it stays,
because a tick without an instruction changes nothing. -/
theorem strays_of_fetch_error {m : Machine} {n : Nat} {start : Int64} {fault : Fault}
    (hwrites : NeverWrites (ofString "rip") m) (hfits : m.code.size < 9223372036854775808)
    (hstart : m.Fetches start) (h : (m.afterTicks n).nextIndex = .error fault) :
    ∃ k < n, Strays (m.afterTicks k) (m.afterTicks (k + 1)) fault ∧
      m.afterTicks n = m.afterTicks (k + 1) := by
  induction n with
  | zero => exact absurd ((fetches_iff.1 hstart).symm.trans h) nofun
  | succ n ih =>
      cases hn : (m.afterTicks n).nextIndex with
      | error cause =>
          have hsame : m.afterTicks (n + 1) = m.afterTicks n := by
            rw [afterTicks_succ, endState_tick_of_error hn]
          rw [hsame] at h ⊢
          obtain ⟨k, hk, hstrays⟩ := ih h
          exact ⟨k, Nat.lt_succ_of_lt hk, hstrays⟩
      | ok i =>
          obtain ⟨inst, hx⟩ := exists_executes hn
          have hfetch : fetch (m.afterTicks (n + 1)) = .error fault (m.afterTicks (n + 1)) := by
            rw [fetch_apply, h]
          cases goesOn_afterTicks hwrites hfits hx with
          | jump _ _ _ _ hfetches => exact absurd (hfetch.symm.trans hfetches) nofun
          | behind _ hfetches => exact absurd (hfetch.symm.trans hfetches) nofun
          | lost hjumps htick hgoes hneg hlost =>
              have hfault := hfetch.symm.trans hlost
              injection hfault with hfault
              rw [hfault]
              exact ⟨n, Nat.lt_succ_self n, .jump hx hjumps htick hgoes hneg, rfl⟩

/-- What holds of the state `n` ticks after a start. -/
structure Directed (start : Machine) (n : Nat) : Prop where
  ip : ∃ ip, (start.afterTicks n).memory.registers.ip = .integer ip
  /-- What is fetched after the instruction at `i`. -/
  next : ∀ i inst, (start.afterTicks n).Executes i inst →
    GoesOn (start.afterTicks n) i inst (start.afterTicks (n + 1))
  /-- Why nothing can be fetched. -/
  fault : ∀ fault m', fetch (start.afterTicks n) = .error fault m' →
    ∃ k < n, Strays (start.afterTicks k) (start.afterTicks (k + 1)) fault ∧
      start.afterTicks n = start.afterTicks (k + 1)
  /-- Named places cannot be missed. -/
  anchored : (∀ inst ∈ start.code, inst.Anchored start.labels) →
    ∃ i, (start.afterTicks n).Fetches i

/-- A machine that starts an assembled program at its entry fetches the instruction there. As long
as no instruction writes to `rip`, it then goes on behind each instruction or at the target of a
jump; it comes to nothing only after a jump to a negative target, and never if all jumps and calls
are to named places and there are no returns. -/
theorem every_fetch_directed {evaluate : Evaluator} {asm : Assembler} {reader : Reader}
    {program : Program} {m : Machine} (hparse : (asm.parse evaluate reader).1 = .ok program)
    (hnonempty : program.instructions ≠ #[])
    (hfits : program.instructions.size < 9223372036854775808)
    (hcode : m.code = program.instructions) (hlabels : m.labels = program.labels)
    (hwrites : NeverWrites (ofString "rip") m) :
    (m.started program.entry).Fetches
        (if (program.instructions.size : Int) ≤ program.entry.toInt then 0 else program.entry) ∧
      ∀ n, Directed (m.started program.entry) n := by
  have hlaid := Assembler.laidOut_of_parse hparse
  have hbounds (name : Text) (index : Int64)
      (hfind : (m.started program.entry).labels.find? name = some index) : ¬ index < 0 := by
    have hlower := (hlaid.index hfits name index (hlabels ▸ hfind)).1
    rw [Int64.lt_iff_toInt_lt, Int64.toInt_zero]
    omega
  have hentry : ¬ program.entry < 0 := hbounds asm.entry program.entry (by
    show m.labels.find? asm.entry = some program.entry
    rw [hlabels, hlaid.entry])
  have hwrites' : NeverWrites (ofString "rip") (m.started program.entry) := hwrites
  have hfits' : (m.started program.entry).code.size < 9223372036854775808 := by
    show m.code.size < _
    rwa [hcode]
  have hip : (m.started program.entry).memory.registers.ip = .integer program.entry := rfl
  have hfirst := fetches_of_ip (m := m.started program.entry)
    (by show m.code ≠ #[]; rwa [hcode]) hip hentry
  refine ⟨?_, fun n => ?_⟩
  · rw [← hcode]
    exact hfirst
  have hfault (fault : Fault)
      (hnext : ((m.started program.entry).afterTicks n).nextIndex = .error fault) :=
    strays_of_fetch_error hwrites' hfits' hfirst hnext
  exact {
    ip := exists_ip_afterTicks hwrites' hip n
    next := fun i inst hx => goesOn_afterTicks hwrites' hfits' hx
    fault := fun fault m' hfetch => by
      refine hfault fault ?_
      rw [fetch_apply] at hfetch
      split at hfetch <;> cases hfetch
      assumption
    anchored := fun hanchored => by
      cases hn : ((m.started program.entry).afterTicks n).nextIndex with
      | ok i => exact ⟨i, fetches_iff.2 hn⟩
      | error fault =>
          obtain ⟨k, -, ⟨hx, -, -, hgoes, hneg⟩, -⟩ := hfault fault hn
          have hlabels' := labels_afterTicks (m.started program.entry) k
          have hmem := Array.mem_of_getElem? hx.2
          rw [(steady_afterTicks _ k).code] at hmem
          rw [← hlabels'] at hbounds hanchored
          exact absurd hneg (hgoes.not_neg (hanchored _ hmem) hbounds) }

def holding (program : Program) : Machine :=
  { Machine.initial program.labels 2 with code := program.instructions }

def loopingText : Text := ofString "!_start\npush:1\n!again\njmp:again"

def loopingProgram : Program :=
  ⟨#[.push (ofString "1"), .jmp (ofString "again")],
    #[⟨2, ofString "push:1"⟩, ⟨4, ofString "jmp:again"⟩],
    .ofPairs [(ofString "_start", 0), (ofString "again", 1)], 0⟩

def strayingText : Text := ofString "!_start\nsub:0:1\njmp:rax"

def strayingProgram : Program :=
  ⟨#[.sub (ofString "0") (ofString "1"), .jmp (ofString "rax")],
    #[⟨2, ofString "sub:0:1"⟩, ⟨3, ofString "jmp:rax"⟩], .ofPairs [(ofString "_start", 0)], 0⟩

theorem every_fetch_directed_straying :
    let evaluate : Evaluator := fun _ _ => (.failed, [])
    ((Assembler.initial.parse evaluate (Reader.ofText loopingText)).1 = .ok loopingProgram ∧
      (∀ inst ∈ (holding loopingProgram).code, inst.Anchored (holding loopingProgram).labels) ∧
      ∃ i, (((holding loopingProgram).started 0).afterTicks 9).Fetches i) ∧
    (Assembler.initial.parse evaluate (Reader.ofText strayingText)).1 = .ok strayingProgram ∧
      NeverWrites (ofString "rip") (holding strayingProgram) ∧
      Directed ((holding strayingProgram).started 0) 2 ∧
      ∃ m', fetch (((holding strayingProgram).started 0).afterTicks 2) =
        .error (.ipRange (-1)) m' := by
  intro evaluate
  have hlooping : (Assembler.initial.parse evaluate (Reader.ofText loopingText)).1 =
      .ok loopingProgram := by decide +kernel
  have hstraying : (Assembler.initial.parse evaluate (Reader.ofText strayingText)).1 =
      .ok strayingProgram := by decide +kernel
  have hwrites : NeverWrites (ofString "rip") (holding strayingProgram) := by decide
  have hanchored : ∀ inst ∈ (holding loopingProgram).code,
      inst.Anchored (holding loopingProgram).labels := by
    intro inst hmem
    have hcases : inst = .push (ofString "1") ∨ inst = .jmp (ofString "again") := by
      simpa [holding, loopingProgram] using hmem
    obtain rfl | rfl := hcases
    · exact ⟨nofun, by rintro a (h | h) <;> cases h⟩
    · refine ⟨nofun, ?_⟩
      rintro a (h | h) <;> cases h
      have hfind : (holding loopingProgram).labels.find? (ofString "again") = some 1 := by decide
      exact .label hfind fun _ => rfl
  refine ⟨⟨hlooping, hanchored, ?_⟩, hstraying, hwrites, ?_, ?_⟩
  · exact ((every_fetch_directed hlooping (by decide) (by decide) rfl rfl (by decide)).2 9).anchored
      hanchored
  · exact (every_fetch_directed hstraying (by decide) (by decide) rfl rfl hwrites).2 2
  · exact ⟨_, eq_error_of_error? (by decide +kernel)⟩

end Machine

end RegisterMachine

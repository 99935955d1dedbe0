import RegisterMachine.Proofs.Operand

/-!
# One tick taken apart

A successful tick finds an instruction, resolves its operands in order and then has one
effect on what was resolved. `tick_eq_ok` and `perform_eq_ok` invert a successful tick
once for all instructions; what a run preserves is read off the cases of `Effect`.
-/
namespace RegisterMachine.Machine

open Stateful

def withMemory (m : Machine) (memory : Memory) : Machine := { m with memory }

@[simp] theorem withMemory_memory (m : Machine) (memory : Memory) :
    (m.withMemory memory).memory = memory := rfl

@[simp] theorem withMemory_code (m : Machine) (memory : Memory) :
    (m.withMemory memory).code = m.code := rfl

@[simp] theorem withMemory_labels (m : Machine) (memory : Memory) :
    (m.withMemory memory).labels = m.labels := rfl

@[simp] theorem withMemory_withMemory (m : Machine) (memory memory' : Memory) :
    (m.withMemory memory).withMemory memory' = m.withMemory memory' := rfl

@[simp] theorem withMemory_self (m : Machine) : m.withMemory m.memory = m := rfl

def atIp (m : Machine) (i : Int64) : Machine :=
  m.withMemory { m.memory with registers := m.memory.registers.set .ip (.integer i) }

/-- The index of the next instruction, or the fault that there is none. -/
def nextIndex (m : Machine) : Except Fault Int64 :=
  if m.code.isEmpty then .error .programEmpty
  else match m.memory.registers.integer .ip with
    | .error fault => .error fault
    | .ok ip =>
        let i : Int64 := if (m.code.size : Int) ≤ ip.toInt then 0 else ip
        if i < 0 then .error (.ipRange i) else .ok i

/-- The index for a pointer: past the end of a program, the index of its first instruction. -/
def wrapped (size : Nat) (ip : Int64) : Int64 := if (size : Int) ≤ ip.toInt then 0 else ip

/-- The next tick executes `inst`, the instruction at index `i`. -/
def Executes (m : Machine) (i : Int64) (inst : Instruction) : Prop :=
  m.nextIndex = .ok i ∧ m.code[i.toNatClampNeg]? = some inst

/-- The state in which the operands of the instruction at `i` are resolved: `ip` is one further,
and the log knows the instruction. -/
def entered (m : Machine) (i : Int64) (inst : Instruction) : Machine :=
  (m.atIp (i + 1)).logging (Text.paddedDecimal 3 i.toInt ++ Text.ofString ": " ++ inst.disassemble)

def paused (m : Machine) (steps : Int64) : Machine :=
  if m.sleeper.isSome && 0 < m.speed then m.sleep (pauseLength m.speed steps) else m

def ticked (m : Machine) : Machine := { m with ticks := m.ticks + 1 }

@[simp] theorem ticked_memory (m : Machine) : m.ticked.memory = m.memory := rfl

@[simp] theorem ticked_code (m : Machine) : m.ticked.code = m.code := rfl

@[simp] theorem atIp_code (m : Machine) (i : Int64) : (m.atIp i).code = m.code := rfl

@[simp] theorem atIp_cells (m : Machine) (i : Int64) :
    (m.atIp i).memory.cells = m.memory.cells := rfl

/-- Logging changes the log and nothing else. -/
theorem logging_eq (line : Text) (m : Machine) : ∃ log, m.logging line = { m with log } := by
  unfold logging
  split
  · exact ⟨_, rfl⟩
  · exact ⟨_, rfl⟩

/-- A reset clears registers, stack and ticks, and may write to the log. -/
theorem reset_eq (m : Machine) :
    ∃ log, m.reset = { m with memory := .initial m.cells, running := false, ticks := 0, log } := by
  obtain ⟨log, h⟩ := m.logging_eq (Text.ofString "cpu: reset")
  exact ⟨log, by rw [reset, h]⟩

@[simp] theorem logging_memory (line : Text) (m : Machine) :
    (m.logging line).memory = m.memory := by
  obtain ⟨log, h⟩ := m.logging_eq line
  rw [h]

@[simp] theorem logging_code (line : Text) (m : Machine) : (m.logging line).code = m.code := by
  obtain ⟨log, h⟩ := m.logging_eq line
  rw [h]

@[simp] theorem logging_labels (line : Text) (m : Machine) :
    (m.logging line).labels = m.labels := by
  obtain ⟨log, h⟩ := m.logging_eq line
  rw [h]

@[simp] theorem entered_memory (m : Machine) (i : Int64) (inst : Instruction) :
    (m.entered i inst).memory = (m.atIp (i + 1)).memory := logging_memory _ _

@[simp] theorem entered_code (m : Machine) (i : Int64) (inst : Instruction) :
    (m.entered i inst).code = m.code := logging_code _ _

@[simp] theorem entered_labels (m : Machine) (i : Int64) (inst : Instruction) :
    (m.entered i inst).labels = m.labels := logging_labels _ _

/-- A pause changes the record of the pauses and may stop the machine, and nothing else. -/
theorem paused_eq (m : Machine) (steps : Int64) :
    ∃ slept running, m.paused steps = { m with slept, running } := by
  unfold paused sleep
  split
  · split
    · exact ⟨_, _, rfl⟩
    · exact ⟨_, _, rfl⟩
  · exact ⟨_, _, rfl⟩

@[simp] theorem paused_memory (m : Machine) (steps : Int64) :
    (m.paused steps).memory = m.memory := by
  obtain ⟨slept, running, h⟩ := m.paused_eq steps
  rw [h]

@[simp] theorem paused_code (m : Machine) (steps : Int64) : (m.paused steps).code = m.code := by
  obtain ⟨slept, running, h⟩ := m.paused_eq steps
  rw [h]

theorem delay_apply (steps : Int64) (m : Machine) :
    delay steps m =
      if steps < 0 then .error (.pauseLength steps) m else .ok ⟨⟩ (m.paused steps) := by
  rw [delay]
  by_cases hneg : steps < 0
  · simp only [if_pos hneg]
    rfl
  · simp only [if_neg hneg, paused, get_bind_apply]
    split <;> rfl

theorem setIp_apply (i : Int64) (m : Machine) : setIp i m = .ok ⟨⟩ (m.atIp i) := rfl

/-- What needs a pointer register fails if the register holds a text. -/
theorem registerInteger_bind_apply {β : Type} (r : Register) (f : Int64 → Action β) (m : Machine) :
    (onMemory (Memory.registerInteger r) >>= f) m = match m.memory.registers.integer r with
      | .ok n => f n m
      | .error fault => .error fault m := by
  rw [bind_apply, onMemory, Memory.registerInteger_apply]
  cases m.memory.registers.integer r <;> rfl

theorem fetch_apply (m : Machine) :
    fetch m = match m.nextIndex with
      | .ok i => .ok i (m.atIp i)
      | .error fault => .error fault m := by
  rw [fetch, get_bind_apply, nextIndex]
  by_cases he : m.code.isEmpty
  · simp only [if_pos he]
    rfl
  · simp only [if_neg he]
    rw [registerInteger_bind_apply]
    cases m.memory.registers.integer .ip with
    | error fault => rfl
    | ok ip =>
        dsimp only
        by_cases hneg : (if (m.code.size : Int) ≤ ip.toInt then 0 else ip : Int64) < 0
        · simp only [if_pos hneg]
          rfl
        · simp only [if_neg hneg]
          rfl

theorem nextIndex_of_integer {m : Machine} {ip : Int64} (hcode : m.code ≠ #[])
    (hip : m.memory.registers.ip = .integer ip) :
    m.nextIndex =
      if wrapped m.code.size ip < 0 then .error (.ipRange (wrapped m.code.size ip))
      else .ok (wrapped m.code.size ip) := by
  rw [nextIndex, if_neg (by simpa using hcode), RegisterFile.integer, RegisterFile.get, hip]
  rfl

theorem nextIndex_of_text {m : Machine} {t : Text} (hcode : m.code ≠ #[])
    (hip : m.memory.registers.ip = .text t) : m.nextIndex = .error (.registerKind .ip) := by
  rw [nextIndex, if_neg (by simpa using hcode), RegisterFile.integer, RegisterFile.get, hip]

theorem nextIndex_of_empty {m : Machine} (hcode : m.code = #[]) :
    m.nextIndex = .error .programEmpty := by
  rw [nextIndex, hcode]
  rfl

/-- A next index comes from an integer in the instruction pointer of a program that is not empty. -/
theorem nextIndex_eq_ok {m : Machine} {i : Int64} (h : m.nextIndex = .ok i) :
    m.code ≠ #[] ∧ ¬ i < 0 ∧
      ∃ ip, m.memory.registers.ip = .integer ip ∧ i = wrapped m.code.size ip := by
  by_cases hcode : m.code = #[]
  · rw [nextIndex_of_empty hcode] at h
    cases h
  cases hip : m.memory.registers.ip with
  | text t => rw [nextIndex_of_text hcode hip] at h; cases h
  | integer ip =>
      rw [nextIndex_of_integer hcode hip] at h
      by_cases hneg : wrapped m.code.size ip < 0
      · rw [if_pos hneg] at h; cases h
      · rw [if_neg hneg] at h
        cases h
        exact ⟨hcode, hneg, ip, rfl, rfl⟩

/-- The next index lies inside the program. -/
theorem lt_size_of_nextIndex {m : Machine} {i : Int64} (h : m.nextIndex = .ok i) :
    ¬ i < 0 ∧ i.toNatClampNeg < m.code.size := by
  obtain ⟨hcode, hneg, ip, -, rfl⟩ := nextIndex_eq_ok h
  have hpos : 0 < m.code.size := Array.size_pos_iff.2 hcode
  refine ⟨hneg, ?_⟩
  unfold wrapped at hneg ⊢
  by_cases hend : (m.code.size : Int) ≤ ip.toInt
  · rw [if_pos hend]
    simpa using hpos
  · rw [if_neg hend] at hneg ⊢
    rw [← Int64.toNat_toInt]
    omega

/-- An instruction can be executed as soon as there is a next index. -/
theorem exists_executes {m : Machine} {i : Int64} (h : m.nextIndex = .ok i) :
    ∃ inst, m.Executes i inst :=
  ⟨_, h, Array.getElem?_eq_getElem (lt_size_of_nextIndex h).2⟩

theorem Executes.unique {m : Machine} {i i' : Int64} {inst inst' : Instruction}
    (h : m.Executes i inst) (h' : m.Executes i' inst') : i = i' ∧ inst = inst' := by
  have hi : i = i' := by
    have := h.1.symm.trans h'.1
    cases this
    rfl
  subst hi
  exact ⟨rfl, Option.some.inj (h.2.symm.trans h'.2)⟩

theorem at_apply {α : Type} (layers : List Layer) (act : Action α) (m : Machine) :
    act.at layers m = match act m with
      | .ok a m => .ok a m
      | .error fault m => .error ⟨layers, fault⟩ m := rfl

theorem onMemory_apply {α : Type} (act : Memory.Action α) (m : Machine) :
    onMemory act m = match act m.memory with
      | .ok a memory => .ok a (m.withMemory memory)
      | .error fault memory => .error fault (m.withMemory memory) := rfl

theorem onMemory_eq_ok {α : Type} {act : Memory.Action α} {a : α} {m m' : Machine} :
    onMemory act m = .ok a m' ↔
      ∃ memory, act m.memory = .ok a memory ∧ m' = m.withMemory memory := by
  rw [onMemory_apply]
  constructor
  · intro h
    cases hact : act m.memory with
    | ok b memory =>
        rw [hact] at h
        cases h
        exact ⟨memory, rfl, rfl⟩
    | error fault memory => rw [hact] at h; cases h
  · rintro ⟨memory, hact, rfl⟩
    rw [hact]

theorem execute_apply (i : Int64) (inst : Instruction) (m : Machine) :
    execute i inst (m.atIp (i + 1)) = match perform inst (m.entered i inst) with
      | .ok _ done => .ok ⟨⟩ done
      | .error fault done => .error ⟨[.instruction i inst.disassemble], fault⟩ done := by
  rw [execute, bind_of_ok (modify_apply _ _), at_apply, ← entered]
  cases perform inst (m.entered i inst) <;> rfl

/-- Without a next instruction a tick fails and changes nothing. -/
theorem tick_of_nextIndex_error {m : Machine} {fault : Fault} (h : m.nextIndex = .error fault) :
    tick m = .error (.ofFault fault) m := by
  have hf : fetch.at [] m = .error (.ofFault fault) m := by
    rw [at_apply, fetch_apply, h]
    rfl
  rw [tick, bind_of_error hf]

/-- A tick executes the next instruction. A fault names it; otherwise the tick is counted, and the
pause after it cannot fail. -/
theorem tick_of_executes {m : Machine} {i : Int64} {inst : Instruction} (h : m.Executes i inst) :
    tick m = match perform inst (m.entered i inst) with
      | .ok _ done => .ok ⟨⟩ (done.ticked.paused 1)
      | .error fault done => .error ⟨[.instruction i inst.disassemble], fault⟩ done := by
  have hf : fetch.at [] m = .ok i (m.atIp i) := by
    rw [at_apply, fetch_apply, h.1]
  have hcode : (m.atIp i).code[i.toNatClampNeg]? = some inst := h.2
  have hset : (setIp (i + 1)).at [] (m.atIp i) = .ok ⟨⟩ (m.atIp (i + 1)) := rfl
  rw [tick, bind_of_ok hf, get_bind_apply, hcode]
  dsimp only
  rw [bind_of_ok hset, bind_apply, execute_apply]
  cases perform inst (m.entered i inst) with
  | error fault done => rfl
  | ok u done =>
      dsimp only
      rw [bind_of_ok (modify_apply _ _), at_apply, delay_apply, if_neg (by decide)]
      rfl

/-- A tick succeeds exactly if there is an instruction and its execution succeeds. -/
theorem tick_eq_ok {m m' : Machine} :
    tick m = .ok ⟨⟩ m' ↔ ∃ i inst done, m.Executes i inst ∧
      perform inst (m.entered i inst) = .ok ⟨⟩ done ∧ m' = done.ticked.paused 1 := by
  constructor
  · intro h
    cases hn : m.nextIndex with
    | error fault => rw [tick_of_nextIndex_error hn] at h; cases h
    | ok i =>
        obtain ⟨inst, hx⟩ := exists_executes hn
        rw [tick_of_executes hx] at h
        cases hp : perform inst (m.entered i inst) with
        | error fault done => rw [hp] at h; cases h
        | ok u done =>
            rw [hp] at h
            cases h
            exact ⟨i, inst, done, hx, hp, rfl⟩
  · rintro ⟨i, inst, done, hx, hp, rfl⟩
    rw [tick_of_executes hx, hp]

/-- A tick fails without a next instruction, or the next instruction fails. -/
theorem tick_eq_error {m m' : Machine} {failure : Failure} (h : tick m = .error failure m') :
    (∃ cause, m.nextIndex = .error cause ∧ failure = .ofFault cause) ∨
      ∃ i inst cause, m.Executes i inst ∧
        failure = ⟨[.instruction i inst.disassemble], cause⟩ := by
  cases hn : m.nextIndex with
  | error cause =>
      rw [tick_of_nextIndex_error hn] at h
      cases h
      exact .inl ⟨cause, rfl, rfl⟩
  | ok i =>
      obtain ⟨inst, hx⟩ := exists_executes hn
      rw [tick_of_executes hx] at h
      split at h <;> cases h
      exact .inr ⟨i, inst, _, hx, rfl⟩

theorem writeTo_eq_ok {outlet : Outlet} {bytes : Text} {m m' : Machine}
    (h : writeTo outlet bytes m = .ok ⟨⟩ m') : ∃ devices, m' = { m with devices } := by
  cases outlet with
  | discard =>
      cases h
      exact ⟨m.devices, rfl⟩
  | sink s =>
      simp only [writeTo] at h
      split at h <;> cases h
      exact ⟨_, rfl⟩
  | device d =>
      simp only [writeTo] at h
      split at h <;> cases h
      exact ⟨_, rfl⟩

theorem put_eq_ok {v : Value} {m m' : Machine} (h : put v m = .ok ⟨⟩ m') :
    ∃ devices, m' = { m with devices } := by
  rw [put] at h
  cases hs : shown v with
  | error fault => rw [hs] at h; cases h
  | ok bytes =>
      rw [hs] at h
      exact writeTo_eq_ok h

theorem showState_eq_ok {selector : Value} {m m' : Machine}
    (h : showState selector m = .ok ⟨⟩ m') : ∃ devices, m' = { m with devices } := by
  rw [showState, get_bind_apply] at h
  split at h
  · exact writeTo_eq_ok h
  · split at h
    · exact writeTo_eq_ok h
    · cases h
      exact ⟨m.devices, rfl⟩

theorem readLine_eq_ok {line : Text} {m m' : Machine} (h : readLine m = .ok line m') :
    ∃ devices, m' = { m with devices } := by
  simp only [readLine] at h
  split at h
  · cases h
  · split at h <;> cases h
    exact ⟨_, rfl⟩

def resolveAll (tokens : List Text) : Action (List Operand) := tokens.mapM resolve

theorem resolve_eq_ok {token : Text} {operand : Operand} {m m' : Machine} :
    resolve token m = .ok operand m' ↔
      ∃ memory, Operand.resolve m.labels token m.memory = .ok operand memory ∧
        m' = m.withMemory memory := by
  rw [resolve, get_bind_apply, onMemory_eq_ok]

theorem resolveAll_nil_eq_ok {operands : List Operand} {m m' : Machine} :
    resolveAll [] m = .ok operands m' ↔ operands = [] ∧ m' = m := by
  rw [resolveAll, List.mapM_nil, pure_apply, EStateM.Result.ok.injEq, eq_comm, @eq_comm _ m]

theorem resolveAll_cons_eq_ok {token : Text} {tokens : List Text} {operands : List Operand}
    {m m' : Machine} :
    resolveAll (token :: tokens) m = .ok operands m' ↔
      ∃ operand rest mid, resolve token m = .ok operand mid ∧
        resolveAll tokens mid = .ok rest m' ∧ operands = operand :: rest := by
  rw [resolveAll, List.mapM_cons, bind_eq_ok]
  constructor
  · rintro ⟨operand, mid, hfirst, h⟩
    obtain ⟨rest, last, hrest, h⟩ := bind_eq_ok.1 h
    cases h
    exact ⟨operand, rest, mid, hfirst, hrest, rfl⟩
  · rintro ⟨operand, rest, mid, hfirst, hrest, rfl⟩
    exact ⟨operand, mid, hfirst, bind_eq_ok.2 ⟨rest, m', hrest, rfl⟩⟩

/-- Resolving operands changes the memory only, and every cell keeps its value. -/
theorem resolveAll_kept {tokens : List Text} {operands : List Operand} {m m' : Machine}
    (h : resolveAll tokens m = .ok operands m') :
    Operand.Kept m.memory m'.memory ∧ m' = m.withMemory m'.memory := by
  induction tokens generalizing operands m with
  | nil =>
      obtain ⟨rfl, rfl⟩ := resolveAll_nil_eq_ok.1 h
      exact ⟨.refl _, rfl⟩
  | cons token tokens ih =>
      obtain ⟨operand, rest, mid, hfirst, hrest, rfl⟩ := resolveAll_cons_eq_ok.1 h
      obtain ⟨memory, hres, rfl⟩ := resolve_eq_ok.1 hfirst
      obtain ⟨hkept, hm⟩ := ih hrest
      exact ⟨(Operand.resolve_kept hres).trans hkept, hm⟩

/-- The operation of an arithmetic opcode. -/
def operation? : Opcode → Option (Value → Value → Except Fault Value)
  | .add => some Value.add
  | .sub => some Value.sub
  | .mul => some Value.mul
  | .div => some Value.floorDiv
  | _ => none

/-- What a successful instruction does once its operands are resolved. -/
inductive Effect : Opcode → List Operand → Machine → Machine → Prop
  | mov {a b after m memory} :
      a.set (b.get m.memory.registers) m.memory = .ok after memory →
      Effect .mov [a, b] m (m.withMemory memory)
  | output {a m m'} : put (a.get m.memory.registers) m = .ok ⟨⟩ m' → Effect .output [a] m m'
  | tostring {a b after m memory} :
      a.set (.text (b.get m.memory.registers).toText) m.memory = .ok after memory →
      Effect .tostring [a, b] m (m.withMemory memory)
  | arithmetic {op f a b v m memory} :
      operation? op = some f →
      f (a.get m.memory.registers) (b.get m.memory.registers) = .ok v →
      Memory.setRegister .ax v m.memory = .ok ⟨⟩ memory →
      Effect op [a, b] m (m.withMemory memory)
  | halt {a n m} :
      a.get m.memory.registers = .integer n → ¬ n < 0 → Effect .halt [a] m (m.paused n)
  | exit {m} : Effect .exit [] m { m with running := false }
  | input {a after line m mid memory} :
      readLine m = .ok line mid → a.set (.text line) mid.memory = .ok after memory →
      Effect .input [a] m (mid.withMemory memory)
  | push {a m memory} :
      Memory.push (a.get m.memory.registers) m.memory = .ok ⟨⟩ memory →
      Effect .push [a] m (m.withMemory memory)
  | pop {a after v m shorter memory} :
      Memory.pop m.memory = .ok v shorter → a.set v shorter = .ok after memory →
      Effect .pop [a] m (m.withMemory memory)
  | lea {a after index held m memory} :
      a.set (.integer index) m.memory = .ok after memory →
      Effect .lea [a, .address index held] m (m.withMemory memory)
  | jmp {a n m} : a.get m.memory.registers = .integer n → Effect .jmp [a] m (m.atIp n)
  | call {a n m memory} :
      a.get m.memory.registers = .integer n →
      Memory.push m.memory.registers.ip m.memory = .ok ⟨⟩ memory →
      Effect .call [a] m ((m.withMemory memory).atIp n)
  | ret {n m memory} :
      Memory.pop m.memory = .ok (.integer n) memory →
      Effect .ret [] m ((m.withMemory memory).atIp n)
  | debug {a m m'} :
      showState (a.get m.memory.registers) m = .ok ⟨⟩ m' → Effect .debug [a] m m'
  | alloc {a n base m memory} :
      a.get m.memory.registers = .integer n → m.memory.registers.integer .bp = .ok base →
      Memory.growTo (base + n) m.memory = .ok ⟨⟩ memory →
      Effect .alloc [a] m (m.withMemory memory)

/-- No instruction changes the program. -/
theorem Effect.code_eq {op : Opcode} {operands : List Operand} {m m' : Machine}
    (h : Effect op operands m m') : m'.code = m.code := by
  cases h with
  | output h => obtain ⟨devices, rfl⟩ := put_eq_ok h; rfl
  | debug h => obtain ⟨devices, rfl⟩ := showState_eq_ok h; rfl
  | input h _ => obtain ⟨devices, rfl⟩ := readLine_eq_ok h; rfl
  | halt _ _ => exact paused_code _ _
  | _ => rfl

theorem valueOf_bind_apply {β : Type} (operand : Operand) (f : Value → Action β) (m : Machine) :
    (valueOf operand >>= f) m = f (operand.get m.memory.registers) m := rfl

theorem integerOf_bind_eq_ok {β : Type} {operand : Operand} {f : Int64 → Action β} {b : β}
    {m m' : Machine} :
    (integerOf operand >>= f) m = .ok b m' ↔
      ∃ n, operand.get m.memory.registers = .integer n ∧ f n m = .ok b m' := by
  rw [bind_apply, integerOf, valueOf_bind_apply]
  cases operand.get m.memory.registers with
  | integer n => simp [Value.toInteger]
  | text t => simp [Value.toInteger]

theorem assign_eq_ok {operand : Operand} {v : Value} {m m' : Machine} :
    assign operand v m = .ok ⟨⟩ m' ↔
      ∃ after memory, operand.set v m.memory = .ok after memory ∧ m' = m.withMemory memory := by
  rw [assign, bind_eq_ok]
  constructor
  · rintro ⟨after, mid, h, hm⟩
    obtain ⟨memory, hset, rfl⟩ := onMemory_eq_ok.1 h
    cases hm
    exact ⟨after, memory, hset, rfl⟩
  · rintro ⟨after, memory, hset, rfl⟩
    exact ⟨after, _, onMemory_eq_ok.2 ⟨memory, hset, rfl⟩, rfl⟩

theorem resolveAll_one {a : Text} {operand : Operand} {m m' : Machine}
    (h : resolve a m = .ok operand m') : resolveAll [a] m = .ok [operand] m' :=
  resolveAll_cons_eq_ok.2 ⟨operand, [], m', h, resolveAll_nil_eq_ok.2 ⟨rfl, rfl⟩, rfl⟩

theorem resolveAll_two {a b : Text} {operand operand' : Operand} {m mid m' : Machine}
    (h : resolve a m = .ok operand mid) (h' : resolve b mid = .ok operand' m') :
    resolveAll [a, b] m = .ok [operand, operand'] m' :=
  resolveAll_cons_eq_ok.2 ⟨operand, [operand'], mid, h, resolveAll_one h', rfl⟩

theorem arithmetic_eq_ok {op : Opcode} {f : Value → Value → Except Fault Value}
    (hop : operation? op = some f) {a b : Text} {m m' : Machine}
    (h : arithmetic f a b m = .ok ⟨⟩ m') :
    ∃ operands mid, resolveAll [a, b] m = .ok operands mid ∧ Effect op operands mid m' := by
  rw [arithmetic] at h
  obtain ⟨x, mid, hx, h⟩ := bind_eq_ok.1 h
  obtain ⟨y, last, hy, h⟩ := bind_eq_ok.1 h
  rw [valueOf_bind_apply, valueOf_bind_apply] at h
  cases hv : f (x.get last.memory.registers) (y.get last.memory.registers) with
  | error fault => rw [hv] at h; cases h
  | ok v =>
      rw [hv] at h
      obtain ⟨memory, hset, rfl⟩ := onMemory_eq_ok.1 h
      exact ⟨_, last, resolveAll_two hx hy, .arithmetic hop hv hset⟩

theorem alloc_eq_ok {n : Int64} {m m' : Machine}
    (h : (onMemory (Memory.registerInteger .bp) >>= fun base =>
      onMemory (Memory.growTo (base + n))) m = .ok ⟨⟩ m') :
    ∃ base memory, m.memory.registers.integer .bp = .ok base ∧
      Memory.growTo (base + n) m.memory = .ok ⟨⟩ memory ∧ m' = m.withMemory memory := by
  rw [registerInteger_bind_apply] at h
  cases hbase : m.memory.registers.integer .bp with
  | error fault => rw [hbase] at h; cases h
  | ok base =>
      rw [hbase] at h
      obtain ⟨memory, hgrow, hm⟩ := onMemory_eq_ok.1 h
      exact ⟨base, memory, rfl, hgrow, hm⟩

/-- An instruction that succeeds resolves its operands, then has its effect. -/
theorem perform_eq_ok {inst : Instruction} {m m' : Machine} (h : perform inst m = .ok ⟨⟩ m') :
    ∃ operands mid, resolveAll inst.operands m = .ok operands mid ∧
      Effect inst.opcode operands mid m' := by
  cases inst with
  | mov a b =>
      obtain ⟨x, mid, hx, h⟩ := bind_eq_ok.1 h
      obtain ⟨y, last, hy, h⟩ := bind_eq_ok.1 h
      obtain ⟨after, memory, hset, rfl⟩ := assign_eq_ok.1 h
      exact ⟨_, last, resolveAll_two hx hy, .mov hset⟩
  | output a =>
      obtain ⟨x, mid, hx, h⟩ := bind_eq_ok.1 h
      exact ⟨_, mid, resolveAll_one hx, .output h⟩
  | tostring a b =>
      obtain ⟨x, mid, hx, h⟩ := bind_eq_ok.1 h
      obtain ⟨y, last, hy, h⟩ := bind_eq_ok.1 h
      obtain ⟨after, memory, hset, rfl⟩ := assign_eq_ok.1 h
      exact ⟨_, last, resolveAll_two hx hy, .tostring hset⟩
  | add a b => exact arithmetic_eq_ok rfl h
  | sub a b => exact arithmetic_eq_ok rfl h
  | mul a b => exact arithmetic_eq_ok rfl h
  | div a b => exact arithmetic_eq_ok rfl h
  | halt a =>
      obtain ⟨x, mid, hx, h⟩ := bind_eq_ok.1 h
      obtain ⟨n, hn, h⟩ := integerOf_bind_eq_ok.1 h
      rw [delay_apply] at h
      by_cases hneg : n < 0
      · rw [if_pos hneg] at h; cases h
      · rw [if_neg hneg] at h
        cases h
        exact ⟨_, mid, resolveAll_one hx, .halt hn hneg⟩
  | exit =>
      cases h
      exact ⟨[], m, resolveAll_nil_eq_ok.2 ⟨rfl, rfl⟩, .exit⟩
  | input a =>
      obtain ⟨x, mid, hx, h⟩ := bind_eq_ok.1 h
      obtain ⟨line, last, hline, h⟩ := bind_eq_ok.1 h
      obtain ⟨after, memory, hset, rfl⟩ := assign_eq_ok.1 h
      exact ⟨_, mid, resolveAll_one hx, .input hline hset⟩
  | push a =>
      obtain ⟨x, mid, hx, h⟩ := bind_eq_ok.1 h
      rw [valueOf_bind_apply] at h
      obtain ⟨memory, hpush, rfl⟩ := onMemory_eq_ok.1 h
      exact ⟨_, mid, resolveAll_one hx, .push hpush⟩
  | pop a =>
      obtain ⟨x, mid, hx, h⟩ := bind_eq_ok.1 h
      obtain ⟨v, last, hv, h⟩ := bind_eq_ok.1 h
      obtain ⟨shorter, hpop, rfl⟩ := onMemory_eq_ok.1 hv
      obtain ⟨after, memory, hset, rfl⟩ := assign_eq_ok.1 h
      exact ⟨_, mid, resolveAll_one hx, .pop hpop hset⟩
  | lea a b =>
      obtain ⟨x, mid, hx, h⟩ := bind_eq_ok.1 h
      obtain ⟨y, last, hy, h⟩ := bind_eq_ok.1 h
      cases y with
      | constant c => cases h
      | register r => cases h
      | address index held =>
          obtain ⟨after, memory, hset, rfl⟩ := assign_eq_ok.1 h
          exact ⟨_, last, resolveAll_two hx hy, .lea hset⟩
  | jmp a =>
      obtain ⟨x, mid, hx, h⟩ := bind_eq_ok.1 h
      obtain ⟨n, hn, h⟩ := integerOf_bind_eq_ok.1 h
      rw [setIp_apply] at h
      cases h
      exact ⟨_, mid, resolveAll_one hx, .jmp hn⟩
  | call a =>
      obtain ⟨x, mid, hx, h⟩ := bind_eq_ok.1 h
      obtain ⟨n, hn, h⟩ := integerOf_bind_eq_ok.1 h
      rw [get_bind_apply] at h
      obtain ⟨u, last, hm, h⟩ := bind_eq_ok.1 h
      obtain ⟨memory, hpush, rfl⟩ := onMemory_eq_ok.1 hm
      rw [setIp_apply] at h
      cases h
      exact ⟨_, mid, resolveAll_one hx, .call hn hpush⟩
  | ret =>
      obtain ⟨v, last, hv, h⟩ := bind_eq_ok.1 h
      obtain ⟨memory, hpop, rfl⟩ := onMemory_eq_ok.1 hv
      obtain ⟨n, hn, h⟩ := integerOf_bind_eq_ok.1 h
      rw [setIp_apply] at h
      cases h
      cases hn
      exact ⟨[], m, resolveAll_nil_eq_ok.2 ⟨rfl, rfl⟩, .ret hpop⟩
  | debug a =>
      obtain ⟨x, mid, hx, h⟩ := bind_eq_ok.1 h
      exact ⟨_, mid, resolveAll_one hx, .debug h⟩
  | alloc a =>
      obtain ⟨x, mid, hx, h⟩ := bind_eq_ok.1 h
      obtain ⟨n, hn, h⟩ := integerOf_bind_eq_ok.1 h
      obtain ⟨base, memory, hbase, hgrow, rfl⟩ := alloc_eq_ok h
      exact ⟨_, mid, resolveAll_one hx, .alloc hn hbase hgrow⟩

end RegisterMachine.Machine

import RegisterMachine.Proofs.Growth

/-!
# What a failing instruction leaves behind

An instruction can fail after it has done something: the first operand may have lengthened the
stack before the second one fails, and a cell is taken off the stack before its value proves to be
of no use. `perform_eq_error` inverts a failing instruction once for all instructions, as
`perform_eq_ok` does for a successful one. What is left behind is then read off: cells that
operands appended, or one cell less, and nothing else.
-/
namespace RegisterMachine.Machine

open Stateful

theorem resolveAll_cons_eq_error {token : Text} {tokens : List Text} {fault : Fault}
    {m m' : Machine} :
    resolveAll (token :: tokens) m = .error fault m' ↔
      resolve token m = .error fault m' ∨
        ∃ operand mid, resolve token m = .ok operand mid ∧
          resolveAll tokens mid = .error fault m' := by
  rw [resolveAll, List.mapM_cons, bind_eq_error]
  constructor
  · rintro (h | ⟨operand, mid, hfirst, h⟩)
    · exact .inl h
    · obtain hrest | ⟨rest, last, -, h⟩ := bind_eq_error.1 h
      · exact .inr ⟨operand, mid, hfirst, hrest⟩
      · cases h
  · rintro (h | ⟨operand, mid, hfirst, hrest⟩)
    · exact .inl h
    · exact .inr ⟨operand, mid, hfirst, bind_eq_error.2 (.inl hrest)⟩

/-- What starts with one operand fails in resolving it, or later. -/
theorem unary_eq_error {a : Text} {k : Operand → Action PUnit} {fault : Fault} {m m' : Machine}
    (h : (resolve a >>= k) m = .error fault m') :
    resolveAll [a] m = .error fault m' ∨
      ∃ x mid, resolveAll [a] m = .ok [x] mid ∧ k x mid = .error fault m' := by
  obtain ha | ⟨x, mid, hx, h⟩ := bind_eq_error.1 h
  · exact .inl (resolveAll_cons_eq_error.2 (.inl ha))
  · exact .inr ⟨x, mid, resolveAll_one hx, h⟩

/-- What starts with two operands fails in resolving them, or later. -/
theorem binary_eq_error {a b : Text} {k : Operand → Operand → Action PUnit} {fault : Fault}
    {m m' : Machine}
    (h : (resolve a >>= fun x => resolve b >>= fun y => k x y) m = .error fault m') :
    resolveAll [a, b] m = .error fault m' ∨
      ∃ x y mid, resolveAll [a, b] m = .ok [x, y] mid ∧ k x y mid = .error fault m' := by
  obtain ha | ⟨x, mid, hx, h⟩ := bind_eq_error.1 h
  · exact .inl (resolveAll_cons_eq_error.2 (.inl ha))
  · obtain hb | ⟨y, last, hy, h⟩ := bind_eq_error.1 h
    · have hrest : resolveAll [b] mid = .error fault m' := resolveAll_cons_eq_error.2 (.inl hb)
      exact .inl (resolveAll_cons_eq_error.2 (.inr ⟨x, mid, hx, hrest⟩))
    · exact .inr ⟨x, y, last, resolveAll_two hx hy, h⟩

theorem integerOf_bind_eq_error {β : Type} {operand : Operand} {f : Int64 → Action β}
    {fault : Fault} {m m' : Machine} (h : (integerOf operand >>= f) m = .error fault m') :
    ((∃ t, operand.get m.memory.registers = .text t) ∧ m' = m) ∨
      ∃ n, operand.get m.memory.registers = .integer n ∧ f n m = .error fault m' := by
  rw [bind_apply, integerOf, valueOf_bind_apply] at h
  cases hv : operand.get m.memory.registers with
  | integer n =>
      rw [hv] at h
      exact .inr ⟨n, rfl, h⟩
  | text t =>
      rw [hv] at h
      cases h
      exact .inl ⟨⟨t, rfl⟩, rfl⟩

theorem assign_eq_error {operand : Operand} {v : Value} {fault : Fault} {m m' : Machine}
    (h : assign operand v m = .error fault m') :
    operand.set v m.memory = .error fault m.memory ∧ m' = m := by
  rw [assign] at h
  obtain h | ⟨after, mid, -, h⟩ := bind_eq_error.1 h
  · obtain ⟨memory, hset, rfl⟩ := onMemory_eq_error.1 h
    obtain rfl := Operand.set_eq_error hset
    exact ⟨hset, rfl⟩
  · cases h

theorem writeTo_eq_error {outlet : Outlet} {bytes : Text} {fault : Fault} {m m' : Machine}
    (h : writeTo outlet bytes m = .error fault m') : ∃ devices, m' = { m with devices } := by
  cases outlet with
  | discard => cases h
  | sink s =>
      simp only [writeTo] at h
      split at h <;> cases h
      exact ⟨_, rfl⟩
  | device d =>
      simp only [writeTo] at h
      split at h <;> cases h
      exact ⟨_, rfl⟩

theorem put_eq_error {v : Value} {fault : Fault} {m m' : Machine}
    (h : put v m = .error fault m') : ∃ devices, m' = { m with devices } := by
  rw [put] at h
  cases hs : shown v with
  | error cause =>
      rw [hs] at h
      cases h
      exact ⟨m.devices, rfl⟩
  | ok bytes =>
      rw [hs] at h
      exact writeTo_eq_error h

theorem showState_eq_error {selector : Value} {fault : Fault} {m m' : Machine}
    (h : showState selector m = .error fault m') : ∃ devices, m' = { m with devices } := by
  rw [showState, get_bind_apply] at h
  split at h
  · exact writeTo_eq_error h
  · split at h
    · exact writeTo_eq_error h
    · cases h

theorem readLine_eq_error {fault : Fault} {m m' : Machine}
    (h : readLine m = .error fault m') : ∃ devices, m' = { m with devices } := by
  simp only [readLine] at h
  split at h
  · cases h
    exact ⟨m.devices, rfl⟩
  · split at h <;> cases h
    · exact ⟨_, rfl⟩
    · exact ⟨_, rfl⟩

/-- How an instruction can fail once its operands are resolved. -/
inductive Mishap : Opcode → List Operand → Machine → Machine → Prop
  /-- Nothing has happened yet. -/
  | early {op operands m} : op ≠ .pop → op ≠ .alloc → Mishap op operands m m
  /-- A device fails, or the line that it gives cannot be stored. -/
  | device {op operands m devices} :
      op = .input ∨ op = .output ∨ op = .debug → Mishap op operands m { m with devices }
  /-- There is no place to grow the stack to. -/
  | alloc {a m} :
      (∀ n base, a.get m.memory.registers = .integer n →
        m.memory.registers.integer .bp = .ok base → base + n < 0) → Mishap .alloc [a] m m
  /-- There is no cell to take off, or the top pointer is no integer. -/
  | pop {a fault m} : Memory.pop m.memory = .error fault m.memory → Mishap .pop [a] m m
  /-- A cell is taken off, and its value cannot be stored. -/
  | unstored {a v fault m shorter} :
      Memory.pop m.memory = .ok v shorter → a.set v shorter = .error fault shorter →
      Mishap .pop [a] m (m.withMemory shorter)
  /-- A cell is taken off, and its value is no place to go. -/
  | astray {t m shorter} :
      Memory.pop m.memory = .ok (.text t) shorter → Mishap .ret [] m (m.withMemory shorter)

theorem pop_eq_error {fault : Fault} {m m' : Machine}
    (h : onMemory Memory.pop m = .error fault m') :
    Memory.pop m.memory = .error fault m.memory ∧ m' = m := by
  obtain ⟨memory, hpop, rfl⟩ := onMemory_eq_error.1 h
  have hsame : memory = m.memory := by
    rw [Memory.pop_apply] at hpop
    split at hpop <;> cases hpop <;> rfl
  subst hsame
  exact ⟨hpop, rfl⟩

theorem push_eq_error {v : Value} {fault : Fault} {m m' : Machine}
    (h : onMemory (Memory.push v) m = .error fault m') : m' = m := by
  obtain ⟨memory, hpush, rfl⟩ := onMemory_eq_error.1 h
  rw [Memory.push_apply] at hpush
  split at hpush <;> cases hpush
  rfl

theorem alloc_eq_error {n : Int64} {fault : Fault} {m m' : Machine}
    (h : (onMemory (Memory.registerInteger .bp) >>= fun base =>
      onMemory (Memory.growTo (base + n))) m = .error fault m') :
    m' = m ∧ ∀ base, m.memory.registers.integer .bp = .ok base → base + n < 0 := by
  rw [registerInteger_bind_apply] at h
  cases hbase : m.memory.registers.integer .bp with
  | error cause =>
      rw [hbase] at h
      cases h
      exact ⟨rfl, nofun⟩
  | ok base =>
      rw [hbase] at h
      obtain ⟨memory, hgrow, rfl⟩ := onMemory_eq_error.1 h
      obtain ⟨hneg, rfl⟩ := Memory.growTo_eq_error hgrow
      exact ⟨rfl, by rintro _ ⟨⟩; exact hneg⟩

/-- Arithmetic fails in its operands, or before it stores a result. -/
theorem arithmetic_eq_error {f : Value → Value → Except Fault Value} {a b : Text} {fault : Fault}
    {m m' : Machine} (h : arithmetic f a b m = .error fault m') :
    resolveAll [a, b] m = .error fault m' ∨
      ∃ operands, resolveAll [a, b] m = .ok operands m' := by
  rw [arithmetic] at h
  obtain h | ⟨x, y, mid, hxy, h⟩ := binary_eq_error h
  · exact .inl h
  · rw [valueOf_bind_apply, valueOf_bind_apply] at h
    cases hv : f (x.get mid.memory.registers) (y.get mid.memory.registers) with
    | error cause =>
        rw [hv] at h
        cases h
        exact .inr ⟨_, hxy⟩
    | ok v => rw [hv] at h; cases h

/-- An instruction that fails does so in resolving its operands, or in one of a few ways after. -/
theorem perform_eq_error {inst : Instruction} {fault : Fault} {m m' : Machine}
    (h : perform inst m = .error fault m') :
    resolveAll inst.operands m = .error fault m' ∨
      ∃ operands mid, resolveAll inst.operands m = .ok operands mid ∧
        Mishap inst.opcode operands mid m' := by
  have harithmetic {f : Value → Value → Except Fault Value} {a b : Text} {op : Opcode}
      (hop : op ≠ .pop) (hop' : op ≠ .alloc) (h : arithmetic f a b m = .error fault m') :
      resolveAll [a, b] m = .error fault m' ∨
        ∃ operands mid, resolveAll [a, b] m = .ok operands mid ∧ Mishap op operands mid m' :=
    (arithmetic_eq_error h).imp_right fun ⟨operands, hres⟩ => ⟨operands, m', hres, .early hop hop'⟩
  cases inst with
  | mov a b =>
      refine (binary_eq_error h).imp_right ?_
      rintro ⟨x, y, mid, hxy, h⟩
      obtain ⟨-, rfl⟩ := assign_eq_error h
      exact ⟨_, _, hxy, .early nofun nofun⟩
  | output a =>
      refine (unary_eq_error h).imp_right ?_
      rintro ⟨x, mid, hx, h⟩
      obtain ⟨devices, rfl⟩ := put_eq_error h
      exact ⟨_, _, hx, .device (.inr (.inl rfl))⟩
  | tostring a b =>
      refine (binary_eq_error h).imp_right ?_
      rintro ⟨x, y, mid, hxy, h⟩
      obtain ⟨-, rfl⟩ := assign_eq_error h
      exact ⟨_, _, hxy, .early nofun nofun⟩
  | add a b => exact harithmetic nofun nofun h
  | sub a b => exact harithmetic nofun nofun h
  | mul a b => exact harithmetic nofun nofun h
  | div a b => exact harithmetic nofun nofun h
  | halt a =>
      refine (unary_eq_error h).imp_right ?_
      rintro ⟨x, mid, hx, h⟩
      obtain ⟨-, rfl⟩ | ⟨n, -, h⟩ := integerOf_bind_eq_error h
      · exact ⟨_, _, hx, .early nofun nofun⟩
      · rw [delay_apply] at h
        split at h <;> cases h
        exact ⟨_, _, hx, .early nofun nofun⟩
  | exit => cases h
  | input a =>
      refine (unary_eq_error h).imp_right ?_
      rintro ⟨x, mid, hx, h⟩
      obtain h | ⟨line, last, hline, h⟩ := bind_eq_error.1 h
      · obtain ⟨devices, rfl⟩ := readLine_eq_error h
        exact ⟨_, _, hx, .device (.inl rfl)⟩
      · obtain ⟨-, rfl⟩ := assign_eq_error h
        obtain ⟨devices, rfl⟩ := readLine_eq_ok hline
        exact ⟨_, _, hx, .device (.inl rfl)⟩
  | push a =>
      refine (unary_eq_error h).imp_right ?_
      rintro ⟨x, mid, hx, h⟩
      rw [valueOf_bind_apply] at h
      obtain rfl := push_eq_error h
      exact ⟨_, _, hx, .early nofun nofun⟩
  | pop a =>
      refine (unary_eq_error h).imp_right ?_
      rintro ⟨x, mid, hx, h⟩
      obtain h | ⟨v, last, hv, h⟩ := bind_eq_error.1 h
      · obtain ⟨hpop, rfl⟩ := pop_eq_error h
        exact ⟨_, _, hx, .pop hpop⟩
      · obtain ⟨shorter, hpop, rfl⟩ := onMemory_eq_ok.1 hv
        obtain ⟨hset, rfl⟩ := assign_eq_error h
        exact ⟨_, _, hx, .unstored hpop hset⟩
  | lea a b =>
      refine (binary_eq_error h).imp_right ?_
      rintro ⟨x, y, mid, hxy, h⟩
      cases y with
      | constant c =>
          cases h
          exact ⟨_, _, hxy, .early nofun nofun⟩
      | register r =>
          cases h
          exact ⟨_, _, hxy, .early nofun nofun⟩
      | address index held =>
          obtain ⟨-, rfl⟩ := assign_eq_error h
          exact ⟨_, _, hxy, .early nofun nofun⟩
  | jmp a =>
      refine (unary_eq_error h).imp_right ?_
      rintro ⟨x, mid, hx, h⟩
      obtain ⟨-, rfl⟩ | ⟨n, -, h⟩ := integerOf_bind_eq_error h
      · exact ⟨_, _, hx, .early nofun nofun⟩
      · cases h
  | call a =>
      refine (unary_eq_error h).imp_right ?_
      rintro ⟨x, mid, hx, h⟩
      obtain ⟨-, rfl⟩ | ⟨n, -, h⟩ := integerOf_bind_eq_error h
      · exact ⟨_, _, hx, .early nofun nofun⟩
      · rw [get_bind_apply] at h
        obtain h | ⟨u, last, -, h⟩ := bind_eq_error.1 h
        · obtain rfl := push_eq_error h
          exact ⟨_, _, hx, .early nofun nofun⟩
        · cases h
  | ret =>
      refine .inr ⟨[], m, resolveAll_nil_eq_ok.2 ⟨rfl, rfl⟩, ?_⟩
      obtain h | ⟨v, last, hv, h⟩ := bind_eq_error.1 h
      · obtain ⟨-, rfl⟩ := pop_eq_error h
        exact .early nofun nofun
      · obtain ⟨shorter, hpop, rfl⟩ := onMemory_eq_ok.1 hv
        obtain ⟨⟨t, ht⟩, rfl⟩ | ⟨n, -, h⟩ := integerOf_bind_eq_error h
        · obtain rfl : v = .text t := ht
          exact .astray hpop
        · cases h
  | debug a =>
      refine (unary_eq_error h).imp_right ?_
      rintro ⟨x, mid, hx, h⟩
      obtain ⟨devices, rfl⟩ := showState_eq_error h
      exact ⟨_, _, hx, .device (.inr (.inr rfl))⟩
  | alloc a =>
      refine (unary_eq_error h).imp_right ?_
      rintro ⟨x, mid, hx, h⟩
      obtain ⟨⟨t, ht⟩, rfl⟩ | ⟨n, hn, h⟩ := integerOf_bind_eq_error h
      · exact ⟨_, _, hx, .alloc fun n base hn => absurd (ht.symm.trans hn) nofun⟩
      · obtain ⟨rfl, hplace⟩ := alloc_eq_error h
        refine ⟨_, _, hx, .alloc fun n' base hn' hbase => ?_⟩
        cases hn.symm.trans hn'
        exact hplace base hbase

/-- A pop stores what it takes off, unless its operand is a constant: the base is as it was before,
so any other operand can be written. -/
theorem constant_of_unstored {token : Text} {operand : Operand} {v : Value} {fault : Fault}
    {m mid : Machine} {shorter : Memory} (hres : resolveAll [token] m = .ok [operand] mid)
    (hpop : Memory.pop mid.memory = .ok v shorter)
    (hset : operand.set v shorter = .error fault shorter) :
    ∃ c, operand = .constant c ∧ resolve token m = .ok (.constant c) m ∧ mid = m := by
  obtain ⟨rfl, hoperand⟩ := lengthened_of_resolveAll hres
  obtain ⟨top, -, -, rfl⟩ := Memory.pop_eq_ok hpop
  by_cases hconst : ∃ c, operand = .constant c
  · obtain ⟨c, rfl⟩ := hconst
    have hfirst := resolve_of_resolveAll_one hres
    simp only [reachAll_cons, reachAll_nil, Operand.reach, Nat.max_self, Nat.zero_sub,
      Memory.lengthened_zero, withMemory_self] at hfirst ⊢
    exact ⟨c, rfl, hfirst, trivial⟩
  · exfalso
    obtain ⟨after, hok⟩ := Operand.set_of_assignable v
      (m := (m.memory.lengthened (reachAll [operand] - m.memory.cells.size)).popped top)
      (fun c hc => hconst ⟨c, hc⟩) (fun index held hindex => by
        obtain ⟨hbase, hneg, -⟩ :=
          hoperand index held (by rw [hindex]; exact List.mem_singleton_self _)
        exact ⟨hbase, hneg⟩)
    exact absurd (hset.symm.trans hok) nofun

/-- The instruction takes a cell off the stack for which it has no use: a pop into a constant, or a
return to a text. -/
inductive Discards (m : Machine) : Instruction → Prop
  | pop {a c} : resolve a m = .ok (.constant c) m → Discards m (.pop a)
  | ret {t} : m.memory.cells.back? = some (.text t) → Discards m .ret

/-- What goes wrong once operands are resolved leaves all but a device as it is; or else a cell was
taken off the stack, whose value has nowhere to go. -/
theorem Mishap.residue {op : Opcode} {operands : List Operand} {m m' : Machine}
    (h : Mishap op operands m m') :
    (op.growth operands m.memory = 0 ∧ ∃ devices,
      (op ≠ .input → op ≠ .output → op ≠ .debug → devices = m.devices) ∧
        m' = { m with devices }) ∨
    ∃ v shorter, Memory.pop m.memory = .ok v shorter ∧ m' = m.withMemory shorter ∧
      ((op = .pop ∧ ∃ a fault, operands = [a] ∧ a.set v shorter = .error fault shorter) ∨
        op = .ret ∧ ∃ t, v = .text t) := by
  cases h with
  | early hpop halloc =>
      exact .inl ⟨Opcode.growth_of_ne hpop halloc _ _, m.devices, fun _ _ _ => rfl, rfl⟩
  | @device _ _ _ devices hdevice =>
      have hzero : op.growth operands m.memory = 0 := by
        obtain rfl | rfl | rfl := hdevice <;> rfl
      refine .inl ⟨hzero, devices, fun hinput houtput hdebug => ?_, rfl⟩
      obtain h | h | h := hdevice
      · exact absurd h hinput
      · exact absurd h houtput
      · exact absurd h hdebug
  | @alloc a _ hplace =>
      have hzero : Opcode.alloc.growth [a] m.memory = 0 := by
        rw [Opcode.growth]
        split
        · rename_i n base hn hbase
          rw [if_pos (hplace n base hn hbase)]
        · rfl
      exact .inl ⟨hzero, m.devices, fun _ _ _ => rfl, rfl⟩
  | @pop a _ _ hpop =>
      have hzero : Opcode.pop.growth [a] m.memory = 0 := by rw [Opcode.growth, hpop]
      exact .inl ⟨hzero, m.devices, fun _ _ _ => rfl, rfl⟩
  | unstored hpop hset => exact .inr ⟨_, _, hpop, rfl, .inl ⟨rfl, _, _, rfl, hset⟩⟩
  | astray hpop => exact .inr ⟨_, _, hpop, rfl, .inr ⟨rfl, _, rfl⟩⟩

/-- An instruction that takes off a cell for nothing has appended none. -/
theorem discards_of_taken {inst : Instruction} {operands : List Operand} {v : Value}
    {m mid : Machine} {shorter : Memory} (hres : resolveAll inst.operands m = .ok operands mid)
    (hpop : Memory.pop mid.memory = .ok v shorter)
    (h : (inst.opcode = .pop ∧ ∃ a fault, operands = [a] ∧ a.set v shorter = .error fault shorter) ∨
      inst.opcode = .ret ∧ ∃ t, v = .text t) :
    mid = m ∧ performGrowth inst m = 0 ∧ Discards m inst := by
  have hgrowth := performGrowth_of_resolved hres
  obtain ⟨hop, a, fault, rfl, hset⟩ | ⟨hop, t, rfl⟩ := h
  · obtain ⟨token, rfl⟩ : ∃ token, inst = .pop token := by
      cases inst <;> cases hop
      exact ⟨_, rfl⟩
    obtain ⟨c, rfl, hconst, rfl⟩ := constant_of_unstored hres hpop hset
    refine ⟨rfl, ?_, .pop hconst⟩
    rw [hgrowth, Instruction.operands, resolvingGrowth, hconst, Instruction.opcode, Opcode.growth,
      hpop]
    simp [resolvingGrowth, Operand.reach]
  · obtain rfl : inst = .ret := by
      cases inst <;> cases hop
      rfl
    obtain ⟨-, rfl⟩ := resolveAll_nil_eq_ok.1 hres
    obtain ⟨top, -, hback, -⟩ := Memory.pop_eq_ok hpop
    exact ⟨rfl, rfl, .ret hback⟩

/-- An instruction that fails leaves behind the cells that it appended and whatever became of a
device; or else one cell less, if it had no use for the value. -/
theorem perform_residue {inst : Instruction} {fault : Fault} {m m' : Machine}
    (h : perform inst m = .error fault m') :
    (∃ devices, (inst.opcode ≠ .input → inst.opcode ≠ .output → inst.opcode ≠ .debug →
        devices = m.devices) ∧
      m' = { m with memory := m.memory.lengthened (performGrowth inst m), devices }) ∨
    performGrowth inst m = 0 ∧ Discards m inst ∧
      ∃ v shorter, Memory.pop m.memory = .ok v shorter ∧ m' = m.withMemory shorter := by
  have hend := endState_resolveAll inst.operands m
  obtain hres | ⟨operands, mid, hres, hmishap⟩ := perform_eq_error h
  · rw [hres] at hend
    obtain rfl : m' = _ := hend
    rw [performGrowth_of_unresolved hres]
    exact .inl ⟨m.devices, fun _ _ _ => rfl, rfl⟩
  · rw [hres] at hend
    obtain rfl : mid = _ := hend
    obtain ⟨hzero, devices, hdevices, rfl⟩ | ⟨v, shorter, hpop, rfl, htaken⟩ := hmishap.residue
    · rw [performGrowth_of_resolved hres, hzero, Nat.add_zero]
      exact .inl ⟨devices, hdevices, rfl⟩
    · obtain ⟨hsame, hzero, hdiscards⟩ := discards_of_taken hres hpop htaken
      rw [hsame] at hpop ⊢
      exact .inr ⟨hzero, hdiscards, v, shorter, hpop, rfl⟩

/-- An instruction that fails has assigned to no register but the top pointer. -/
theorem register_of_perform_error {inst : Instruction} {fault : Fault} {m m' : Machine}
    {r : Register} (h : perform inst m = .error fault m') (hr : r ≠ .sp) :
    m'.memory.registers.get r = m.memory.registers.get r := by
  obtain ⟨devices, -, rfl⟩ | ⟨-, -, v, shorter, hpop, rfl⟩ := perform_residue h
  · rfl
  · obtain ⟨top, -, -, rfl⟩ := Memory.pop_eq_ok hpop
    exact RegisterFile.get_set_of_ne _ _ hr

/-- The stack is the old one with zero cells after it; top pointer and logical size are the old
ones. -/
structure StackKept (before after : Memory) : Prop where
  cells : ∃ n, after.cells = before.cells ++ Array.replicate n .zero
  top : after.registers.sp = before.registers.sp
  size : after.size = before.size

/-- The stack has lost its last cell; top pointer and logical size are one less. -/
structure StackShortened (before after : Memory) : Prop where
  taken : before.cells ≠ #[]
  cells : after.cells = before.cells.pop
  top : ∃ n, before.registers.sp = .integer n ∧ after.registers.sp = .integer (n - 1)
  size : after.size = before.size - 1

/-- What the failing instruction at `i` leaves behind. Its own log line and what happened to a
device apart, the machine differs from the one before in the instruction pointer and in the stack
alone. -/
structure LeftBehind (i : Int64) (inst : Instruction) (m m' : Machine) : Prop where
  ip : m'.memory.registers.ip = .integer (i + 1)
  registers : ∀ r, r ≠ .ip → r ≠ .sp → m'.memory.registers.get r = m.memory.registers.get r
  stack : StackKept m.memory m'.memory ∨
    Discards (m.entered i inst) inst ∧ StackShortened m.memory m'.memory
  running : m'.running = m.running
  ticks : m'.ticks = m.ticks
  slept : m'.slept = m.slept
  devices : inst.opcode ≠ .input → inst.opcode ≠ .output → inst.opcode ≠ .debug →
    m'.devices = m.devices
  rest : m' = { m with
    memory := m'.memory
    devices := m'.devices
    log := (m.entered i inst).log }

/-- Entering an instruction sets the instruction pointer and writes to the log. -/
theorem entered_eq (m : Machine) (i : Int64) (inst : Instruction) :
    m.entered i inst = { m with
      memory := (m.atIp (i + 1)).memory
      log := (m.entered i inst).log } := by
  obtain ⟨log, h⟩ := logging_eq _ (m.atIp (i + 1))
  rw [entered, h]
  rfl

/-- Cells that operands appended are left behind, whatever became of the devices. -/
theorem leftBehind_of_lengthened {m : Machine} {i : Int64} {inst : Instruction} {n : Nat}
    {devices : Devices}
    (hdevices : inst.opcode ≠ .input → inst.opcode ≠ .output → inst.opcode ≠ .debug →
      devices = m.devices) :
    LeftBehind i inst m { m.entered i inst with
      memory := (m.entered i inst).memory.lengthened n
      devices := devices } := by
  rw [entered_eq]
  exact {
    ip := rfl
    registers := fun r hip _ => RegisterFile.get_set_of_ne _ _ hip
    stack := .inl ⟨⟨n, rfl⟩, rfl, rfl⟩
    running := rfl
    ticks := rfl
    slept := rfl
    devices := hdevices
    rest := rfl }

/-- A cell that was taken off in vain is gone. -/
theorem leftBehind_of_popped {m : Machine} {i : Int64} {inst : Instruction} {v : Value}
    {shorter : Memory} (hdiscards : Discards (m.entered i inst) inst)
    (hpop : Memory.pop (m.entered i inst).memory = .ok v shorter) :
    LeftBehind i inst m ((m.entered i inst).withMemory shorter) := by
  obtain ⟨top, htop, hback, rfl⟩ := Memory.pop_eq_ok hpop
  rw [entered_memory, atIp_cells] at hback
  have htaken : m.memory.cells ≠ #[] := by
    intro hempty
    rw [hempty] at hback
    cases hback
  have hsp : m.memory.registers.sp = .integer top := by
    rw [entered_memory] at htop
    exact RegisterFile.integer_eq_ok.1 htop
  rw [entered_eq]
  exact {
    ip := rfl
    registers := fun r hip hsp =>
      (RegisterFile.get_set_of_ne _ _ hsp).trans (RegisterFile.get_set_of_ne _ _ hip)
    stack := .inr ⟨hdiscards, htaken, rfl, ⟨top, hsp, rfl⟩, rfl⟩
    running := rfl
    ticks := rfl
    slept := rfl
    devices := fun _ _ _ => rfl
    rest := rfl }

theorem leftBehind_of_perform_error {m done : Machine} {i : Int64} {inst : Instruction}
    {fault : Fault} (h : perform inst (m.entered i inst) = .error fault done) :
    LeftBehind i inst m done := by
  obtain ⟨devices, hdevices, rfl⟩ | ⟨-, hdiscards, v, shorter, hpop, rfl⟩ := perform_residue h
  · have hsame : (m.entered i inst).devices = m.devices := by rw [entered_eq]
    rw [hsame] at hdevices
    exact leftBehind_of_lengthened hdevices
  · exact leftBehind_of_popped hdiscards hpop

/-- A tick fails as its instruction does. -/
theorem perform_error_of_tick {m m' : Machine} {i : Int64} {inst : Instruction}
    {failure : Failure} (hx : m.Executes i inst) (h : tick m = .error failure m') :
    ∃ fault, perform inst (m.entered i inst) = .error fault m' := by
  rw [tick_of_executes hx] at h
  cases hp : perform inst (m.entered i inst) with
  | ok u done => rw [hp] at h; cases h
  | error fault done =>
      rw [hp] at h
      cases h
      exact ⟨fault, rfl⟩

/-- A tick that fails in the instruction at `i` has moved the instruction pointer on. Beyond that
it may leave zero cells at the end of the stack; or it has removed the last cell, which is so only
for a pop into a constant and for a return to a text. -/
theorem failed_tick_leaves {m m' : Machine} {i : Int64} {inst : Instruction} {failure : Failure}
    (hx : m.Executes i inst) (h : tick m = .error failure m') : LeftBehind i inst m m' := by
  obtain ⟨fault, hp⟩ := perform_error_of_tick hx h
  exact leftBehind_of_perform_error hp

def discarding : Machine :=
  { Machine.initial .empty 2 with code := #[.pop (Text.ofString "7")], running := true }

def overreaching : Machine :=
  { Machine.initial .empty 1 with
    code := #[.mov (Text.ofString "[rbp+2]") (Text.ofString "nowhere")] }

theorem failed_tick_leaves_discarding :
    (discarding.Executes 0 (.pop (Text.ofString "7")) ∧ ∃ m', tick discarding =
        .error ⟨[.instruction 0 (Text.ofString "pop:7")], .operandReadOnly⟩ m' ∧
      m'.memory.cells = #[.zero] ∧ LeftBehind 0 (.pop (Text.ofString "7")) discarding m') ∧
    ∃ m', tick overreaching = .error ⟨[.instruction 0 (Text.ofString "mov:[rbp+2]:nowhere")],
        .unknownLabel (Text.ofString "nowhere")⟩ m' ∧
      m'.memory.cells = #[.zero, .zero, .zero] ∧
      LeftBehind 0 (.mov (Text.ofString "[rbp+2]") (Text.ofString "nowhere")) overreaching m' := by
  have hx : discarding.Executes 0 (.pop (Text.ofString "7")) := ⟨rfl, rfl⟩
  have hx' : overreaching.Executes 0
      (.mov (Text.ofString "[rbp+2]") (Text.ofString "nowhere")) := ⟨rfl, rfl⟩
  have htick := eq_error_of_error? (r := tick discarding)
    (e := ⟨[.instruction 0 (Text.ofString "pop:7")], .operandReadOnly⟩) (by decide +kernel)
  have htick' := eq_error_of_error? (r := tick overreaching)
    (e := ⟨[.instruction 0 (Text.ofString "mov:[rbp+2]:nowhere")],
      .unknownLabel (Text.ofString "nowhere")⟩) (by decide +kernel)
  exact ⟨⟨hx, _, htick, by decide +kernel, failed_tick_leaves hx htick⟩,
    _, htick', by decide +kernel, failed_tick_leaves hx' htick'⟩

end RegisterMachine.Machine

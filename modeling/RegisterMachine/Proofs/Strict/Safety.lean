import RegisterMachine.Proofs.Strict.Machine

/-!
# No primitive is ever undefined

On partial primitives the machine does what it does on total ones: every guard covers
the primitives behind it, for every program, every contents of registers and stack and
every operand token. Each action is shown equal to an embedded total action; from that a
tick, and by induction a run, never leaves the domain of a primitive.
-/
namespace RegisterMachine.Strict

open Stateful
open Text (ofString byte)

variable {σ : Type}

theorem toInt_maxValue_div {count : Int64} (h : 0 < count) :
    (Int64.maxValue / count).toInt = ((Value.maxLength / count.toNatClampNeg : Nat) : Int) := by
  have hpos : ¬ count < 0 := by
    rw [Int64.lt_iff_toInt_lt] at h ⊢
    omega
  rw [Int64.toInt_div_of_ne_left _ _ (by decide), ← Memory.natCast_index hpos]
  rfl

/-- A count that passes the guard keeps the text short enough. -/
theorem length_mul_le_maxLength {t : Text} {n : Nat} (hn : 0 < n)
    (h : ¬ Value.maxLength / n < t.length) : t.length * n ≤ Value.maxLength :=
  (Nat.le_div_iff_mul_le hn).1 (Nat.not_lt.1 h)

theorem repetition_of_le {t : Text} {count : Int64} (hneg : ¬ count < 0)
    (h : t.length * count.toNatClampNeg ≤ Value.maxLength) :
    (repetition t count : Action σ Text) = pure (t.times count.toNatClampNeg) := by
  have hguard : ¬ (count < 0 ∨ Value.maxLength < t.length * count.toNatClampNeg) := by
    rintro (h' | h')
    · exact hneg h'
    · exact Nat.not_lt.2 h h'
  exact if_neg hguard

theorem repeated_eq (t : Text) (count : Int64) :
    (repeated t count : Action σ Value) = ofExcept (Value.repeated t count) := by
  rw [repeated, Value.repeated]
  by_cases hneg : count < 0
  · have hz : count.toNatClampNeg = 0 := by
      rw [Int64.lt_iff_toInt_lt, Int64.toInt_zero] at hneg
      rw [← Int64.toNat_toInt]
      omega
    simp [hneg, hz, repetition, ofExcept]
  by_cases hpos : 0 < count
  · have hn : 0 < count.toNatClampNeg := by
      rw [Int64.lt_iff_toInt_lt, Int64.toInt_zero] at hpos
      rw [← Int64.toNat_toInt]
      omega
    have hd : count ≠ 0 := by
      rintro rfl
      exact absurd hpos (by decide)
    simp only [if_neg hneg, if_pos hpos, quotient_of_ne hd, pure_bind, toInt_maxValue_div hpos,
      Int.ofNat_lt, hn, true_and]
    by_cases hlong : Value.maxLength / count.toNatClampNeg < t.length
    · simp [hlong, ofExcept]
    · simp [hlong, ofExcept, repetition_of_le hneg (length_mul_le_maxLength hn hlong)]
  · have hz : count.toNatClampNeg = 0 := by
      rw [Int64.lt_iff_toInt_lt, Int64.toInt_zero] at hpos
      rw [← Int64.toNat_toInt]
      omega
    simp [hneg, hpos, hz, ofExcept, repetition_of_le (t := t) hneg (by simp [hz])]

theorem mul_eq (a b : Value) : (mul a b : Action σ Value) = ofExcept (a.mul b) := by
  cases a <;> cases b <;> first | rfl | exact repeated_eq _ _

theorem floorDiv_eq (a b : Value) : (floorDiv a b : Action σ Value) = ofExcept (a.floorDiv b) := by
  cases a with
  | text t => cases b <;> rfl
  | integer n =>
      cases b with
      | text t => rfl
      | integer d =>
          rw [floorDiv, Value.floorDiv]
          by_cases hd : d = 0
          · simp only [if_pos hd]
            rfl
          · simp only [if_neg hd, quotient_of_ne hd, remainder_of_ne hd, pure_bind]
            rfl

theorem pop_eq : pop = total Memory.pop := by
  funext m
  show pop m = total Memory.pop m
  rw [pop, get_bind_apply, total, Memory.pop_apply]
  by_cases hempty : m.cells.size = 0
  · have hb : m.cells.back? = none := by simp [Array.back?, hempty]
    rw [if_pos hempty, hb]
    rfl
  · have hne : m.cells.toList ≠ [] := by simpa using hempty
    obtain ⟨v, hv⟩ := Option.isSome_iff_exists.1 (List.getLast?_isSome.2 hne)
    have hb : m.cells.back? = some v := by rw [← Array.getLast?_toList, hv]
    rw [if_neg hempty, bind_apply, total, Memory.registerInteger_apply, hb]
    cases m.registers.integer .sp with
    | error fault => rfl
    | ok top =>
        dsimp only
        rw [get_bind_apply, element_getLast hv, pure_bind, slice_dropLast hne, pure_bind,
          ← Array.toList_pop]
        rfl

/-- After growing, the index lies inside the stack. -/
theorem locate_eq_ok {offset index : Int64} {m m' : Memory}
    (h : Memory.locate offset m = .ok index m') :
    ¬ index < 0 ∧ index.toNatClampNeg < m'.cells.size := by
  rw [Memory.locate, bind_apply, Memory.registerInteger_apply] at h
  cases hb : m.registers.integer .bp with
  | error fault => rw [hb] at h; cases h
  | ok base =>
      rw [hb] at h
      dsimp only at h
      rw [bind_apply, Memory.growTo_apply] at h
      by_cases hneg : base + offset < 0
      · rw [if_pos hneg] at h; cases h
      · rw [if_neg hneg] at h
        cases h
        refine ⟨hneg, ?_⟩
        rw [Memory.grownTo, Memory.size_grown]
        omega

theorem readIndexed_eq (offset : Int64) :
    readIndexed offset = total (Memory.readIndexed offset) := by
  funext m
  refine total_bind_apply fun index memory hl => ?_
  obtain ⟨hneg, hlt⟩ := locate_eq_ok hl
  have hcell : memory.cells.toList[index.toNatClampNeg]? =
      some (memory.cells.getD index.toNatClampNeg .zero) := by
    rw [Array.getElem?_toList, Array.getElem?_eq_getElem hlt, Array.getD_eq_getD_getElem?,
      Array.getElem?_eq_getElem hlt, Option.getD_some]
  rw [get_bind_apply, ← Memory.natCast_index hneg, element_of_getElem? hcell]
  rfl

theorem replaced_toList {xs : Array Value} {n : Nat} (h : n < xs.size) (v : Value) :
    (replaced xs.toList (n : Int) v : Action σ (List Value)) =
      pure (xs.setIfInBounds n v).toList := by
  have hguard : ¬ ((n : Int) < 0 ∨ (xs.toList.length : Int) ≤ n) := by
    rw [Array.length_toList]
    omega
  rw [replaced, if_neg hguard, Int.toNat_natCast, Array.toList_setIfInBounds]

theorem writeIndexed_eq (offset : Int64) (v : Value) :
    writeIndexed offset v = total (Memory.writeIndexed offset v) := by
  funext m
  refine total_bind_apply fun index memory hl => ?_
  obtain ⟨hneg, hlt⟩ := locate_eq_ok hl
  rw [get_bind_apply, ← Memory.natCast_index hneg, replaced_toList hlt, pure_bind]
  rfl

theorem ofExcept_eq {α : Type} (x : Except Fault α) :
    (ofExcept x : Action Memory α) = total (Memory.Action.ofExcept x) := by
  cases x <;> rfl

theorem assignTo_eq (operand : Operand) (v : Value) :
    assignTo operand v = total (do let _ ← operand.set v) := by
  cases operand with
  | constant c => rfl
  | register r => rfl
  | address index held =>
      rw [assignTo, Operand.set]
      simp only [writeIndexed_eq, total_bind, bind_assoc, pure_bind, bind_pure_unit]

/-- Three registers stand before the general purpose ones. -/
theorem all_getElem?_general {k : Nat} (h : k < Register.generalCount) :
    Register.all[3 + k]? = Register.general? k :=
  match k, h with
  | 0, _ | 1, _ | 2, _ | 3, _ | 4, _ | 5, _ => rfl

theorem general_eq (n : Int64) : general n = ofExcept (Register.general n) := by
  rw [general, Register.general]
  by_cases hneg : n < 0
  · simp only [hneg, true_or, if_true]
    rfl
  have hcast := Memory.natCast_index hneg
  by_cases hlt : n.toNatClampNeg < Register.generalCount
  · have hguard : ¬ (n < 0 ∨ (Register.generalCount : Int) ≤ n.toInt) := by
      rintro (h | h)
      · exact hneg h
      · omega
    obtain ⟨r, hr⟩ := Option.isSome_iff_exists.1 (Register.general?_isSome.2 hlt)
    have hi : 3 + n.toInt = ((3 + n.toNatClampNeg : Nat) : Int) := by omega
    rw [if_neg hguard, if_neg hneg, hr, hi,
      element_of_getElem? ((all_getElem?_general hlt).trans hr)]
    rfl
  · have hguard : n < 0 ∨ (Register.generalCount : Int) ≤ n.toInt := .inr (by omega)
    have hr : Register.general? n.toNatClampNeg = none := by
      rw [← Option.not_isSome_iff_eq_none]
      exact fun h => hlt (Register.general?_isSome.1 h)
    rw [if_pos hguard, if_neg hneg, hr]
    rfl

theorem isQuoted_cons (first : UInt8) (rest : Text) :
    isQuoted (first :: rest) = pure (Operand.unquoted? (first :: rest)).isSome := by
  rw [isQuoted, Operand.unquoted?]
  cases rest with
  | nil => simp
  | cons second rest =>
      have hlen : ¬ (first :: second :: rest).length < 2 := by simp
      obtain ⟨last, hl⟩ := Option.isSome_iff_exists.1
        (List.getLast?_isSome.2 (List.cons_ne_nil second rest))
      have hl' : (first :: second :: rest).getLast? = some last := by
        rw [List.getLast?_cons_cons, hl]
      simp only [if_neg hlen, element_cons_zero, pure_bind, element_getLast hl', hl,
        Option.some.injEq]
      by_cases hq : first = byte '"' ∨ first = byte '\''
      · by_cases he : last = first <;> simp [hq, he]
      · simp [hq]

/-- The name of a register, or its number, after the `r`. -/
theorem register?_eq (rest : Text) :
    ((if rest.isDigits then
        match Operand.numeral? rest with
        | none => throw (.fault (.unknownRegister (byte 'r' :: rest)))
        | some n => do pure (.register (← general n))
      else
        match Register.ofName? rest with
        | none => throw (.fault (.unknownRegister (byte 'r' :: rest)))
        | some r => pure (.register r)) : Action Memory Operand) =
      ofExcept ((Operand.register? rest).map .register) := by
  rw [Operand.register?]
  by_cases hd : Text.isDigits rest
  · simp only [hd, if_true]
    cases Operand.numeral? rest with
    | none => rfl
    | some n =>
        dsimp only
        rw [general_eq]
        cases Register.general n <;> rfl
  · simp only [hd]
    cases Register.ofName? rest <;> rfl

theorem bracketed?_eq_some {first : UInt8} {rest inside : Text} :
    Operand.bracketed? (first :: rest) = some inside ↔
      first = byte '[' ∧ rest.getLast? = some (byte ']') ∧ inside = rest.dropLast := by
  rw [Operand.bracketed?]
  by_cases h : first = byte '[' ∧ rest.getLast? = some (byte ']')
  · simp [h, eq_comm]
  · simp only [if_neg h, reduceCtorEq, false_iff]
    exact fun h' => h ⟨h'.1, h'.2.1⟩

/-- The test for brackets at both ends of a token. -/
theorem brackets_iff (first : UInt8) (rest : Text) :
    (2 ≤ (first :: rest).length ∧ (first :: rest).head? = some (byte '[') ∧
        (first :: rest).getLast? = some (byte ']')) ↔
      ∃ inside, Operand.bracketed? (first :: rest) = some inside := by
  simp only [bracketed?_eq_some, List.head?_cons, Option.some.injEq]
  cases rest with
  | nil => simp
  | cons second rest =>
      rw [List.getLast?_cons_cons]
      simp

/-- A token without brackets needs no inner call. -/
theorem resolve_plain (labels : NameTable) (depth : Nat) {token : Text}
    (h : Operand.bracketed? token = none) :
    resolve labels (depth + 1) token = ofExcept (Operand.resolvePlain labels token) := by
  cases token with
  | nil => rfl
  | cons first rest =>
      rw [resolve, Operand.resolvePlain, if_neg (by simp), element_cons_zero, pure_bind]
      by_cases hr : first = byte 'r'
      · subst hr
        rw [if_pos rfl, if_pos rfl, slice_tail, pure_bind]
        exact register?_eq rest
      rw [if_neg hr, if_neg hr]
      by_cases hd : Text.isDigits (first :: rest)
      · rw [if_pos hd, if_pos hd]
        cases Operand.numeral? (first :: rest) <;> rfl
      have hb : ¬ (2 ≤ (first :: rest).length ∧ (first :: rest).head? = some (byte '[') ∧
          (first :: rest).getLast? = some (byte ']')) := by
        rw [brackets_iff]
        rintro ⟨inside, hi⟩
        rw [h] at hi
        cases hi
      rw [if_neg hd, if_neg hd, if_neg hb, isQuoted_cons, pure_bind]
      cases hq : Operand.unquoted? (first :: rest) with
      | none =>
          simp only [Option.isSome_none, Bool.false_eq_true, if_false]
          cases labels.find? (first :: rest) <;> rfl
      | some inside =>
          simp only [Option.isSome_some, if_true]
          rw [Operand.unquoted?] at hq
          split at hq
          · rename_i hq'
            cases hq
            have hne : rest ≠ [] := by
              rintro rfl
              simp at hq'
            rw [slice_inside first hne, pure_bind]
            rfl
          · cases hq

theorem toNat_sub_zero {d : UInt8} (h : Text.isDigit d) :
    (d - byte '0').toNat = d.toNat - 48 := by
  simp only [Text.isDigit, Bool.and_eq_true, decide_eq_true_eq] at h
  have hz : (byte '0').toNat = 48 := by decide
  rw [UInt8.toNat_sub_of_le _ _ (UInt8.le_iff_toNat_le.2 (by omega)), hz]

/-- The groups of an address expression carry what the parsed form carries; with a sign there is a
digit. -/
theorem addressGroups?_cases (inside : Text) :
    (Operand.AddressForm.parse? inside = none ∧ addressGroups? inside = none) ∨
    ∃ name : Text, name.isIdentifier ∧
      ((Operand.AddressForm.parse? inside = some ⟨name, 0⟩ ∧
          addressGroups? inside = some [inside, name, [], []]) ∨
        ∃ sign d, Text.isDigit d ∧
          Operand.AddressForm.parse? inside =
            some ⟨name, if [sign] = [byte '-'] then -Int64.ofNat (d.toNat - 48)
              else Int64.ofNat (d.toNat - 48)⟩ ∧
          addressGroups? inside = some [inside, name, [sign], [d]]) := by
  rw [Operand.AddressForm.parse?, addressGroups?]
  by_cases hname : Text.isIdentifier (List.takeWhile Text.isWordPart inside)
  · simp only [hname, Bool.not_true, Bool.false_eq_true, if_false]
    rcases List.dropWhile Text.isWordPart inside with _ | ⟨sign, _ | ⟨d, _ | ⟨c, more⟩⟩⟩
    · exact .inr ⟨_, hname, .inl ⟨rfl, rfl⟩⟩
    · exact .inl ⟨rfl, rfl⟩
    · dsimp only
      by_cases hd : Text.isDigit d
      · by_cases hplus : sign = byte '+'
        · subst hplus
          refine .inr ⟨_, hname, .inr ⟨byte '+', d, hd, ?_, ?_⟩⟩
          · simp [hd, show byte '+' ≠ byte '-' from by decide]
          · simp [hd]
        · by_cases hminus : sign = byte '-'
          · subst hminus
            refine .inr ⟨_, hname, .inr ⟨byte '-', d, hd, ?_, ?_⟩⟩
            · simp [hd, show byte '-' ≠ byte '+' from by decide]
            · simp [hd]
          · exact .inl ⟨by simp [hd, hplus, hminus], by simp [hplus, hminus]⟩
      · exact .inl ⟨by simp [hd], by simp [hd]⟩
    · exact .inl ⟨rfl, rfl⟩
  · exact .inl ⟨by simp [hname], by simp [hname]⟩

theorem element_two (x y z : Text) (rest : List Text) :
    (element (x :: y :: z :: rest) 2 : Action σ Text) = pure z :=
  element_of_getElem? (n := 2) rfl

theorem element_three (w x y z : Text) (rest : List Text) :
    (element (w :: x :: y :: z :: rest) 3 : Action σ Text) = pure z :=
  element_of_getElem? (n := 3) rfl

theorem ofExcept_bind {α β : Type} (x : Except Fault α) (f : α → Except Fault β) :
    (ofExcept (x >>= f) : Action σ β) = ofExcept x >>= fun a => ofExcept (f a) := by
  cases x <;> rfl

theorem calculateAddress_eq (labels : NameTable) (depth : Nat) (inside : Text) :
    calculateAddress (resolve labels (depth + 1)) inside =
      (do ofExcept (Operand.calculateAddress labels inside (← get).registers)) := by
  funext m
  show calculateAddress _ inside m = (get >>= fun memory => ofExcept _) m
  rw [get_bind_apply, calculateAddress, Operand.calculateAddress]
  obtain ⟨hp, hg⟩ | ⟨name, hname, hform⟩ := addressGroups?_cases inside
  · rw [hp, hg]
    rfl
  have hres := resolve_plain labels depth (Operand.bracketed?_of_isIdentifier hname)
  obtain ⟨hp, hg⟩ | ⟨sign, d, hd, hp, hg⟩ := hform
  · simp only [hp, hg, element_cons_one, pure_bind, hres, element_two, List.length_nil, if_true,
      ofExcept_bind]
    cases Operand.resolvePlain labels name with
    | error fault => rfl
    | ok operand =>
        show (ofExcept (operand.get m.registers).toInteger >>= _) m =
          (ofExcept (operand.get m.registers).toInteger >>= _) m
        cases (operand.get m.registers).toInteger with
        | error fault => rfl
        | ok n =>
            show EStateM.Result.ok n m = .ok (n + 0) m
            rw [Int64.add_zero]
  · simp only [hp, hg, element_cons_one, pure_bind, hres, element_two, element_three,
      element_cons_zero, toNat_sub_zero hd, List.length_singleton, ofExcept_bind]
    cases Operand.resolvePlain labels name with
    | error fault => rfl
    | ok operand =>
        show (ofExcept (operand.get m.registers).toInteger >>= _) m =
          (ofExcept (operand.get m.registers).toInteger >>= _) m
        cases (operand.get m.registers).toInteger with
        | error fault => rfl
        | ok n => rfl

theorem resolveAddress_eq (labels : NameTable) (depth : Nat) (inside : Text) :
    resolveAddress (resolve labels (depth + 1)) inside =
      total (Operand.resolveAddress labels inside) := by
  rw [resolveAddress, Operand.resolveAddress, calculateAddress_eq]
  simp only [ofExcept_eq, readIndexed_eq, total_bind, total_pure, bind_assoc]
  rfl

/-- Two calls inside each other are always enough. -/
theorem resolve_eq (labels : NameTable) (depth : Nat) (token : Text) :
    resolve labels (depth + 2) token = total (Operand.resolve labels token) := by
  rw [Operand.resolve]
  cases hb : Operand.bracketed? token with
  | none => rw [resolve_plain labels (depth + 1) hb, ofExcept_eq]
  | some inside =>
      cases token with
      | nil => cases hb
      | cons first rest =>
          obtain ⟨rfl, hlast, rfl⟩ := bracketed?_eq_some.1 hb
          have hne : rest ≠ [] := by
            rintro rfl
            cases hlast
          have hd : ¬ Text.isDigits (byte '[' :: rest) := by
            simp [Text.isDigits, show Text.isDigit (byte '[') = false from by decide]
          rw [resolve, if_neg (by simp), element_cons_zero, pure_bind, if_neg (by decide),
            if_neg hd, if_pos ((brackets_iff _ _).2 ⟨_, hb⟩), slice_inside _ hne, pure_bind]
          exact resolveAddress_eq labels depth rest.dropLast

theorem onMemory_total {α : Type} (act : Memory.Action α) :
    onMemory (total act) = total (Machine.onMemory act) := by
  funext m
  rw [onMemory, total, total, Machine.onMemory]
  cases act m.memory <;> rfl

theorem located_total {α : Type} (layers : List Layer) (act : Machine.Action α) :
    located layers (total act) = total (act.at layers) := by
  funext m
  rw [located, total, total, Machine.at_apply]
  cases act m <;> rfl

theorem resolve_apply_eq (token : Text) :
    (do onMemory (resolve (← get).labels resolveDepth token)) = total (Machine.resolve token) := by
  rw [Machine.resolve, total_bind]
  simp only [resolveDepth, resolve_eq, onMemory_total]
  rfl

theorem operands_eq (tokens : List Text) :
    operands tokens = total (Machine.resolveAll tokens) := by
  simp only [operands, resolve_apply_eq, Machine.resolveAll]
  induction tokens with
  | nil => rfl
  | cons token tokens ih =>
      rw [List.mapM_cons, List.mapM_cons, ih]
      simp only [total_bind, total_pure]

theorem delay_eq (steps : Int64) : delay steps = total (Machine.delay steps) := by
  funext m
  rw [delay, total, Machine.delay_apply]
  by_cases hneg : steps < 0
  · rw [if_pos hneg, if_pos hneg]
    rfl
  rw [if_neg hneg, if_neg hneg, get_bind_apply, Machine.paused]
  by_cases hsleep : m.sleeper.isSome && 0 < m.speed
  · have hspeed : m.speed ≠ 0 := by
      intro h
      simp [h] at hsleep
    have hguard : ¬ (m.sleeper.isNone || decide (m.speed ≤ 0)) := by
      simp only [Bool.and_eq_true, decide_eq_true_eq, Option.isSome_iff_ne_none] at hsleep
      simp [hsleep.1, hsleep.2]
    rw [if_pos hsleep, if_neg hguard, quotient_of_ne hspeed, pure_bind, Machine.pauseLength]
    dsimp only
    split
    · rfl
    · rw [remainder_of_ne hspeed, pure_bind, quotient_of_ne hspeed, pure_bind]
      rfl
  · have hguard : m.sleeper.isNone || decide (m.speed ≤ 0) := by
      by_cases hs : m.sleeper.isSome
      · simp [hs] at hsleep
        simp [hsleep]
      · simp [Option.not_isSome_iff_eq_none.1 hs]
    rw [if_neg hsleep, if_pos hguard]
    rfl

theorem assign_eq (operand : Operand) (v : Value) :
    assign operand v = total (Machine.assign operand v) := by
  rw [assign, assignTo_eq, onMemory_total, Machine.assign]
  congr 1
  funext m
  rw [Machine.onMemory_apply, bind_apply, bind_apply, Machine.onMemory_apply]
  cases operand.set v m.memory <;> rfl

theorem arithmetic_eq (f : Value → Value → Except Fault Value) (a b : Text) :
    (do arithmetic (← operands [a, b]) fun x y => ofExcept (f x y)) =
      total (Machine.arithmetic f a b) := by
  simp only [Machine.arithmetic, operands_eq, Machine.resolveAll, List.mapM_cons, List.mapM_nil,
    total_bind, total_pure, bind_assoc, pure_bind, arithmetic, element_cons_zero, element_cons_one,
    valueOf]
  refine bind_congr fun x => bind_congr fun y => bind_congr fun v => bind_congr fun w => ?_
  cases f v w <;> rfl

theorem perform_eq (inst : Instruction) :
    (do effect (← operands inst.operands) inst.opcode) = total (Machine.perform inst) := by
  cases inst with
  | add a b => exact arithmetic_eq Value.add a b
  | sub a b => exact arithmetic_eq Value.sub a b
  | mul a b =>
      rw [Machine.perform, ← arithmetic_eq Value.mul a b]
      simp only [← mul_eq]
      rfl
  | div a b =>
      rw [Machine.perform, ← arithmetic_eq Value.floorDiv a b]
      simp only [← floorDiv_eq]
      rfl
  | lea a b =>
      simp only [Machine.perform, Instruction.operands, Instruction.opcode, operands_eq,
        Machine.resolveAll, List.mapM_cons, List.mapM_nil, total_bind, total_pure, bind_assoc,
        pure_bind, effect, element_cons_zero, element_cons_one, assign_eq]
      refine bind_congr fun x => bind_congr fun y => ?_
      cases y <;> rfl
  | _ =>
      simp only [Machine.perform, Instruction.operands, Instruction.opcode, operands_eq,
        Machine.resolveAll, List.mapM_cons, List.mapM_nil, total_bind, total_pure, bind_assoc,
        pure_bind, effect, element_cons_zero, element_cons_one, valueOf, integerOf, assign_eq,
        delay_eq, pop_eq, onMemory_total, total_get, total_modify]

theorem execute_eq (ip : Int64) (inst : Instruction) :
    execute ip inst = total (Machine.execute ip inst) := by
  rw [execute, Machine.execute, perform_eq, located_total, total_bind, total_modify]

theorem fetched_element {m : Machine} {ip : Int64} {mid : Machine}
    (h : Machine.fetch.at [] m = .ok ip mid) :
    ∃ inst, mid.code[ip.toNatClampNeg]? = some inst ∧
      (element mid.code.toList ip.toInt : EStateM (Trap Failure) Machine Instruction) =
        pure inst := by
  rw [Machine.at_apply, Machine.fetch_apply] at h
  cases hn : m.nextIndex with
  | error fault => rw [hn] at h; cases h
  | ok i =>
      rw [hn] at h
      cases h
      obtain ⟨inst, hx⟩ := Machine.exists_executes hn
      have hcode : (m.atIp ip).code.toList[ip.toNatClampNeg]? = some inst := by
        rw [Array.getElem?_toList, Machine.atIp_code, hx.2]
      refine ⟨inst, hx.2, ?_⟩
      rw [← Memory.natCast_index (Machine.lt_size_of_nextIndex hn).1]
      exact element_of_getElem? hcode

theorem tick_eq : tick = total Machine.tick := by
  funext m
  rw [tick, Machine.tick]
  refine total_bind_apply fun ip mid hf => ?_
  obtain ⟨inst, hcode, helement⟩ := fetched_element hf
  rw [get_bind_apply, helement, pure_bind, total_bind, total_get, get_bind_apply, hcode]
  simp only [execute_eq, delay_eq, located_total, total_bind, total_modify]

theorem run_eq (fuel : Nat) (m : Machine) : run fuel m = .ok (m.run fuel) := by
  induction fuel generalizing m with
  | zero => rfl
  | succ fuel ih =>
      rw [run, Machine.run]
      by_cases hr : m.running
      · rw [if_pos hr, if_pos hr, tick_eq, total]
        cases Machine.tick m with
        | ok u m => exact ih m
        | error failure m => rfl
      · rw [if_neg hr, if_neg hr]

theorem logging_cells (line : Text) (m : Machine) : (m.logging line).cells = m.cells := by
  rw [Machine.logging]
  split <;> rfl

theorem reset_apply {m : Machine} (h : 0 ≤ m.cells) : reset m = .ok ⟨⟩ m.reset := by
  have hneg : ¬ (m.logging (ofString "cpu: reset")).cells < 0 := by
    rw [logging_cells]
    exact Int64.not_lt.2 h
  rw [reset, bind_apply, modify_apply]
  dsimp only
  rw [get_bind_apply, allocation, if_neg hneg, pure_bind]
  rfl

/-- Whatever the program, the labels, the registers and the stack hold, no tick, no run and no
reset to a possible number of cells leaves the domain of a primitive: a bad situation is a fault of
the machine, and all else is as on total primitives. -/
theorem machine_never_undefined (m : Machine) :
    (∀ p m', tick m ≠ .error (.undefined p) m') ∧
      tick m = total Machine.tick m ∧
      (∀ fuel, run fuel m = .ok (m.run fuel)) ∧
      (0 ≤ m.cells → reset m = .ok ⟨⟩ m.reset) := by
  refine ⟨fun p m' => ?_, by rw [tick_eq], fun fuel => run_eq fuel m, reset_apply⟩
  rw [tick_eq]
  exact total_ne_undefined Machine.tick p m m'

/-- An empty stack from which the program returns: a fault, in both ways of running it. -/
theorem machine_never_undefined_ret :
    let m := { Machine.initial .empty 0 with code := #[.ret] }
    0 ≤ m.cells ∧ reset m = .ok ⟨⟩ m.reset ∧
      run 2 (m.started 7) = .ok ((m.started 7).run 2) ∧
      ((m.started 7).run 2).1 =
        .failed ⟨[.instruction 0 (ofString "ret")], .stackUnderflow⟩ := by
  intro m
  have hcells : 0 ≤ m.cells := by decide
  exact ⟨hcells, (machine_never_undefined m).2.2.2 hcells,
    (machine_never_undefined (m.started 7)).2.2.1 2, by decide⟩

end RegisterMachine.Strict

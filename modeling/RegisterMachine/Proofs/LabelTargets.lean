import RegisterMachine.Proofs.Assembler.Outcome
import RegisterMachine.Proofs.EffectFrame
import RegisterMachine.Proofs.Text.Words

/-!
# Labels as targets

A jump and a call reach a label if its name is an identifier that does not begin with `r`.
Every token that begins with `r` is taken for a register, so an identifier that begins so
and spells none is declared in vain: a jump there fails, and so does a call.
-/
namespace RegisterMachine

open Stateful
open Text (ofString byte)

namespace Operand

/-- The token spells a register: its number or its name, after an `r`. -/
inductive SpellsRegister : Text → Prop
  | number {digits : Text} : digits.isDigits → Text.digitsValue digits ≤ 5 →
      SpellsRegister (byte 'r' :: digits)
  | name (r : Register) : SpellsRegister (byte 'r' :: r.name)

theorem unquoted?_of_isIdentifier {name : Text} (h : name.isIdentifier) :
    unquoted? name = none := by
  obtain ⟨first, rest, rfl, hfirst, -⟩ := Text.exists_of_isIdentifier h
  have hpart := Text.isWordPart_of_isWordStart hfirst
  have hdouble : first ≠ byte '"' := Text.ne_of_isWordPart hpart (by decide)
  have hsingle : first ≠ byte '\'' := Text.ne_of_isWordPart hpart (by decide)
  simp [unquoted?, hdouble, hsingle]

theorem resolvePlain_of_isIdentifier {name : Text} {index : Int64} (h : name.isIdentifier)
    (hr : name.head? ≠ some (byte 'r')) {labels : NameTable}
    (hfind : labels.find? name = some index) :
    resolvePlain labels name = .ok (.constant (.integer index)) := by
  have hdigits : ¬ name.isDigits := Text.not_isDigits_of_isIdentifier h
  have hquoted : unquoted? name = none := unquoted?_of_isIdentifier h
  obtain ⟨first, rest, rfl, -, -⟩ := Text.exists_of_isIdentifier h
  have hfirst : first ≠ byte 'r' := by
    rintro rfl
    exact hr rfl
  rw [resolvePlain, if_neg hfirst, if_neg hdigits, hquoted]
  simp only [hfind]

/-- A declared label denotes its index. -/
theorem resolve_of_isIdentifier {name : Text} {index : Int64} (h : name.isIdentifier)
    (hr : name.head? ≠ some (byte 'r')) {labels : NameTable}
    (hfind : labels.find? name = some index) (m : Memory) :
    resolve labels name m = .ok (.constant (.integer index)) m := by
  rw [resolve_of_plain (Operand.bracketed?_of_isIdentifier h),
    resolvePlain_of_isIdentifier h hr hfind]

theorem ofName?_eq_none {name : Text} (h : ∀ r : Register, r.name ≠ name) :
    Register.ofName? name = none := by
  rw [Register.ofName?, List.find?_eq_none]
  intro r _ hname
  exact h r (beq_iff_eq.1 hname)

/-- A register by a number that fits a machine word. -/
theorem general_ofNat {n : Nat} (hfits : n < 9223372036854775808) :
    Register.general (Int64.ofNat n) = match Register.general? n with
      | some r => .ok r
      | none => .error (.unknownRegister (byte 'r' :: Text.decimal n)) := by
  have hint : (Int64.ofNat n).toInt = n := Int64.toInt_ofNat_of_lt hfits
  have hneg : ¬ Int64.ofNat n < 0 := by
    rw [Int64.lt_iff_toInt_lt, hint, Int64.toInt_zero]
    omega
  have hindex : (Int64.ofNat n).toNatClampNeg = n := by
    rw [← Int64.toNat_toInt, hint, Int.toNat_natCast]
  have htext : ofString "r" ++ Text.ofInt64 (Int64.ofNat n) = byte 'r' :: Text.decimal n := by
    rw [Text.ofInt64, hint, Text.signedDecimal, if_neg (by omega), Int.natAbs_natCast]
    rfl
  unfold Register.general
  cases hgeneral : Register.general? n <;> simp [hneg, hindex, htext, hgeneral]

theorem general?_eq_none {n : Nat} (h : 5 < n) : Register.general? n = none := by
  rw [← Option.not_isSome_iff_eq_none, Register.general?_isSome, Register.generalCount]
  omega

/-- A token that begins with `r` denotes a register or nothing, whatever labels there are. -/
theorem resolve_cons_r (rest : Text) (labels : NameTable) (m : Memory) :
    resolve labels (byte 'r' :: rest) m = match register? rest with
      | .ok r => .ok (.register r) m
      | .error fault => .error fault m := by
  rw [resolve_of_plain (Operand.bracketed?_cons_of_ne (by decide) rest), resolvePlain, if_pos rfl]
  cases register? rest <;> rfl

/-- Digits behind an `r` number a register, or the number is named in the fault: without zeros in
front, unless it is too large to be read at all. -/
theorem register?_of_isDigits {digits : Text} (h : digits.isDigits) :
    register? digits = match Register.general? (Text.digitsValue digits) with
      | some r => .ok r
      | none => .error (.unknownRegister (byte 'r' ::
          if Text.digitsValue digits < 9223372036854775808 then
            Text.decimal (Text.digitsValue digits)
          else digits)) := by
  unfold register?
  by_cases hfits : Text.digitsValue digits < 9223372036854775808
  · cases hgeneral : Register.general? (Text.digitsValue digits) <;>
      simp [h, numeral?, hfits, general_ofNat, hgeneral]
  · have hnone : Register.general? (Text.digitsValue digits) = none :=
      general?_eq_none (by omega)
    simp [h, numeral?, hfits, hnone]

/-- What begins with `r` and spells no register denotes nothing. -/
theorem register?_of_not_spells {rest : Text} (h : ¬ SpellsRegister (byte 'r' :: rest)) :
    ∃ token, register? rest = .error (.unknownRegister token) := by
  by_cases hdigits : rest.isDigits
  · have hbig : 5 < Text.digitsValue rest := by
      by_contra hsmall
      exact h (.number hdigits (by omega))
    rw [register?_of_isDigits hdigits, general?_eq_none hbig]
    exact ⟨_, rfl⟩
  · have hname (r : Register) : r.name ≠ rest := by
      rintro rfl
      exact h (.name r)
    unfold register?
    simp only [hdigits, ofName?_eq_none hname]
    exact ⟨_, rfl⟩

/-- It denotes nothing in any state, and whatever labels there are. -/
theorem resolve_of_not_spells {name : Text} (hr : name.head? = some (byte 'r'))
    (h : ¬ SpellsRegister name) :
    ∃ token, ∀ labels m, resolve labels name m = .error (.unknownRegister token) m := by
  cases name with
  | nil => cases hr
  | cons first rest =>
      obtain rfl : first = byte 'r' := by simpa using hr
      obtain ⟨token, htoken⟩ := register?_of_not_spells h
      refine ⟨token, fun labels m => ?_⟩
      rw [resolve_cons_r, htoken]

end Operand

namespace Machine

/-- The machine has loaded the program. -/
structure Runs (m : Machine) (program : Program) : Prop where
  code : m.code = program.instructions
  labels : m.labels = program.labels

@[simp] theorem noted_memory (m : Machine) (i : Int64) (inst : Instruction) :
    (m.noted i inst).memory = m.memory := logging_memory _ _

@[simp] theorem noted_labels (m : Machine) (i : Int64) (inst : Instruction) :
    (m.noted i inst).labels = m.labels := logging_labels _ _

variable {m : Machine} {i : Int64} {inst : Instruction} {token : Text} {index : Int64}

theorem execute_of_ok {done : Machine} (h : perform inst (m.noted i inst) = .ok ⟨⟩ done) :
    execute i inst m = .ok ⟨⟩ done := by
  rw [execute, bind_of_ok (modify_apply _ _), at_apply, ← noted, h]

theorem execute_of_error {fault : Fault} {done : Machine}
    (h : perform inst (m.noted i inst) = .error fault done) :
    execute i inst m = .error ⟨[.instruction i inst.disassemble], fault⟩ done := by
  rw [execute, bind_of_ok (modify_apply _ _), at_apply, ← noted, h]

theorem perform_jmp_of_resolve (h : resolve token m = .ok (.constant (.integer index)) m) :
    perform (.jmp token) m = .ok ⟨⟩ (m.atIp index) := by
  rw [perform, bind_of_ok h]
  rfl

theorem perform_call_of_resolve (h : resolve token m = .ok (.constant (.integer index)) m)
    {top : Int64} (hsp : m.memory.registers.sp = .integer top) :
    perform (.call token) m =
      .ok ⟨⟩ ((m.withMemory (m.memory.pushed top m.memory.registers.ip)).atIp index) := by
  have htop : m.memory.registers.integer .sp = .ok top := RegisterFile.integer_eq_ok.2 hsp
  have hpush : onMemory (Memory.push m.memory.registers.ip) m =
      .ok ⟨⟩ (m.withMemory (m.memory.pushed top m.memory.registers.ip)) := by
    rw [onMemory_apply, Memory.push_apply, htop]
  have htarget : integerOf (.constant (.integer index)) m = .ok index m := rfl
  rw [perform, bind_of_ok h, bind_of_ok htarget, get_bind_apply, bind_of_ok hpush, setIp_apply]

/-- Without a target a jump and a call fail alike. -/
theorem perform_of_resolve_error {fault : Fault} (h : resolve token m = .error fault m)
    (hinst : inst = .jmp token ∨ inst = .call token) : perform inst m = .error fault m := by
  rcases hinst with rfl | rfl
  · exact bind_of_error h _
  · exact bind_of_error h _

end Machine

namespace Program

open Machine (execute)

/-- In every state of the program a jump to `name` sets the instruction pointer to `index`, and a
call pushes the return address first. -/
structure Reaches (program : Program) (name : Text) (index : Int64) : Prop where
  jmp : ∀ (m : Machine) (i : Int64), m.Runs program →
    execute i (.jmp name) m = .ok ⟨⟩ ((m.noted i (.jmp name)).atIp index)
  call : ∀ (m : Machine) (i top : Int64), m.Runs program →
    m.memory.registers.sp = .integer top →
      execute i (.call name) m = .ok ⟨⟩ (((m.noted i (.call name)).withMemory
        (m.memory.pushed top m.memory.registers.ip)).atIp index)

/-- In every state of the program a jump and a call to `name` fail, because the name is taken for a
register. -/
def Misses (program : Program) (name : Text) : Prop :=
  ∃ token, ∀ (m : Machine) (i : Int64) (inst : Instruction), m.Runs program →
    inst = .jmp name ∨ inst = .call name →
      execute i inst m =
        .error ⟨[.instruction i inst.disassemble], .unknownRegister token⟩ (m.noted i inst)

variable {program : Program} {name : Text} {index : Int64}

theorem reaches_of_isIdentifier (h : name.isIdentifier) (hr : name.head? ≠ some (byte 'r'))
    (hfind : program.labels.find? name = some index) : program.Reaches name index := by
  have hresolve (m : Machine) (i : Int64) (inst : Instruction) (hm : m.Runs program) :
      Machine.resolve name (m.noted i inst) =
        .ok (.constant (.integer index)) (m.noted i inst) := by
    have hlabel : (m.noted i inst).labels.find? name = some index := by
      rw [Machine.noted_labels, hm.labels, hfind]
    exact Machine.resolve_eq_ok.2 ⟨_, Operand.resolve_of_isIdentifier h hr hlabel _, rfl⟩
  constructor
  · intro m i hm
    exact Machine.execute_of_ok (Machine.perform_jmp_of_resolve (hresolve m i _ hm))
  · intro m i top hm hsp
    have hcall := Machine.perform_call_of_resolve (hresolve m i (.call name) hm)
      (by rw [Machine.noted_memory]; exact hsp)
    rw [Machine.noted_memory] at hcall
    exact Machine.execute_of_ok hcall

theorem misses_of_not_spells (hr : name.head? = some (byte 'r'))
    (h : ¬ Operand.SpellsRegister name) (program : Program) : program.Misses name := by
  obtain ⟨token, htoken⟩ := Operand.resolve_of_not_spells hr h
  refine ⟨token, fun m i inst _ hinst => Machine.execute_of_error ?_⟩
  refine Machine.perform_of_resolve_error ?_ hinst
  rw [Machine.resolve, get_bind_apply, Machine.onMemory_apply, htoken]
  rfl

end Program

namespace Assembler

variable {evaluate : Evaluator} {asm : Assembler} {reader : Reader} {program : Program}
  {name : Text} {index : Int64}

/-- The labels of an accepted text are those that its lines declare. -/
theorem find?_labels_of_parse (h : (asm.parse evaluate reader).1 = .ok program) :
    program.labels.find? name = some index ↔
      Source.Declares (Source.ofReader reader).lines name index := by
  obtain haccepted | ⟨failure, hrejected⟩ := accepted_or_rejected evaluate asm reader
  · obtain ⟨draft, hadd, hreads⟩ := Draft.addLines_of_faultless haccepted.lines
    obtain ⟨-, -, hfinish⟩ := parse_eq_ok.1 h
    obtain ⟨entry, instructions, -, -, rfl⟩ := finish_eq_ok.1 hfinish
    rw [hadd]
    exact hreads.find?_labels
  · rw [hrejected.parse] at h
    cases h

/-- A label of an accepted program whose name is an identifier was declared above the instruction
with its index. If the name does not begin with `r`, then jumps and calls go there in every state of
the program. If it does and spells no register, they fail in every state. -/
theorem label_reached_or_register (h : (asm.parse evaluate reader).1 = .ok program)
    (hfind : program.labels.find? name = some index) (hname : name.isIdentifier) :
    Source.Declares (Source.ofReader reader).lines name index ∧
      (name.head? ≠ some (byte 'r') → program.Reaches name index) ∧
      (name.head? = some (byte 'r') → ¬ Operand.SpellsRegister name → program.Misses name) :=
  ⟨(find?_labels_of_parse h).1 hfind,
    fun hr => Program.reaches_of_isIdentifier hname hr hfind,
    fun hr hspells => Program.misses_of_not_spells hr hspells program⟩

def retryText : Text := ofString "!_start\njmp:retry\ncall:again\n!retry\nexit\n!again\nret\n"

def noValues : Evaluator := fun _ _ => (.failed, [])

def retryProgram : Program where
  instructions := #[.jmp (ofString "retry"), .call (ofString "again"), .exit, .ret]
  lines := #[⟨2, ofString "jmp:retry"⟩, ⟨3, ofString "call:again"⟩, ⟨5, ofString "exit"⟩,
    ⟨7, ofString "ret"⟩]
  labels := .ofPairs [(ofString "_start", 0), (ofString "again", 3), (ofString "retry", 2)]
  entry := 0

theorem parse_retryText :
    (initial.parse noValues (Reader.ofText retryText)).1 = .ok retryProgram := by
  decide +kernel

theorem not_spells_retry : ¬ Operand.SpellsRegister (ofString "retry") := by
  intro h
  have hrest : ofString "retry" = byte 'r' :: ofString "etry" := by decide
  rw [hrest] at h
  generalize he : ofString "etry" = rest at h
  cases h with
  | number hdigits _ =>
      rw [← he] at hdigits
      exact absurd hdigits (by decide)
  | name r => cases r <;> exact absurd he (by decide)

theorem label_reached_or_register_again :
    (initial.parse noValues (Reader.ofText retryText)).1 = .ok retryProgram ∧
      retryProgram.labels.find? (ofString "again") = some 3 ∧
      retryProgram.Reaches (ofString "again") 3 ∧ retryProgram.Misses (ofString "retry") := by
  have hagain := @label_reached_or_register noValues initial (Reader.ofText retryText) retryProgram
    (ofString "again") 3 parse_retryText (by decide) (by decide)
  have hretry := @label_reached_or_register noValues initial (Reader.ofText retryText) retryProgram
    (ofString "retry") 2 parse_retryText (by decide) (by decide)
  exact ⟨parse_retryText, by decide, hagain.2.1 (by decide),
    hretry.2.2 (by decide) not_spells_retry⟩

/-- The label `retry` is an identifier and spells no register, and yet no jump reaches it. -/
theorem label_retry_out_of_reach :
    (initial.parse noValues (Reader.ofText retryText)).1 = .ok retryProgram ∧
      retryProgram.labels.find? (ofString "retry") = some 2 ∧ (ofString "retry").isIdentifier ∧
      ¬ Operand.SpellsRegister (ofString "retry") ∧
      ¬ retryProgram.Reaches (ofString "retry") 2 := by
  refine ⟨parse_retryText, by decide, by decide, not_spells_retry, fun hreaches => ?_⟩
  obtain ⟨token, hmisses⟩ := Program.misses_of_not_spells (by decide) not_spells_retry retryProgram
  have hrun : ({ Machine.initial retryProgram.labels 5 with
    code := retryProgram.instructions } : Machine).Runs retryProgram := ⟨rfl, rfl⟩
  have hfail := hmisses _ 0 _ hrun (.inl rfl)
  rw [hreaches.jmp _ 0 hrun] at hfail
  cases hfail

end Assembler

end RegisterMachine

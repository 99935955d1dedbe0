import RegisterMachine.Proofs.Addresses
import RegisterMachine.Proofs.Strict.Safety

/-!
# Resolving a token

Resolving is the only way in which reading an operand changes the machine. All it does is to append
zero cells for an address at or past the end of the stack, after everything that can fail. The name
inside an address is no address itself, so it is resolved without a further call and appends
nothing; and resolving a token again finds what was found before.
-/
namespace RegisterMachine

open Stateful
open Text (ofString)

namespace Operand

variable {labels : NameTable} {token inside : Text} {operand : Operand} {m m' : Memory}

/-- What stands for a name in an address is an identifier. -/
theorem isIdentifier_of_parse? {form : AddressForm} (h : AddressForm.parse? inside = some form) :
    form.name.isIdentifier := by
  unfold AddressForm.parse? at h
  by_cases hname : Text.isIdentifier (inside.takeWhile Text.isWordPart)
  · simp only [hname, Bool.not_true, Bool.false_eq_true, if_false] at h
    repeat' split at h
    all_goals cases h
    all_goals exact hname
  · simp [hname] at h

theorem bracketed?_name {form : AddressForm} (h : AddressForm.parse? inside = some form) :
    bracketed? form.name = none :=
  Operand.bracketed?_of_isIdentifier (isIdentifier_of_parse? h)

/-- A token without brackets changes nothing, whether it resolves or not. -/
theorem endState_resolve_of_plain (h : bracketed? token = none) (m : Memory) :
    endState (resolve labels token m) = m := by
  rw [resolve_of_plain h]
  cases resolvePlain labels token <;> rfl

/-- A token that resolves has no brackets, or its inside denotes the index of a cell. -/
theorem address_of_resolve (h : resolve labels token m = .ok operand m') :
    (bracketed? token = none ∧ m' = m) ∨
      ∃ inside index, bracketed? token = some inside ∧
        calculateAddress labels inside m.registers = .ok index ∧ 0 ≤ index ∧
        operand = .address index (m.cellAt index) ∧ m' = m.grownTo index := by
  cases hb : bracketed? token with
  | none =>
      have hsame : endState (resolve labels token m) = m := endState_resolve_of_plain hb m
      rw [h] at hsame
      exact .inl ⟨rfl, hsame⟩
  | some inside =>
      rw [resolve_of_bracketed hb, resolveAddress_apply] at h
      cases hc : calculateAddress labels inside m.registers with
      | error fault => rw [hc] at h; cases h
      | ok index =>
          cases hbase : m.registers.integer .bp with
          | error fault => rw [hc, hbase] at h; cases h
          | ok base =>
              rw [hc, hbase] at h
              dsimp only at h
              split at h <;> cases h
              rename_i hneg
              exact .inr ⟨inside, index, rfl, hc, Int64.not_lt.1 hneg, rfl, rfl⟩

/-- More zero cells make no difference to what a token denotes: an index depends on the registers
only. -/
theorem resolve_lengthened (h : resolve labels token m = .ok operand m') (n : Nat) :
    resolve labels token (m.lengthened n) =
      .ok operand (m.lengthened (max n (operand.reach - m.cells.size))) := by
  cases hb : bracketed? token with
  | none =>
      rw [resolve_of_plain hb] at h ⊢
      cases hp : resolvePlain labels token with
      | error fault => rw [hp] at h; cases h
      | ok found =>
          rw [hp] at h
          cases h
          have hreach : operand.reach = 0 := by
            cases operand with
            | address index held => exact absurd hp resolvePlain_ne_address
            | constant v => rfl
            | register r => rfl
          simp [hreach]
  | some inside =>
      rw [resolve_of_bracketed hb, resolveAddress_apply] at h ⊢
      rw [Memory.lengthened_registers]
      cases hc : calculateAddress labels inside m.registers with
      | error fault => rw [hc] at h; cases h
      | ok index =>
          cases hbase : m.registers.integer .bp with
          | error fault => rw [hc, hbase] at h; cases h
          | ok base =>
              rw [hc, hbase] at h
              dsimp only at h ⊢
              split at h <;> cases h
              rename_i hneg
              rw [if_neg hneg, Memory.cellAt_lengthened, Memory.grownTo_eq,
                Memory.lengthened_lengthened, Memory.size_lengthened, reach]
              congr 2
              omega

/-- Resolving a token where it was resolved already gives the same once more. -/
theorem resolve_again (labels : NameTable) (token : Text) (m : Memory) :
    resolve labels token (endState (resolve labels token m)) = resolve labels token m := by
  cases hres : resolve labels token m with
  | error fault m' =>
      obtain rfl := resolve_eq_error hres
      exact hres
  | ok operand m' =>
      obtain ⟨hm', -⟩ := lengthened_of_resolve hres
      have hagain := resolve_lengthened hres (operand.reach - m.cells.size)
      rw [Nat.max_self] at hagain
      rw [endState, hm', hagain]

end Operand

namespace Machine

theorem endState_onMemory {α : Type} (act : Memory.Action α) (m : Machine) :
    endState (onMemory act m) = m.withMemory (endState (act m.memory)) := by
  rw [onMemory_apply]
  cases act m.memory <;> rfl

/-- Resolving a token keeps registers, logical size and all cells, and touches nothing beyond the
memory. If it fails, it changes nothing at all. If it succeeds, it changes something only for an
address at or past the end of the stack, and then appends zero cells just up to that address. The
name inside an address has no brackets and changes nothing; it needs one call of the resolver, and
so any token needs no more than two inside each other. Resolving a token again gives the same
outcome, in the same machine. -/
theorem resolve_only_appends (token : Text) (m : Machine) :
    (Operand.Kept m.memory (endState (resolve token m)).memory ∧
      endState (resolve token m) = m.withMemory (endState (resolve token m)).memory) ∧
    (∀ fault m', resolve token m = .error fault m' → m' = m) ∧
    (∀ operand m', resolve token m = .ok operand m' →
      (Operand.bracketed? token = none ∧ m' = m) ∨
      ∃ inside index held, Operand.bracketed? token = some inside ∧
        Operand.calculateAddress m.labels inside m.memory.registers = .ok index ∧ 0 ≤ index ∧
        operand = .address index held ∧
        (index.toNatClampNeg < m.memory.cells.size → m' = m) ∧
        (m.memory.cells.size ≤ index.toNatClampNeg → m' = m.withMemory
          (m.memory.lengthened (index.toNatClampNeg + 1 - m.memory.cells.size)))) ∧
    (∀ inside form, Operand.AddressForm.parse? inside = some form →
      Operand.bracketed? form.name = none ∧ endState (resolve form.name m) = m ∧
      ∀ depth, Strict.resolve m.labels (depth + 1) form.name =
        Strict.total (Operand.resolve m.labels form.name)) ∧
    (∀ depth, Strict.resolve m.labels (depth + 2) token =
      Strict.total (Operand.resolve m.labels token)) ∧
    resolve token (endState (resolve token m)) = resolve token m := by
  have hend : endState (resolve token m) =
      m.withMemory (endState (Operand.resolve m.labels token m.memory)) := by
    rw [resolve_apply, endState_onMemory]
  refine ⟨⟨?_, by rw [hend]; rfl⟩, fun _ _ => resolve_eq_error, ?_, ?_,
    fun depth => Strict.resolve_eq _ depth _, ?_⟩
  · rw [hend, withMemory_memory]
    cases hres : Operand.resolve m.labels token m.memory with
    | error fault memory =>
        obtain rfl := Operand.resolve_eq_error hres
        exact .refl _
    | ok operand memory => exact Operand.resolve_kept hres
  · intro operand m' h
    obtain ⟨memory, hres, rfl⟩ := resolve_eq_ok.1 h
    obtain ⟨hplain, rfl⟩ | ⟨inside, index, hb, hc, hindex, rfl, rfl⟩ :=
      Operand.address_of_resolve hres
    · exact .inl ⟨hplain, rfl⟩
    · refine .inr ⟨inside, index, _, hb, hc, hindex, rfl, fun hin => ?_, fun _ => ?_⟩
      · have hnothing : index.toNatClampNeg + 1 - m.memory.cells.size = 0 := by omega
        rw [Memory.grownTo_eq, hnothing, Memory.lengthened_zero, withMemory_self]
      · rw [Memory.grownTo_eq]
  · intro inside form hform
    have hplain := Operand.bracketed?_name hform
    refine ⟨hplain, ?_, fun depth => ?_⟩
    · rw [resolve_apply, endState_onMemory, Operand.endState_resolve_of_plain hplain,
        withMemory_self]
    · rw [Strict.resolve_plain _ _ hplain, Operand.resolve, hplain, Strict.ofExcept_eq]
  · rw [hend, resolve_apply, resolve_apply, onMemory_apply, onMemory_apply, withMemory_labels,
      withMemory_memory, Operand.resolve_again]
    cases Operand.resolve m.labels token m.memory <;> rfl

/-- Three cells past the base, which is the last of two cells. -/
theorem resolve_only_appends_three :
    ∃ m', resolve (ofString "[rbp+3]") (initial .empty 2) = .ok (.address 4 .zero) m' ∧
      m'.memory.cells = #[.zero, .zero, .zero, .zero, .zero] ∧
      resolve (ofString "[rbp+3]") m' = .ok (.address 4 .zero) m' := by
  have hname : (initial .empty 2).Denotes (ofString "rbp") 1 :=
    ⟨by decide, .register .bp, rfl, rfl⟩
  have hres : resolve (ofString "[rbp+3]") (initial .empty 2) =
      .ok (.address 4 .zero) ((initial .empty 2).withMemory
        ((initial .empty 2).memory.grownTo 4)) :=
    resolve_bracketed_of_nonneg hname (.plus 3) rfl (by decide)
  obtain ⟨-, -, -, -, -, hagain⟩ := resolve_only_appends (ofString "[rbp+3]") (initial .empty 2)
  rw [hres] at hagain
  exact ⟨_, hres, rfl, hagain⟩

end Machine

end RegisterMachine

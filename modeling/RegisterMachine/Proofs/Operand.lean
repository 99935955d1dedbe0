import RegisterMachine.Operand
import RegisterMachine.Proofs.Memory

/-!
# What resolving and assigning do to the memory

Resolving a token leaves the memory as it is, unless the token is a bracketed address:
then the stack grows until the cell exists, and every cell keeps its value. Assigning
to an operand changes one register or one cell.
-/
namespace RegisterMachine

theorem Register.general?_isSome {k : Nat} :
    (Register.general? k).isSome ↔ k < Register.generalCount :=
  match k with
  | 0 | 1 | 2 | 3 | 4 | 5 => by decide
  | k + 6 => by simp [Register.general?, Register.generalCount]

namespace Operand

open Stateful

theorem bracketed?_cons_of_ne {first : UInt8} (h : first ≠ Text.byte '[') (rest : Text) :
    bracketed? (first :: rest) = none := by
  simp [bracketed?, h]

theorem bracketed?_of_isIdentifier {name : Text} (h : name.isIdentifier) :
    bracketed? name = none := by
  cases name with
  | nil => rfl
  | cons first rest =>
      apply bracketed?_cons_of_ne
      rintro rfl
      simp [Text.isIdentifier] at h
      exact absurd h.1 (by decide)

/-- The memory with a value assigned to an operand; a constant takes no value. -/
def stored : Operand → Value → Memory → Memory
  | .constant _, _, m => m
  | .register r, v, m => { m with registers := m.registers.set r v }
  | .address index _, v, m => m.written index v

/-- A token without brackets never denotes a stack cell. -/
theorem resolvePlain_ne_address {labels : NameTable} {token : Text} {index : Int64} {held : Value} :
    resolvePlain labels token ≠ .ok (.address index held) := by
  unfold resolvePlain
  intro h
  cases token with
  | nil => cases h
  | cons first rest =>
      dsimp only at h
      split at h
      · cases hr : register? rest with
        | error fault => rw [hr] at h; cases h
        | ok r => rw [hr] at h; cases h
      · repeat' split at h
        all_goals cases h

/-- A token without brackets that denotes a register spells its name, or its number. -/
theorem register?_of_resolvePlain {labels : NameTable} {token : Text} {r : Register}
    (h : resolvePlain labels token = .ok (.register r)) :
    ∃ rest, token = Text.byte 'r' :: rest ∧ register? rest = .ok r := by
  cases token with
  | nil => cases h
  | cons first rest =>
      rw [resolvePlain] at h
      split at h
      · rename_i hfirst
        cases hr : register? rest with
        | error fault => rw [hr] at h; cases h
        | ok found =>
            rw [hr] at h
            cases h
            exact ⟨rest, by rw [hfirst], hr⟩
      · repeat' split at h
        all_goals cases h

/-- A number denotes one of the general purpose registers, so the pointers have names only. -/
theorem name_of_register? {rest : Text} {r : Register} (h : register? rest = .ok r)
    (hr : r = .ip ∨ r = .sp ∨ r = .bp) : rest = r.name := by
  rw [register?] at h
  split at h
  · exfalso
    split at h
    · cases h
    · rename_i n _
      rw [Register.general] at h
      split at h
      · rename_i found hfound
        cases h
        split at hfound
        · cases hfound
        · unfold Register.general? at hfound
          split at hfound <;> cases hfound <;> simp at hr
      · cases h
  · split at h
    · rename_i found hfound
      cases h
      have hname := List.find?_some hfound
      exact (beq_iff_eq.1 hname).symm
    · cases h

theorem resolveAddress_apply (labels : NameTable) (inside : Text) (m : Memory) :
    resolveAddress labels inside m =
      match calculateAddress labels inside m.registers, m.registers.integer .bp with
      | .error fault, _ => .error fault m
      | .ok _, .error fault => .error fault m
      | .ok index, .ok _ =>
          if index < 0 then .error (.stackAddress index) m
          else .ok (.address index (m.cellAt index)) (m.grownTo index) := by
  rw [resolveAddress, getThe_bind_apply, bind_apply, Memory.ofExcept_apply]
  cases hc : calculateAddress labels inside m.registers with
  | error fault => rfl
  | ok index =>
      dsimp only
      rw [bind_apply, Memory.registerInteger_apply]
      cases hb : m.registers.integer .bp with
      | error fault => rfl
      | ok base =>
          dsimp only
          rw [bind_apply, Memory.readIndexed_apply index base m hb]
          by_cases hneg : index < 0
          · simp only [if_pos hneg]
          · simp only [if_neg hneg, pure_apply]

theorem resolve_of_plain {labels : NameTable} {token : Text} (h : bracketed? token = none)
    (m : Memory) :
    resolve labels token m = match resolvePlain labels token with
      | .ok operand => .ok operand m
      | .error fault => .error fault m := by
  rw [resolve, h]
  dsimp only
  rw [Memory.ofExcept_apply]
  cases resolvePlain labels token <;> rfl

theorem resolve_of_bracketed {labels : NameTable} {token inside : Text}
    (h : bracketed? token = some inside) (m : Memory) :
    resolve labels token m = resolveAddress labels inside m := by
  rw [resolve, h]

/-- A token of digits is never taken for anything but a numeral. -/
theorem resolve_of_isDigits {token : Text} (h : token.isDigits) (labels : NameTable) (m : Memory) :
    resolve labels token m = match numeral? token with
      | some n => .ok (.constant (.integer n)) m
      | none => .error (.parseNumber token) m := by
  cases token with
  | nil => cases h
  | cons first rest =>
      have hfirst : Text.isDigit first := by
        simp only [Text.isDigits, List.all_cons, Bool.and_eq_true] at h
        exact h.2.1
      have hr : first ≠ Text.byte 'r' := by
        rintro rfl
        exact absurd hfirst (by decide)
      have hb : first ≠ Text.byte '[' := by
        rintro rfl
        exact absurd hfirst (by decide)
      rw [resolve_of_plain (bracketed?_cons_of_ne hb rest), resolvePlain, if_neg hr, if_pos h]
      cases numeral? (first :: rest) <;> rfl

/-- A token that resolves is read off registers and labels, or it is an address: then the stack
grows to hold the cell, and the operand carries the value found there. -/
theorem resolve_eq_ok {labels : NameTable} {token : Text} {operand : Operand} {m m' : Memory}
    (h : resolve labels token m = .ok operand m') :
    (resolvePlain labels token = .ok operand ∧ m' = m) ∨
      ∃ index base, m.registers.integer .bp = .ok base ∧ ¬ index < 0 ∧
        operand = .address index (m.cellAt index) ∧ m' = m.grownTo index := by
  cases hb : bracketed? token with
  | none =>
      rw [resolve_of_plain hb] at h
      cases hp : resolvePlain labels token with
      | error fault => rw [hp] at h; cases h
      | ok found =>
          rw [hp] at h
          cases h
          exact .inl ⟨rfl, rfl⟩
  | some inside =>
      rw [resolve_of_bracketed hb, resolveAddress_apply] at h
      cases hc : calculateAddress labels inside m.registers with
      | error fault => rw [hc] at h; cases h
      | ok index =>
          cases hbase : m.registers.integer .bp with
          | error fault => rw [hc, hbase] at h; cases h
          | ok base =>
              rw [hc, hbase] at h
              dsimp only at h
              by_cases hneg : index < 0
              · rw [if_pos hneg] at h; cases h
              · rw [if_neg hneg] at h
                cases h
                exact .inr ⟨index, base, rfl, hneg, rfl, rfl⟩

/-- The instruction pointer and the two stack pointers are denoted by one token each. -/
theorem token_of_resolve {labels : NameTable} {token : Text} {r : Register} {m m' : Memory}
    (h : resolve labels token m = .ok (.register r) m') (hr : r = .ip ∨ r = .sp ∨ r = .bp) :
    token = Text.byte 'r' :: r.name := by
  obtain ⟨hplain, -⟩ | ⟨index, base, -, -, he, -⟩ := resolve_eq_ok h
  · obtain ⟨rest, rfl, hrest⟩ := register?_of_resolvePlain hplain
    rw [name_of_register? hrest hr]
  · cases he

/-- Registers and logical size stay, and so does every cell. -/
structure Kept (m m' : Memory) : Prop where
  registers : m'.registers = m.registers
  size : m'.size = m.size
  cells : ∀ k < m.cells.size, m'.cells[k]? = m.cells[k]?
  length : m.cells.size ≤ m'.cells.size

namespace Kept

theorem refl (m : Memory) : Kept m m := ⟨rfl, rfl, fun _ _ => rfl, Nat.le_refl _⟩

theorem trans {m m' m'' : Memory} (h : Kept m m') (h' : Kept m' m'') : Kept m m'' where
  registers := h'.registers.trans h.registers
  size := h'.size.trans h.size
  cells := fun k hk => (h'.cells k (Nat.lt_of_lt_of_le hk h.length)).trans (h.cells k hk)
  length := Nat.le_trans h.length h'.length

theorem grownTo (m : Memory) (index : Int64) : Kept m (m.grownTo index) where
  registers := rfl
  size := rfl
  cells := fun _ hk => Memory.getElem?_grown_of_lt hk _
  length := by rw [Memory.grownTo, Memory.size_grown]; omega

end Kept

theorem resolve_kept {labels : NameTable} {token : Text} {operand : Operand} {m m' : Memory}
    (h : resolve labels token m = .ok operand m') : Kept m m' := by
  obtain ⟨-, rfl⟩ | ⟨index, -, -, -, -, rfl⟩ := resolve_eq_ok h
  · exact .refl _
  · exact .grownTo _ _

/-- The cell of a resolved address exists. -/
theorem lt_size_of_resolve {labels : NameTable} {token : Text} {index : Int64} {held : Value}
    {m m' : Memory} (h : resolve labels token m = .ok (.address index held) m') :
    ¬ index < 0 ∧ index.toNatClampNeg < m'.cells.size := by
  obtain ⟨hp, -⟩ | ⟨found, -, -, hneg, he, rfl⟩ := resolve_eq_ok h
  · exact absurd hp resolvePlain_ne_address
  · cases he
    refine ⟨hneg, ?_⟩
    rw [Memory.grownTo, Memory.size_grown]
    omega

theorem set_address_apply (index : Int64) (held v : Value) (m : Memory) :
    set (.address index held) v m = match m.registers.integer .bp with
      | .error fault => .error fault m
      | .ok _ =>
          if index < 0 then .error (.stackAddress index) m
          else .ok (.address index v) (m.written index v) := by
  rw [set, bind_apply, Memory.registerInteger_apply]
  cases hb : m.registers.integer .bp with
  | error fault => rfl
  | ok base =>
      dsimp only
      rw [bind_apply, Memory.writeIndexed_apply index base v m hb]
      by_cases hneg : index < 0
      · simp only [if_pos hneg]
      · simp only [if_neg hneg, pure_apply]

/-- An assignment that succeeds stores the value, and not in a constant. -/
theorem set_eq_ok {operand after : Operand} {v : Value} {m m' : Memory}
    (h : operand.set v m = .ok after m') :
    m' = operand.stored v m ∧ (∀ c, operand ≠ .constant c) ∧
      ∀ index held, operand = .address index held → ¬ index < 0 := by
  cases operand with
  | constant c => cases h
  | register r =>
      cases h
      exact ⟨rfl, nofun, nofun⟩
  | address index held =>
      rw [set_address_apply] at h
      split at h
      · cases h
      · split at h <;> cases h
        rename_i hneg
        exact ⟨rfl, nofun, by rintro _ _ ⟨⟩; exact hneg⟩

/-- An assignment that fails leaves the memory as it is. -/
theorem set_eq_error {operand : Operand} {v : Value} {fault : Fault} {m m' : Memory}
    (h : operand.set v m = .error fault m') : m' = m := by
  cases operand with
  | constant c =>
      cases h
      rfl
  | register r => cases h
  | address index held =>
      rw [set_address_apply] at h
      split at h
      · cases h
        rfl
      · split at h <;> cases h
        rfl

/-- An assignment to an outdated operand is one to the stack that was given up, whatever cells it
has. -/
theorem setOutdated_apply (operand : Operand) (v : Value) (m old : Memory) :
    operand.setOutdated v m =
      match operand.set v { m with cells := old.cells, size := old.size } with
      | .ok after other => .ok after { other with cells := m.cells, size := m.size }
      | .error fault other => .error fault { other with cells := m.cells, size := m.size } := by
  cases operand with
  | constant c => rfl
  | register r => rfl
  | address index held =>
      rw [setOutdated, set_address_apply, set_address_apply]
      dsimp only
      cases m.registers.integer .bp with
      | error fault => rfl
      | ok base =>
          by_cases hneg : index < 0
          · simp only [if_pos hneg]
          · simp only [if_neg hneg, Memory.written]

/-- Through a kept operand only the stack is written on which it was resolved. -/
theorem Reference.stack_of_outdated {reference : Reference} {generation : Nat}
    (h : reference.generation ≠ generation) (v : Value) (m : Memory) :
    (endState (reference.set generation v m)).cells = m.cells ∧
      (endState (reference.set generation v m)).size = m.size := by
  rw [Reference.set, if_neg h, bind_apply, setOutdated_apply _ v m m]
  cases reference.operand.set v m <;> exact ⟨rfl, rfl⟩

/-- An assignment changes no cell other than its own. -/
theorem getElem?_stored {operand : Operand} {k : Nat} {m : Memory} (v : Value)
    (hk : k < m.cells.size)
    (hother : ∀ index held, operand = .address index held → index.toNatClampNeg ≠ k) :
    (operand.stored v m).cells[k]? = m.cells[k]? := by
  cases operand with
  | constant c => rfl
  | register r => rfl
  | address index held =>
      simp only [stored, Memory.written]
      rw [Array.getElem?_setIfInBounds_ne (hother index held rfl), Memory.getElem?_grown_of_lt hk]

/-- An assignment to a cell below a position does not grow the stack beyond it. -/
theorem size_stored_le {operand : Operand} {k : Nat} {m : Memory} (v : Value)
    (hk : m.cells.size ≤ k)
    (hbelow : ∀ index held, operand = .address index held → index.toNatClampNeg < k) :
    (operand.stored v m).cells.size ≤ k := by
  cases operand with
  | constant c => exact hk
  | register r => exact hk
  | address index held =>
      have := hbelow index held rfl
      simp only [stored, Memory.written, Array.size_setIfInBounds, Memory.size_grown]
      omega

end Operand

end RegisterMachine

import RegisterMachine.Proofs.Growth
import RegisterMachine.Proofs.Text.Decimal
import RegisterMachine.Proofs.Text.Words

/-!
# Bracketed operands denote physical cells

A bracketed operand is resolved to a physical index. Each access goes from the base pointer to an
offset from it and back, so the base has to hold an integer, but which one makes no difference: not
to the cell that is read, nor to the cell that is written later, with another base.
-/
namespace RegisterMachine

open Stateful
open Text (byte ofString)

/-- What may follow the name in a bracketed operand: nothing, or a sign and one digit. -/
inductive Displacement where
  | none
  | plus (d : Fin 10)
  | minus (d : Fin 10)

namespace Displacement

def text : Displacement → Text
  | none => []
  | plus d => [byte '+', Text.digit d]
  | minus d => [byte '-', Text.digit d]

/-- The address at a displacement from another one, in the arithmetic of words. -/
def apply : Displacement → Int64 → Int64
  | none, a => a
  | plus d, a => a + Int64.ofNat d
  | minus d, a => a - Int64.ofNat d

def offset : Displacement → Int64
  | none => 0
  | plus d => Int64.ofNat d
  | minus d => -Int64.ofNat d

theorem add_offset (displacement : Displacement) (a : Int64) :
    a + displacement.offset = displacement.apply a := by
  cases displacement with
  | none => exact Int64.add_zero a
  | plus d => rfl
  | minus d => exact (Int64.sub_eq_add_neg a _).symm

end Displacement

namespace Operand

def bracketed (name : Text) (displacement : Displacement) : Text :=
  byte '[' :: (name ++ displacement.text ++ [byte ']'])

theorem bracketed?_bracketed (name : Text) (displacement : Displacement) :
    bracketed? (bracketed name displacement) = some (name ++ displacement.text) := by
  simp [bracketed?, bracketed]

section

variable {name : Text} (hname : name.isIdentifier)

include hname

/-- A name ends where its displacement begins. -/
theorem takeWhile_displaced (displacement : Displacement) :
    (name ++ displacement.text).takeWhile Text.isWordPart = name ∧
      (name ++ displacement.text).dropWhile Text.isWordPart = displacement.text := by
  have hword : ∀ b ∈ name, Text.isWordPart b := fun b hb => Text.isWordPart_of_mem hname hb
  have hplus : Text.isWordPart (byte '+') = false := by decide
  have hminus : Text.isWordPart (byte '-') = false := by decide
  rw [List.takeWhile_append_of_pos hword, List.dropWhile_append_of_pos hword]
  cases displacement with
  | none => simp [Displacement.text]
  | plus d => simp [Displacement.text, hplus]
  | minus d => simp [Displacement.text, hminus]

theorem parse?_displaced (displacement : Displacement) :
    AddressForm.parse? (name ++ displacement.text) = some ⟨name, displacement.offset⟩ := by
  obtain ⟨htake, hdrop⟩ := takeWhile_displaced hname displacement
  have hdigit (d : Fin 10) : (Text.digit d).toNat - 48 = d := by
    rw [Text.toNat_digit]
    omega
  have hsigns : byte '-' ≠ byte '+' := by decide
  unfold AddressForm.parse?
  rw [htake, hdrop]
  cases displacement with
  | none => simp [hname, Displacement.text, Displacement.offset]
  | plus d => simp [hname, Displacement.text, Displacement.offset, hdigit d]
  | minus d => simp [hname, Displacement.text, Displacement.offset, hdigit d, hsigns]

end

theorem all_isWordPart_of_register? {rest : Text} {r : Register} (h : register? rest = .ok r) :
    rest.all Text.isWordPart := by
  rw [register?] at h
  by_cases hdigits : rest.isDigits
  · simp only [Text.isDigits, Bool.and_eq_true, List.all_eq_true] at hdigits ⊢
    intro b hb
    simp [Text.isWordPart, hdigits.2 b hb]
  · rw [if_neg hdigits] at h
    cases hfound : Register.ofName? rest with
    | none => rw [hfound] at h; cases h
    | some found =>
        obtain rfl : found.name = rest := by simpa using List.find?_some hfound
        cases found <;> decide

/-- The token of a register is an identifier. -/
theorem isIdentifier_of_register {labels : NameTable} {token : Text} {r : Register}
    (h : resolvePlain labels token = .ok (.register r)) : token.isIdentifier := by
  obtain ⟨rest, rfl, hrest⟩ := register?_of_resolvePlain h
  have hstart : Text.isWordStart (byte 'r') := by decide
  rw [Text.isIdentifier, hstart, all_isWordPart_of_register? hrest]
  rfl

section

variable {labels : NameTable} {name : Text} {operand : Operand} {a : Int64}

/-- The inside of a bracketed operand denotes the integer of its name, displaced. -/
theorem calculateAddress_displaced {file : RegisterFile} (hname : name.isIdentifier)
    (hplain : resolvePlain labels name = .ok operand) (hget : operand.get file = .integer a)
    (displacement : Displacement) :
    calculateAddress labels (name ++ displacement.text) file = .ok (displacement.apply a) := by
  rw [calculateAddress, parse?_displaced hname]
  simp only [hplain, bind, Except.bind, hget, Value.toInteger]
  rw [displacement.add_offset]
  rfl

theorem resolve_bracketed {m : Memory} (hname : name.isIdentifier)
    (hplain : resolvePlain labels name = .ok operand)
    (hget : operand.get m.registers = .integer a) (displacement : Displacement) :
    resolve labels (bracketed name displacement) m =
      match m.registers.integer .bp with
      | .error fault => .error fault m
      | .ok _ =>
          if displacement.apply a < 0 then .error (.stackAddress (displacement.apply a)) m
          else .ok (.address (displacement.apply a) (m.cellAt (displacement.apply a)))
            (m.grownTo (displacement.apply a)) := by
  rw [resolve_of_bracketed (bracketed?_bracketed name displacement), resolveAddress_apply,
    calculateAddress_displaced hname hplain hget]
  cases m.registers.integer .bp <;> rfl

end

end Operand

namespace Memory

/-- A value was assigned to the cell at an index and to no other one. Cells that had to be created
to reach it hold zero; registers and logical size are the same. -/
structure CellSet (index : Int64) (v : Value) (m m' : Memory) : Prop where
  registers : m'.registers = m.registers
  size : m'.size = m.size
  length : m'.cells.size = max m.cells.size (index.toNatClampNeg + 1)
  cell : m'.cells[index.toNatClampNeg]? = some v
  others : ∀ k < m.cells.size, k ≠ index.toNatClampNeg → m'.cells[k]? = m.cells[k]?
  created : ∀ k, m.cells.size ≤ k → k < index.toNatClampNeg → m'.cells[k]? = some .zero

theorem cellSet_written (m : Memory) (index : Int64) (v : Value) :
    CellSet index v m (m.written index v) where
  registers := rfl
  size := rfl
  length := by simp [written]
  cell := by
    rw [written, Array.getElem?_setIfInBounds_self_of_lt]
    rw [size_grown]
    omega
  others k hk hne := by
    rw [written, Array.getElem?_setIfInBounds_ne hne.symm, getElem?_grown_of_lt hk]
  created k hk hlt := by
    rw [written, Array.getElem?_setIfInBounds_ne (by omega), getElem?_grown, if_neg (by omega),
      if_pos (by omega)]

end Memory

/-- Whatever has become of the memory, as long as the base holds an integer, assigning to a cell by
its address sets that cell. -/
theorem Operand.set_address {index base : Int64} (hindex : 0 ≤ index) {m : Memory}
    (hbase : m.registers.bp = .integer base) (held v : Value) :
    ∃ after m', (Operand.address index held).set v m = .ok after m' ∧
      (∀ file, after.get file = v) ∧ m.CellSet index v m' := by
  have hok : m.registers.integer .bp = .ok base := RegisterFile.integer_eq_ok.2 hbase
  refine ⟨.address index v, m.written index v, ?_, fun _ => rfl, m.cellSet_written index v⟩
  rw [set_address_apply, hok]
  exact if_neg (Int64.not_lt.2 hindex)

namespace Machine

/-- The name is an identifier that resolves to an integer, as a register or as a label. -/
def Denotes (m : Machine) (name : Text) (a : Int64) : Prop :=
  name.isIdentifier ∧
    ∃ operand, resolve name m = .ok operand m ∧ operand.get m.memory.registers = .integer a

theorem resolvePlain_of_resolve {name : Text} (hname : name.isIdentifier) {operand : Operand}
    {m m' : Machine} (h : resolve name m = .ok operand m') :
    Operand.resolvePlain m.labels name = .ok operand := by
  obtain ⟨memory, hres, -⟩ := resolve_eq_ok.1 h
  rw [Operand.resolve_of_plain (Operand.bracketed?_of_isIdentifier hname)] at hres
  cases hplain : Operand.resolvePlain m.labels name with
  | error fault => rw [hplain] at hres; cases hres
  | ok found => rw [hplain] at hres; cases hres; rfl

/-- A token that denotes a register does so in any machine with the same labels. -/
theorem plain_of_resolve_register {token : Text} {r : Register} {m m' : Machine}
    (h : resolve token m = .ok (.register r) m') :
    m' = m ∧ Operand.resolvePlain m.labels token = .ok (.register r) := by
  obtain ⟨memory, hres, rfl⟩ := resolve_eq_ok.1 h
  obtain ⟨hplain, rfl⟩ | ⟨index, base, -, -, he, -⟩ := Operand.resolve_eq_ok hres
  · exact ⟨rfl, hplain⟩
  · cases he

theorem resolve_apply (token : Text) (m : Machine) :
    resolve token m = onMemory (Operand.resolve m.labels token) m := rfl

section

variable {m : Machine} {name : Text} {a : Int64} (hname : m.Denotes name a)
  (displacement : Displacement)

include hname

/-- What a bracketed operand does to the machine in all cases. -/
theorem resolve_bracketed :
    resolve (Operand.bracketed name displacement) m =
      match m.memory.registers.integer .bp with
      | .error fault => .error fault m
      | .ok _ =>
          if displacement.apply a < 0 then .error (.stackAddress (displacement.apply a)) m
          else .ok (.address (displacement.apply a) (m.memory.cellAt (displacement.apply a)))
            (m.withMemory (m.memory.grownTo (displacement.apply a))) := by
  obtain ⟨hident, operand, hres, hget⟩ := hname
  have hplain := resolvePlain_of_resolve hident hres
  rw [resolve_apply, onMemory_apply, Operand.resolve_bracketed hident hplain hget]
  cases m.memory.registers.integer .bp with
  | error fault => rfl
  | ok base =>
      dsimp only
      by_cases hneg : displacement.apply a < 0
      · simp only [if_pos hneg, withMemory_self]
      · simp only [if_neg hneg]

theorem resolve_bracketed_of_text {t : Text} (hbp : m.memory.registers.bp = .text t) :
    resolve (Operand.bracketed name displacement) m = .error (.registerKind .bp) m := by
  rw [resolve_bracketed hname, RegisterFile.integer, RegisterFile.get, hbp]

theorem resolve_bracketed_of_neg {base : Int64} (hbp : m.memory.registers.bp = .integer base)
    (hneg : displacement.apply a < 0) :
    resolve (Operand.bracketed name displacement) m =
      .error (.stackAddress (displacement.apply a)) m := by
  have hbase : m.memory.registers.integer .bp = .ok base := RegisterFile.integer_eq_ok.2 hbp
  rw [resolve_bracketed hname, hbase]
  exact if_pos hneg

theorem resolve_bracketed_of_nonneg {base : Int64} (hbp : m.memory.registers.bp = .integer base)
    (hindex : 0 ≤ displacement.apply a) :
    resolve (Operand.bracketed name displacement) m =
      .ok (.address (displacement.apply a) (m.memory.cellAt (displacement.apply a)))
        (m.withMemory (m.memory.grownTo (displacement.apply a))) := by
  have hbase : m.memory.registers.integer .bp = .ok base := RegisterFile.integer_eq_ok.2 hbp
  rw [resolve_bracketed hname, hbase]
  exact if_neg (Int64.not_lt.2 hindex)

end

/-- A register that holds the address of a cell denotes the cell between brackets. -/
theorem resolve_bracketed_register {m : Machine} {target : Text} {r : Register} {index base : Int64}
    (htarget : Operand.resolvePlain m.labels target = .ok (.register r))
    (hr : m.memory.registers.get r = .integer index)
    (hbp : m.memory.registers.bp = .integer base) (hindex : 0 ≤ index) :
    resolve (Operand.bracketed target .none) m =
      .ok (.address index (m.memory.cellAt index)) (m.withMemory (m.memory.grownTo index)) := by
  have hident := Operand.isIdentifier_of_register htarget
  have hdenotes : m.Denotes target index := by
    refine ⟨hident, .register r, ?_, hr⟩
    rw [resolve_apply, onMemory_apply,
      Operand.resolve_of_plain (Operand.bracketed?_of_isIdentifier hident), htarget]
    rfl
  exact resolve_bracketed_of_nonneg hdenotes .none hbp hindex

/-- Taking the address of a cell stores its index. -/
theorem perform_lea {m m' : Machine} {target token : Text} {r : Register} {index : Int64}
    {held : Value} (htarget : resolve target m = .ok (.register r) m)
    (hcell : resolve token m = .ok (.address index held) m') :
    perform (.lea target token) m = .ok ⟨⟩ (m'.withMemory
      { m'.memory with registers := m'.memory.registers.set r (.integer index) }) := by
  rw [perform, bind_of_ok htarget, bind_of_ok hcell]
  rfl

/-- After that the register between brackets denotes the same cell, also when the instruction
pointer has moved on. -/
theorem resolve_bracketed_after_lea {m later : Machine} {target : Text} {r : Register}
    {index base ip : Int64} (htarget : Operand.resolvePlain m.labels target = .ok (.register r))
    (hr : r ≠ .ip) (hbp : m.memory.registers.bp = .integer base) (hindex : 0 ≤ index)
    (hlabels : later.labels = m.labels)
    (hregisters : later.memory.registers =
      (m.memory.registers.set r (.integer index)).set .ip (.integer ip))
    (hcells : later.memory.cells = (m.memory.grownTo index).cells) :
    resolve (Operand.bracketed target .none) later =
      .ok (.address index (m.memory.cellAt index)) later := by
  have hheld : later.memory.registers.get r = .integer index := by
    rw [hregisters, RegisterFile.get_set_of_ne _ _ hr, RegisterFile.get_set_self]
  have hbase : ∃ base', later.memory.registers.get .bp = .integer base' := by
    rw [hregisters, RegisterFile.get_set_of_ne _ _ (by decide)]
    by_cases hpointer : r = .bp
    · subst hpointer
      exact ⟨index, RegisterFile.get_set_self _ _ _⟩
    · rw [RegisterFile.get_set_of_ne _ _ (Ne.symm hpointer)]
      exact ⟨base, hbp⟩
  obtain ⟨base', hbase⟩ := hbase
  have hcell : later.memory.cellAt index = m.memory.cellAt index := by
    rw [Memory.cellAt, hcells]
    exact Memory.getD_grown _ _
  have hgrown : later.memory.grownTo index = later.memory := by
    have hlong : index.toNatClampNeg + 1 - later.memory.cells.size = 0 := by
      rw [hcells, Memory.grownTo, Memory.size_grown]
      omega
    rw [Memory.grownTo_eq, hlong, Memory.lengthened_zero]
  rw [← hlabels] at htarget
  rw [resolve_bracketed_register htarget hheld hbase hindex, hcell, hgrown, withMemory_self]

/-- A bracketed operand denotes the physical cell at the index of its name, displaced, whatever the
base pointer holds, as long as that is an integer. An index below zero is refused, and so is a base
that is a text; both leave the machine as it is. Otherwise the operand carries the value of the
cell, zero where the stack has to grow for it. Assigning to it later sets that cell and no other
one, in any memory with an integer in the base pointer. Once its address is taken into a register,
that register between brackets denotes the same cell. -/
theorem bracketed_operand_denotes_cell {m : Machine} {name : Text} {a : Int64}
    (hname : m.Denotes name a) (displacement : Displacement) :
    let index := displacement.apply a
    let token := Operand.bracketed name displacement
    (∀ t, m.memory.registers.bp = .text t → resolve token m = .error (.registerKind .bp) m) ∧
    ∀ base, m.memory.registers.bp = .integer base →
      (index < 0 → resolve token m = .error (.stackAddress index) m) ∧
      (0 ≤ index →
        resolve token m = .ok (.address index (m.memory.cellAt index))
          (m.withMemory (m.memory.grownTo index)) ∧
        (∀ (later : Memory) (base' : Int64) (v : Value), later.registers.bp = .integer base' →
          ∃ after memory,
            (Operand.address index (m.memory.cellAt index)).set v later = .ok after memory ∧
            (∀ file, after.get file = v) ∧ later.CellSet index v memory) ∧
        ∀ (target : Text) (r : Register), resolve target m = .ok (.register r) m → r ≠ .ip →
          ∃ m', perform (.lea target token) m = .ok ⟨⟩ m' ∧
            ∀ (later : Machine) (ip : Int64), later.labels = m'.labels →
              later.memory = (m'.atIp ip).memory →
              resolve (Operand.bracketed target .none) later =
                .ok (.address index (m.memory.cellAt index)) later) := by
  intro index token
  refine ⟨fun t => resolve_bracketed_of_text hname displacement, fun base hbp => ⟨?_, ?_⟩⟩
  · exact resolve_bracketed_of_neg hname displacement hbp
  · intro hindex
    have hresolved := resolve_bracketed_of_nonneg hname displacement hbp hindex
    refine ⟨hresolved, fun later base' v hbase => ?_, fun target r htarget hr => ?_⟩
    · exact Operand.set_address hindex hbase _ v
    · refine ⟨_, perform_lea htarget hresolved, fun later ip hlabels hmemory => ?_⟩
      obtain ⟨-, hplain⟩ := plain_of_resolve_register htarget
      have hregisters : later.memory.registers =
          (m.memory.registers.set r (.integer index)).set .ip (.integer ip) := by
        rw [hmemory]
        rfl
      have hcells : later.memory.cells = (m.memory.grownTo index).cells := by
        rw [hmemory]
        rfl
      exact resolve_bracketed_after_lea hplain hr hbp hindex hlabels hregisters hcells

def farBased : Machine :=
  let m := initial .empty 5
  m.withMemory { m.memory with
    registers := { m.memory.registers with bp := .integer Int64.minValue, ax := .integer 5 } }

theorem bracketed_operand_denotes_cell_farBased :
    (7 : Int64).toInt - Int64.minValue.toInt ≠ ((7 : Int64) - Int64.minValue).toInt ∧
      resolve (ofString "[rax+2]") farBased =
        .ok (.address 7 .zero) (farBased.withMemory (farBased.memory.grownTo 7)) ∧
      (∃ after memory, (Operand.address 7 .zero).set (.integer 1) (Memory.initial 3) =
          .ok after memory ∧ (Memory.initial 3).CellSet 7 (.integer 1) memory) ∧
      ∃ m', perform (.lea (ofString "rbp") (ofString "[rax+2]")) farBased = .ok ⟨⟩ m' ∧
        resolve (ofString "[rbp]") (m'.atIp 3) = .ok (.address 7 .zero) (m'.atIp 3) := by
  have hname : farBased.Denotes (ofString "rax") 5 := ⟨by decide, .register .ax, rfl, rfl⟩
  obtain ⟨-, hinteger⟩ := bracketed_operand_denotes_cell hname (.plus 2)
  obtain ⟨-, hcell⟩ := hinteger Int64.minValue rfl
  obtain ⟨hresolved, hset, hlea⟩ := hcell (by decide)
  obtain ⟨after, memory, hok, -, hstored⟩ := hset (Memory.initial 3) 2 (.integer 1) rfl
  obtain ⟨m', hperform, hlater⟩ := hlea (ofString "rbp") .bp rfl (by decide)
  exact ⟨by decide, hresolved, ⟨after, memory, hok, hstored⟩, m', hperform, hlater _ 3 rfl rfl⟩

end Machine

end RegisterMachine

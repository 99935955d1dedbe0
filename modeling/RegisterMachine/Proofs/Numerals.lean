import Mathlib.Data.List.Induction
import Mathlib.Data.Nat.Digits.Defs
import RegisterMachine.Proofs.Assembler.Expressions
import RegisterMachine.Proofs.LabelTargets

/-!
# Numerals as operands

A token of digits denotes the number that it writes in base ten, with as many zeros in front as it
likes, and is refused if that number does not fit a machine word. A label of that name does not
count. Behind an `r` the same digits number a general purpose register. The text that is made of an
integer that is not negative is such a token, so the integer comes back from it.
-/
namespace RegisterMachine

open Stateful
open Text (ofString byte)

namespace Text

/-- The values of the digits, the last one first. -/
def digitValues (t : Text) : List Nat := t.reverse.map fun b => b.toNat - 48

/-- The number that digits write in base ten: each digit counts as often as its place says. -/
def placeValue (t : Text) : Nat := Nat.ofDigits 10 t.digitValues

theorem digitValues_concat (t : Text) (b : UInt8) :
    digitValues (t ++ [b]) = (b.toNat - 48) :: digitValues t := by
  simp [digitValues]

/-- Reading digit by digit from the left gives the value by places. -/
theorem digitsValue_eq_placeValue (t : Text) : digitsValue t = t.placeValue := by
  induction t using List.reverseRecOn with
  | nil => rfl
  | append_singleton t b ih =>
      rw [digitsValue_concat, ih, placeValue, placeValue, digitValues_concat, Nat.ofDigits_cons]
      omega

end Text

namespace Operand

/-- The operand stands for the register itself: it has the value that the register has at the
time, and what is assigned to it is assigned to the register. -/
structure RefersTo (operand : Operand) (r : Register) : Prop where
  get : ∀ file, operand.get file = file.get r
  set : ∀ (v : Value) (m : Memory),
    operand.set v m = .ok operand { m with registers := m.registers.set r v }

theorem refersTo_register (r : Register) : (register r).RefersTo r := ⟨fun _ => rfl, fun _ _ => rfl⟩

theorem general?_of_le {n : Nat} (h : n ≤ 5) : ∃ r, Register.general? n = some r := by
  rw [← Option.isSome_iff_exists, Register.general?_isSome, Register.generalCount]
  omega

/-- The constant that digits denote. -/
theorem resolve_digits {digits : Text} (h : digits.isDigits) (labels : NameTable) (m : Memory) :
    resolve labels digits m =
      if digits.placeValue < 2 ^ 63 then
        .ok (.constant (.integer (Int64.ofNat digits.placeValue))) m
      else .error (.parseNumber digits) m := by
  rw [resolve_of_isDigits h, numeral?, Text.digitsValue_eq_placeValue]
  by_cases hfits : digits.placeValue < 9223372036854775808 <;> simp [hfits]

end Operand

namespace Machine

variable {m mid last : Machine} {token a b : Text} {target source : Operand} {n : Int64}

theorem resolve_of_memory_ok (h : Operand.resolve m.labels token m.memory = .ok target m.memory) :
    resolve token m = .ok target m :=
  resolve_eq_ok.2 ⟨m.memory, h, rfl⟩

theorem resolve_of_memory_error {fault : Fault}
    (h : Operand.resolve m.labels token m.memory = .error fault m.memory) :
    resolve token m = .error fault m := by
  rw [resolve, get_bind_apply, onMemory_apply, h]
  rfl

/-- Making a text of a value assigns the decimal form if that value is an integer. -/
theorem perform_tostring_integer (ha : resolve a m = .ok target mid)
    (hb : resolve b mid = .ok source last)
    (hvalue : source.get last.memory.registers = .integer n) :
    perform (.tostring a b) m = assign target (.text (Text.ofInt64 n)) last := by
  rw [perform, bind_of_ok ha, bind_of_ok hb, valueOf_bind_apply, hvalue]
  rfl

/-- A token of digits denotes the integer that it writes in base ten, also if there is a label of
that name, and is refused if the integer does not fit a machine word. With an `r` in front it
denotes the general purpose register of that number, or is refused if there is none. Zeros in front
count for nothing, and the machine stays as it is. The text that is made of an integer that is not
negative denotes that integer in every state. -/
theorem numeral_denotes {d : Text} (h : d.isDigits) (m : Machine) :
    (d.placeValue < 2 ^ 63 → ∃ n : Int64, n.toInt = d.placeValue ∧
      resolve d m = .ok (.constant (.integer n)) m) ∧
    (2 ^ 63 ≤ d.placeValue → resolve d m = .error (.parseNumber d) m) ∧
    (d.placeValue ≤ 5 → ∃ r operand, Register.general? d.placeValue = some r ∧
      operand.RefersTo r ∧ resolve (byte 'r' :: d) m = .ok operand m) ∧
    (5 < d.placeValue → ∃ named, resolve (byte 'r' :: d) m = .error (.unknownRegister named) m ∧
      named = byte 'r' :: if d.placeValue < 2 ^ 63 then Text.decimal d.placeValue else d) ∧
    ∀ (a b : Text) (target source : Operand) (mid last : Machine) (n : Int64),
      resolve a m = .ok target mid → resolve b mid = .ok source last →
      source.get last.memory.registers = .integer n → 0 ≤ n →
        ∃ t, perform (.tostring a b) m = assign target (.text t) last ∧
          ∀ later : Machine, resolve t later = .ok (.constant (.integer n)) later := by
  have hdigits := Operand.resolve_digits h m.labels m.memory
  have hregister := Operand.resolve_cons_r d m.labels m.memory
  rw [Operand.register?_of_isDigits h, Text.digitsValue_eq_placeValue] at hregister
  refine ⟨?_, ?_, ?_, ?_, ?_⟩
  · intro hfits
    rw [if_pos hfits] at hdigits
    exact ⟨_, Int64.toInt_ofNat_of_lt hfits, resolve_of_memory_ok hdigits⟩
  · intro hlarge
    rw [if_neg (by omega)] at hdigits
    exact resolve_of_memory_error hdigits
  · intro hsmall
    obtain ⟨r, hr⟩ := Operand.general?_of_le hsmall
    rw [hr] at hregister
    exact ⟨r, .register r, hr, Operand.refersTo_register r, resolve_of_memory_ok hregister⟩
  · intro hlarge
    rw [Operand.general?_eq_none hlarge] at hregister
    exact ⟨_, resolve_of_memory_error hregister, rfl⟩
  · intro a b target source mid last n ha hb hvalue hn
    rw [Int64.le_iff_toInt_le, Int64.toInt_zero] at hn
    exact ⟨_, perform_tostring_integer ha hb hvalue,
      fun later => resolve_of_memory_ok (Operand.resolve_ofInt64 hn _ _)⟩

def numbered : Machine := { initial .empty 2 with labels := .ofPairs [(ofString "007", 3)] }

theorem numeral_denotes_padded :
    numbered.labels.find? (ofString "007") = some 3 ∧
    resolve (ofString "007") numbered = .ok (.constant (.integer 7)) numbered ∧
    resolve (ofString "009223372036854775808") numbered =
      .error (.parseNumber (ofString "009223372036854775808")) numbered ∧
    (∃ operand, operand.RefersTo .fx ∧
      resolve (byte 'r' :: ofString "005") numbered = .ok operand numbered) ∧
    resolve (byte 'r' :: ofString "007") numbered =
      .error (.unknownRegister (ofString "r7")) numbered ∧
    ∃ t, perform (.tostring (ofString "rbx") (ofString "007")) numbered =
        assign (.register .bx) (.text t) numbered ∧
      resolve t numbered = .ok (.constant (.integer 7)) numbered := by
  have hseven : (ofString "007").placeValue = 7 := by decide
  have hlarge : (ofString "009223372036854775808").placeValue = 2 ^ 63 := by decide
  have hfive : (ofString "005").placeValue = 5 := by decide
  obtain ⟨hconstant, -, -, hnone, htostring⟩ :=
    numeral_denotes (d := ofString "007") (by decide) numbered
  obtain ⟨-, hrefused, -⟩ :=
    numeral_denotes (d := ofString "009223372036854775808") (by decide) numbered
  obtain ⟨-, -, hsome, -⟩ := numeral_denotes (d := ofString "005") (by decide) numbered
  obtain ⟨n, hn, hresolve⟩ := hconstant (by rw [hseven]; decide)
  obtain rfl : n = 7 := Int64.toInt_inj.1 (by rw [hn, hseven]; rfl)
  obtain ⟨r, operand, hr, hrefers, hfx⟩ := hsome (by rw [hfive])
  obtain rfl : Register.fx = r := by simpa [hfive, Register.general?] using hr
  obtain ⟨named, hunknown, rfl⟩ := hnone (by rw [hseven]; decide)
  obtain ⟨t, hmade, hback⟩ := htostring (ofString "rbx") (ofString "007") (.register .bx) _ _ _ _
    rfl hresolve rfl (by decide)
  have hname : byte 'r' :: (if 7 < 2 ^ 63 then Text.decimal 7 else ofString "007") =
      ofString "r7" := by
    rw [if_pos (by decide), Text.decimal]
    decide
  rw [hseven, hname] at hunknown
  exact ⟨rfl, hresolve, hrefused (by rw [hlarge]), ⟨operand, hrefers, hfx⟩, hunknown,
    t, hmade, hback numbered⟩

end Machine

end RegisterMachine

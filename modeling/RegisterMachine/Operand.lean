import RegisterMachine.Memory
import RegisterMachine.NameTable

/-!
# Operands

An operand token denotes a constant, a register or a stack cell. The first form
that fits decides, from `r` and a number down to a label name. Resolving a
bracketed address may extend the stack; nothing else about the machine changes.
-/
namespace RegisterMachine

open Text (byte)

/-- A resolved operand. -/
inductive Operand where
  /-- An immediate integer, a quoted text or a label index. -/
  | constant (v : Value)
  /-- The register itself, so that its present value counts. -/
  | register (r : Register)
  /-- A physical stack index and the value found there on resolving. -/
  | address (index : Int64) (held : Value)
  deriving DecidableEq, Repr

namespace Operand

def get : Operand → RegisterFile → Value
  | .constant v, _ => v
  | .register r, file => file.get r
  | .address _ held, _ => held

/-- Assigns to an operand and gives the operand as it stands afterwards. -/
def set : Operand → Value → Memory.Action Operand
  | .constant _, _ => throw .operandReadOnly
  | .register r, v => do
      Memory.setRegister r v
      return .register r
  | .address index _, v => do
      let base ← Memory.registerInteger .bp
      Memory.writeIndexed (index - base) v
      return .address index v

/-- Assigns to an operand that was resolved on a stack that has been given up since. The value
goes to a cell of that stack, which nobody sees, so that it may as well be empty. -/
def setOutdated (operand : Operand) (v : Value) : Memory.Action Operand := fun m =>
  match operand.set v { m with cells := #[], size := 0 } with
  | .ok after other => .ok after { other with cells := m.cells, size := m.size }
  | .error fault other => .error fault { other with cells := m.cells, size := m.size }

/-- An operand that is kept beyond a reset, which makes a new stack, together with the generation
of the stack on which it was resolved. -/
structure Reference where
  operand : Operand
  generation : Nat
  deriving DecidableEq, Repr

/-- Assigns to a kept operand when the stack is of the given generation. -/
def Reference.set (reference : Reference) (generation : Nat) (v : Value) :
    Memory.Action Reference := do
  let after ← if reference.generation = generation then reference.operand.set v
    else reference.operand.setOutdated v
  return { reference with operand := after }

/-- The value of a numeral that fits a machine word. -/
def numeral? (digits : Text) : Option Int64 :=
  let n := Text.digitsValue digits
  if n < 9223372036854775808 then some (Int64.ofNat n) else none

/-- The inside of a text between two equal quotes of either sort. -/
def unquoted? : Text → Option Text
  | [] => none
  | first :: rest =>
      if (first = byte '"' ∨ first = byte '\'') ∧ rest.getLast? = some first then
        some rest.dropLast
      else none

/-- The inside of a text between square brackets. -/
def bracketed? : Text → Option Text
  | [] => none
  | first :: rest =>
      if first = byte '[' ∧ rest.getLast? = some (byte ']') then some rest.dropLast else none

/-- The register that a token starting with `r` names: general purpose register by number,
or any register by name. -/
def register? (afterR : Text) : Except Fault Register :=
  let token := byte 'r' :: afterR
  if afterR.isDigits then
    match numeral? afterR with
    | none => .error (.unknownRegister token)
    | some n => Register.general n
  else
    match Register.ofName? afterR with
    | some r => .ok r
    | none => .error (.unknownRegister token)

/-- The operand of a token that is not a bracketed address, read off registers and labels. -/
def resolvePlain (labels : NameTable) (token : Text) : Except Fault Operand :=
  match token with
  | [] => .error .operandMissing
  | first :: rest =>
      if first = byte 'r' then (register? rest).map .register
      else if token.isDigits then
        match numeral? token with
        | some n => .ok (.constant (.integer n))
        | none => .error (.parseNumber token)
      else match unquoted? token with
        | some inside => .ok (.constant (.text inside))
        | none =>
            match labels.find? token with
            | some index => .ok (.constant (.integer index))
            | none => .error (.unknownLabel token)

/-- A stack address as written between brackets: a name, and a signed digit if there is one. -/
structure AddressForm where
  name : Text
  offset : Int64
  deriving DecidableEq, Repr

/-- Reads an identifier, optionally followed by a sign and one digit. -/
def AddressForm.parse? (inside : Text) : Option AddressForm :=
  let name : Text := inside.takeWhile Text.isWordPart
  if !name.isIdentifier then none
  else match inside.dropWhile Text.isWordPart with
    | [] => some ⟨name, 0⟩
    | [sign, d] =>
        let n := Int64.ofNat (d.toNat - 48)
        if !Text.isDigit d then none
        else if sign = byte '+' then some ⟨name, n⟩
        else if sign = byte '-' then some ⟨name, -n⟩
        else none
    | _ => none

/-- The physical stack index that the inside of a bracketed operand denotes. -/
def calculateAddress (labels : NameTable) (inside : Text) (file : RegisterFile) :
    Except Fault Int64 := do
  match AddressForm.parse? inside with
  | none => throw (.addressExpression inside)
  | some form =>
      let operand ← resolvePlain labels form.name
      let n ← (operand.get file).toInteger
      return n + form.offset

/-- Resolves the inside of a bracketed operand; the stack grows to hold the cell. -/
def resolveAddress (labels : NameTable) (inside : Text) : Memory.Action Operand := do
  let index ← Memory.Action.ofExcept (calculateAddress labels inside (← getThe Memory).registers)
  let base ← Memory.registerInteger .bp
  let held ← Memory.readIndexed (index - base)
  return .address index held

/-- Resolves an operand token. The first form that fits decides: `r` with a register number
or name, digits, a bracketed address, a quoted text, a label. -/
def resolve (labels : NameTable) (token : Text) : Memory.Action Operand :=
  match bracketed? token with
  | some inside => resolveAddress labels inside
  | none => Memory.Action.ofExcept (resolvePlain labels token)

end Operand

end RegisterMachine

import RegisterMachine.Proofs.Strict.Primitive

/-!
# The machine on partial primitives

The same machine once more, written with the primitives that may be undefined. All
guards stand where the machine needs them: before an index is used, a token is cut, an
integer divides or a text is repeated. The resolver of operands calls itself for the
name inside brackets and is given a depth for that.
-/
namespace RegisterMachine.Strict

open Stateful
open Text (ofString byte)

/-- An action that may also be undefined. -/
abbrev Action (σ : Type) := EStateM (Trap Fault) σ

/-- An outcome as an action. -/
def ofExcept {σ α : Type} : Except Fault α → Action σ α
  | .ok a => pure a
  | .error fault => throw (.fault fault)

/-- Copies of a text. The length is compared with a quotient before the text is repeated. -/
def repeated {σ : Type} (t : Text) (count : Int64) : Action σ Value := do
  let count := if count < 0 then 0 else count
  let long ← if 0 < count then do
      let bound ← quotient Int64.maxValue count
      pure (decide (bound.toInt < t.length))
    else pure false
  if long then throw (.fault .textLength)
  else return .text (← repetition t count)

def mul {σ : Type} : Value → Value → Action σ Value
  | .integer a, .integer b => pure (.integer (a * b))
  | .text t, .integer n => repeated t n
  | .integer n, .text t => repeated t n
  | .text _, .text _ => throw (.fault .valueKind)

def floorDiv {σ : Type} : Value → Value → Action σ Value
  | .integer a, .integer b =>
      if b = 0 then throw (.fault .divisionByZero)
      else do
        let q ← quotient a b
        let r ← remainder a b
        pure (.integer (if r ≠ 0 ∧ (decide (a < 0) != decide (b < 0)) then q - 1 else q))
  | _, _ => throw (.fault .valueKind)

def pop : Action Memory Value := do
  if (← get).cells.size = 0 then throw (.fault .stackUnderflow)
  else
    let top ← total (Memory.registerInteger .sp)
    let cells := (← get).cells.toList
    let v ← element cells (cells.length - 1)
    let rest ← slice cells 0 (cells.length - 1)
    modify fun m => { m with cells := rest.toArray, size := m.size - 1 }
    total (Memory.setRegister .sp (.integer (top - 1)))
    return v

def readIndexed (offset : Int64) : Action Memory Value := do
  let address ← total (Memory.locate offset)
  element (← get).cells.toList address.toInt

def writeIndexed (offset : Int64) (v : Value) : Action Memory PUnit := do
  let address ← total (Memory.locate offset)
  let cells ← replaced (← get).cells.toList address.toInt v
  modify fun m => { m with cells := cells.toArray }

def assignTo : Operand → Value → Action Memory PUnit
  | .constant _, _ => throw (.fault .operandReadOnly)
  | .register r, v => total (Memory.setRegister r v)
  | .address index _, v => do
      let base ← total (Memory.registerInteger .bp)
      writeIndexed (index - base) v

/-- General purpose register `n`, found in the register file. -/
def general (n : Int64) : Action Memory Register :=
  if n < 0 ∨ (Register.generalCount : Int) ≤ n.toInt then
    throw (.fault (.unknownRegister (ofString "r" ++ Text.ofInt64 n)))
  else element Register.all (3 + n.toInt)

/-- The text stands between two equal quotes of either sort. -/
def isQuoted (t : Text) : Action Memory Bool := do
  if t.length < 2 then return false
  else
    let first ← element t 0
    if first = byte '"' ∨ first = byte '\'' then
      return (← element t (t.length - 1)) = first
    else return false

/-- The groups of an address expression: all of it, the name, the sign and the digit. The last two
are empty if there is no offset. -/
def addressGroups? (expression : Text) : Option (List Text) :=
  let name : Text := expression.takeWhile Text.isWordPart
  if !name.isIdentifier then none
  else match expression.dropWhile Text.isWordPart with
    | [] => some [expression, name, [], []]
    | [sign, d] =>
        if (sign = byte '+' ∨ sign = byte '-') ∧ Text.isDigit d then
          some [expression, name, [sign], [d]]
        else none
    | _ => none

/-- The physical stack index of an address expression; `resolver` resolves its name. -/
def calculateAddress (resolver : Text → Action Memory Operand) (expression : Text) :
    Action Memory Int64 :=
  match addressGroups? expression with
  | none => throw (.fault (.addressExpression expression))
  | some groups => do
      let operand ← resolver (← element groups 1)
      let address ← ofExcept (operand.get (← get).registers).toInteger
      let sign ← element groups 2
      if sign.length = 0 then return address
      else
        let d ← element (← element groups 3) 0
        let digit := Int64.ofNat (d - byte '0').toNat
        return address + (if sign = [byte '-'] then -digit else digit)

/-- Resolves the inside of a bracketed operand. -/
def resolveAddress (resolver : Text → Action Memory Operand) (expression : Text) :
    Action Memory Operand := do
  let address ← calculateAddress resolver expression
  let base ← total (Memory.registerInteger .bp)
  let held ← readIndexed (address - base)
  return .address address held

/-- Resolves an operand token with at most `depth` calls inside each other. -/
def resolve (labels : NameTable) : Nat → Text → Action Memory Operand
  | 0, _ => throw (.undefined .recursion)
  | depth + 1, token =>
      if token.length = 0 then throw (.fault .operandMissing)
      else do
        let first ← element token 0
        if first = byte 'r' then
          let name : Text ← slice token 1 token.length
          if name.isDigits then
            match Operand.numeral? name with
            | none => throw (.fault (.unknownRegister token))
            | some n => return .register (← general n)
          else
            match Register.ofName? name with
            | none => throw (.fault (.unknownRegister token))
            | some r => return .register r
        else if token.isDigits then
          match Operand.numeral? token with
          | none => throw (.fault (.parseNumber token))
          | some n => return .constant (.integer n)
        else if 2 ≤ token.length ∧ token.head? = some (byte '[')
            ∧ token.getLast? = some (byte ']') then
          resolveAddress (resolve labels depth) (← slice token 1 (token.length - 1))
        else if ← isQuoted token then
          return .constant (.text (← slice token 1 (token.length - 1)))
        else
          match labels.find? token with
          | none => throw (.fault (.unknownLabel token))
          | some index => return .constant (.integer index)

def onMemory {α : Type} (act : Action Memory α) : Action Machine α := fun m =>
  match act m.memory with
  | .ok a memory => .ok a { m with memory }
  | .error trap memory => .error trap { m with memory }

def located {α : Type} (layers : List Layer) (act : Action Machine α) :
    EStateM (Trap Failure) Machine α := fun m =>
  match act m with
  | .ok a m => .ok a m
  | .error (.fault fault) m => .error (.fault ⟨layers, fault⟩) m
  | .error (.undefined p) m => .error (.undefined p) m

/-- The depth that the resolver is given: one call for a token, one for the name inside it. -/
def resolveDepth : Nat := 2

def operands (tokens : List Text) : Action Machine (List Operand) :=
  tokens.mapM fun token => do onMemory (resolve (← get).labels resolveDepth token)

def valueOf (operand : Operand) : Action Machine Value := total (Machine.valueOf operand)

def integerOf (operand : Operand) : Action Machine Int64 := total (Machine.integerOf operand)

def assign (operand : Operand) (v : Value) : Action Machine PUnit := onMemory (assignTo operand v)

def delay (steps : Int64) : Action Machine PUnit := do
  if steps < 0 then throw (.fault (.pauseLength steps))
  else
    let m ← get
    if m.sleeper.isNone || m.speed ≤ 0 then return
    else
      let seconds ← quotient steps m.speed
      if Machine.longestPause / Machine.second < seconds then
        set (m.sleep Machine.longestPause)
      else
        let part ← remainder steps m.speed
        let rest ← quotient (part * Machine.second) m.speed
        set (m.sleep (seconds * Machine.second + rest))

def arithmetic (operands : List Operand) (op : Value → Value → Action Machine Value) :
    Action Machine PUnit := do
  let a ← valueOf (← element operands 0)
  let b ← valueOf (← element operands 1)
  let v ← op a b
  total (Machine.onMemory (Memory.setRegister .ax v))

def effect (operands : List Operand) : Opcode → Action Machine PUnit
  | .mov => do assign (← element operands 0) (← valueOf (← element operands 1))
  | .output => do total (Machine.put (← valueOf (← element operands 0)))
  | .tostring => do
      assign (← element operands 0) (.text (← valueOf (← element operands 1)).toText)
  | .add => arithmetic operands fun a b => ofExcept (a.add b)
  | .sub => arithmetic operands fun a b => ofExcept (a.sub b)
  | .mul => arithmetic operands mul
  | .div => arithmetic operands floorDiv
  | .halt => do delay (← integerOf (← element operands 0))
  | .exit => modify fun m => { m with running := false }
  | .input => do
      let a ← element operands 0
      assign a (.text (← total Machine.readLine))
  | .push => do
      let v ← valueOf (← element operands 0)
      total (Machine.onMemory (Memory.push v))
  | .pop => do
      let v ← onMemory pop
      assign (← element operands 0) v
  | .lea => do
      match ← element operands 1 with
      | .address index _ => assign (← element operands 0) (.integer index)
      | _ => throw (.fault .operandAddress)
  | .jmp => do total (Machine.setIp (← integerOf (← element operands 0)))
  | .call => do
      let target ← integerOf (← element operands 0)
      total (Machine.onMemory (Memory.push (← get).memory.registers.ip))
      total (Machine.setIp target)
  | .ret => do
      let v ← onMemory pop
      total (Machine.setIp (← integerOf (.constant v)))
  | .debug => do total (Machine.showState (← valueOf (← element operands 0)))
  | .alloc => do
      let offset ← integerOf (← element operands 0)
      let base ← total (Machine.onMemory (Memory.registerInteger .bp))
      total (Machine.onMemory (Memory.growTo (base + offset)))

def execute (ip : Int64) (inst : Instruction) : EStateM (Trap Failure) Machine PUnit := do
  modify (Machine.logging (Text.paddedDecimal 3 ip.toInt ++ ofString ": " ++ inst.disassemble))
  located [.instruction ip inst.disassemble] do
    effect (← operands inst.operands) inst.opcode

def reset : Action Machine PUnit := do
  modify (Machine.logging (ofString "cpu: reset"))
  let m ← get
  let cells ← allocation m.cells
  let last : Value := .integer (m.cells - 1)
  set { m with
    memory := ⟨(RegisterFile.zero.set .bp last).set .sp last, cells, m.cells.toInt⟩
    running := false
    ticks := 0 }

def tick : EStateM (Trap Failure) Machine PUnit := do
  let ip ← total (Machine.fetch.at [])
  let inst ← element (← get).code.toList ip.toInt
  total ((Machine.setIp (ip + 1)).at [])
  execute ip inst
  modify fun m => { m with ticks := m.ticks + 1 }
  located [] (delay 1)

/-- Ticks while the machine is running, at most `fuel` times, up to the first fault. -/
def run : Nat → Machine → Except Primitive (Machine.RunEnd × Machine)
  | 0, m => .ok (if m.running then .outOfFuel else .stopped, m)
  | fuel + 1, m =>
      if m.running then
        match tick m with
        | .ok _ m => run fuel m
        | .error (.fault failure) m => .ok (.failed failure, { m with running := false })
        | .error (.undefined p) _ => .error p
      else .ok (.stopped, m)

end RegisterMachine.Strict

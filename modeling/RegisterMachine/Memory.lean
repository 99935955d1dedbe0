import RegisterMachine.Value

/-!
# Registers and stack

The memory of the machine: the register file and a stack that grows at its
physical end. The base and top pointers of the stack live in the registers `bp`
and `sp`, where programs can overwrite them; indexed access is relative to `bp`,
while pushing and popping work at the physical end.
-/
namespace RegisterMachine

open Text (ofString)

/-- General purpose register `n`. -/
def Register.general (n : Int64) : Except Fault Register :=
  match if n < 0 then none else Register.general? n.toNatClampNeg with
  | some r => .ok r
  | none => .error (.unknownRegister (ofString "r" ++ Text.ofInt64 n))

/-- The values of the nine registers. -/
structure RegisterFile where
  ip : Value
  sp : Value
  bp : Value
  ax : Value
  bx : Value
  cx : Value
  dx : Value
  ex : Value
  fx : Value
  deriving DecidableEq, Repr

namespace RegisterFile

/-- All registers hold zero. -/
def zero : RegisterFile := ⟨.zero, .zero, .zero, .zero, .zero, .zero, .zero, .zero, .zero⟩

def get (file : RegisterFile) : Register → Value
  | .ip => file.ip
  | .sp => file.sp
  | .bp => file.bp
  | .ax => file.ax
  | .bx => file.bx
  | .cx => file.cx
  | .dx => file.dx
  | .ex => file.ex
  | .fx => file.fx

def set (file : RegisterFile) (r : Register) (v : Value) : RegisterFile :=
  match r with
  | .ip => { file with ip := v }
  | .sp => { file with sp := v }
  | .bp => { file with bp := v }
  | .ax => { file with ax := v }
  | .bx => { file with bx := v }
  | .cx => { file with cx := v }
  | .dx => { file with dx := v }
  | .ex => { file with ex := v }
  | .fx => { file with fx := v }

@[simp] theorem get_set_self (file : RegisterFile) (r : Register) (v : Value) :
    (file.set r v).get r = v := by
  cases r <;> rfl

theorem get_set_of_ne (file : RegisterFile) {r s : Register} (v : Value) (h : s ≠ r) :
    (file.set r v).get s = file.get s := by
  cases r <;> cases s <;> first | rfl | exact absurd rfl h

/-- The integer that a register holds. -/
def integer (file : RegisterFile) (r : Register) : Except Fault Int64 :=
  match file.get r with
  | .integer n => .ok n
  | .text _ => .error (.registerKind r)

/-- One line per register: its name, right-aligned, and its value. -/
def snapshot (file : RegisterFile) : Text :=
  Register.all.flatMap fun r =>
    Text.padLeft 5 32 r.name ++ ofString ": " ++ (file.get r).quote ++ [Text.newline]

end RegisterFile

/-- Registers and stack. -/
structure Memory where
  registers : RegisterFile
  /-- The cells of the stack, up to its physical end. -/
  cells : Array Value
  /-- The logical size: initial cells and pushes, less pops. The program keeps it in 64 bits,
  which it leaves only after some `2 ^ 63` pushes or pops in one run. -/
  size : Int
  deriving DecidableEq, Repr

namespace Memory

/-- Zeroed registers and `cells` zeroed stack cells, with base and top at the last one. -/
def initial (cells : Int64) : Memory where
  registers := { RegisterFile.zero with sp := .integer (cells - 1), bp := .integer (cells - 1) }
  cells := Array.replicate cells.toNatClampNeg .zero
  size := cells.toInt

/-- An action on the memory, which may fail after it has changed something. -/
abbrev Action := EStateM Fault Memory

/-- Turns an outcome into an action that changes nothing. -/
def Action.ofExcept {α : Type} : Except Fault α → Action α
  | .ok a => pure a
  | .error e => throw e

def setRegister (r : Register) (v : Value) : Action PUnit :=
  modify fun m => { m with registers := m.registers.set r v }

def registerInteger (r : Register) : Action Int64 := do
  Action.ofExcept ((← get).registers.integer r)

/-- Appends a value at the physical end. -/
def push (v : Value) : Action PUnit := do
  let top ← registerInteger .sp
  modify fun m => { m with cells := m.cells.push v, size := m.size + 1 }
  setRegister .sp (.integer (top + 1))

/-- Removes the value at the physical end. -/
def pop : Action Value := do
  match (← get).cells.back? with
  | none => throw .stackUnderflow
  | some v =>
      let top ← registerInteger .sp
      modify fun m => { m with cells := m.cells.pop, size := m.size - 1 }
      setRegister .sp (.integer (top - 1))
      return v

/-- The cells with zeros appended until the physical index `address` exists. -/
def grown (cells : Array Value) (address : Nat) : Array Value :=
  cells ++ Array.replicate (address + 1 - cells.size) .zero

/-- Extends the stack with zero cells until the physical index `address` exists. -/
def growTo (address : Int64) : Action PUnit := do
  if address < 0 then throw (.stackAddress address)
  else modify fun m => { m with cells := grown m.cells address.toNatClampNeg }

/-- The physical index at an offset from the base; the stack grows to hold it. -/
def locate (offset : Int64) : Action Int64 := do
  let base ← registerInteger .bp
  growTo (base + offset)
  return base + offset

/-- The cell at an offset from the base. -/
def readIndexed (offset : Int64) : Action Value := do
  let address ← locate offset
  return (← get).cells.getD address.toNatClampNeg .zero

/-- Sets the cell at an offset from the base. -/
def writeIndexed (offset : Int64) (v : Value) : Action PUnit := do
  let address ← locate offset
  modify fun m => { m with cells := m.cells.setIfInBounds address.toNatClampNeg v }

/-- The cells between brackets, then the base and the top pointer. -/
def stackSnapshot (m : Memory) : Text :=
  ofString "[" ++ Text.join (ofString " ") (m.cells.toList.map Value.quote) ++ ofString "] "
    ++ m.registers.bp.quote ++ ofString " " ++ m.registers.sp.quote

def snapshot (m : Memory) : Text :=
  m.registers.snapshot ++ ofString "stack: " ++ m.stackSnapshot ++ [Text.newline]

end Memory

end RegisterMachine

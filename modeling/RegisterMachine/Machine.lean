import RegisterMachine.Device.Basic
import RegisterMachine.Instruction
import RegisterMachine.Operand

/-!
# The machine

A machine holds a memory, a program and its devices. `tick` is the only way it
moves: it fetches the instruction at `ip`, steps `ip`, executes the instruction and
pauses for one step. Pauses, log lines and output are recorded in the state, so a
run is a function of the state it starts from.
-/
namespace RegisterMachine

open Text (ofString)

/-- Who is told of each pause, and may stop the machine: `stops` looks at the lengths of all
pauses so far in nanoseconds. -/
structure Sleeper where
  stops : Array Int64 → Bool

/-- Where the machine writes. -/
inductive Outlet where
  | discard
  | sink (s : Sink)
  | device (d : Device)
  deriving DecidableEq, Repr

/-- The state of the machine. -/
structure Machine where
  memory : Memory
  /-- Label names and their instruction indexes. -/
  labels : NameTable
  code : Array Instruction
  /-- The number of stack cells after a reset. -/
  cells : Int64
  /-- Cleared by the exit instruction and by faults. -/
  running : Bool
  /-- Steps per second; no pauses if it is not positive. -/
  speed : Int64
  verbose : Bool
  sleeper : Option Sleeper
  /-- Instructions completed since the last reset. The program counts them in 64 bits, which
  wrap only after `2 ^ 63` instructions in one run. -/
  ticks : Nat
  input : Option Device
  output : Outlet
  debug : Outlet
  devices : Devices
  /-- The lengths of all pauses. -/
  slept : Array Int64
  /-- The log, the latest line first. -/
  log : List Text

namespace Machine

/-- Steps per second unless set otherwise. -/
def defaultSpeed : Int64 := 100

/-- Stack cells unless set otherwise. -/
def defaultCells : Int64 := 5

/-- A stopped machine without a program, which discards its output. It makes no pauses until a
sleeper is attached, whereas a new machine of the program sleeps in real time. -/
def initial (labels : NameTable) (cells : Int64) : Machine where
  memory := .initial cells
  labels := labels
  code := #[]
  cells := cells
  running := false
  speed := defaultSpeed
  verbose := false
  sleeper := none
  ticks := 0
  input := none
  output := .discard
  debug := .discard
  devices := .none
  slept := #[]
  log := []

/-- Adds a line to the log of a verbose machine. -/
def logging (line : Text) (m : Machine) : Machine :=
  if m.verbose then { m with log := line :: m.log } else m

/-- Zeros the registers, rebuilds the stack, stops the machine and forgets its ticks. -/
def reset (m : Machine) : Machine :=
  let m := m.logging (ofString "cpu: reset")
  { m with memory := .initial m.cells, running := false, ticks := 0 }

def snapshot (m : Machine) : Text := m.memory.snapshot

/-- An action of the machine that fails with a cause. -/
abbrev Action := EStateM Fault Machine

/-- An action of the machine that fails with a cause and the place of the fault. -/
abbrev Located := EStateM Failure Machine

/-- Names the place of any fault of an action. -/
def Action.at {α : Type} (layers : List Layer) (act : Action α) : Located α := fun m =>
  match act m with
  | .ok a m => .ok a m
  | .error fault m => .error ⟨layers, fault⟩ m

/-- Acts on the memory alone. -/
def onMemory {α : Type} (act : Memory.Action α) : Action α := fun m =>
  match act m.memory with
  | .ok a memory => .ok a { m with memory }
  | .error fault memory => .error fault { m with memory }

def setIp (ip : Int64) : Action PUnit :=
  onMemory (Memory.setRegister .ip (.integer ip))

def resolve (token : Text) : Action Operand := do
  onMemory (Operand.resolve (← get).labels token)

def valueOf (operand : Operand) : Action Value :=
  return operand.get (← get).memory.registers

def integerOf (operand : Operand) : Action Int64 := do
  match (← valueOf operand).toInteger with
  | .ok n => return n
  | .error fault => throw fault

def assign (operand : Operand) (v : Value) : Action PUnit := do
  let _ ← onMemory (operand.set v)

def second : Int64 := 1000000000

def longestPause : Int64 := Int64.maxValue

/-- The length of a pause of `steps` steps in nanoseconds, for a positive speed. -/
def pauseLength (speed steps : Int64) : Int64 :=
  let seconds := steps / speed
  if longestPause / second < seconds then longestPause
  else seconds * second + steps % speed * second / speed

/-- Records a pause; the sleeper may stop the machine. -/
def sleep (duration : Int64) (m : Machine) : Machine :=
  match m.sleeper with
  | none => m
  | some sleeper =>
      let slept := m.slept.push duration
      { m with slept, running := m.running && !sleeper.stops slept }

/-- Pauses for a number of steps. -/
def delay (steps : Int64) : Action PUnit := do
  if steps < 0 then throw (.pauseLength steps)
  let m ← get
  if m.sleeper.isSome && 0 < m.speed then set (m.sleep (pauseLength m.speed steps))

def writeTo (outlet : Outlet) (bytes : Text) : Action PUnit := fun m =>
  let finish : Except Fault Nat × Devices → EStateM.Result Fault Machine PUnit
    | (.ok _, devices) => .ok ⟨⟩ { m with devices }
    | (.error fault, devices) => .error fault { m with devices }
  match outlet with
  | .discard => .ok ⟨⟩ m
  | .sink s => finish (m.devices.writeSink s bytes)
  | .device d => finish (m.devices.write d bytes)

/-- The bytes that show a value: the character with that code, or the text itself. -/
def shown : Value → Except Fault Text
  | .text t => .ok t
  | .integer n =>
      if n < 0 || !Text.isScalar n.toNatClampNeg then .error (.codePoint n)
      else .ok (String.utf8EncodeChar (Char.ofNat n.toNatClampNeg))

def put (v : Value) : Action PUnit := do
  match shown v with
  | .ok bytes => writeTo (← get).output bytes
  | .error fault => throw fault

/-- Reads one line of input. At the end of the input the input counts as closed. -/
def readLine : Action Text := fun m =>
  match m.input with
  | none => .error .inputClosed m
  | some device =>
      let (read, devices) := m.devices.readLine device
      let m := { m with devices }
      match read.fault with
      | none => .ok read.line m
      | some .endOfInput => .error .inputClosed m
      | some fault => .error fault m

/-- Shows the stack for 1, the registers for 2, and nothing for any other value. -/
def showState (selector : Value) : Action PUnit := do
  let m ← get
  if selector = .integer 1 then
    writeTo m.debug (m.memory.stackSnapshot ++ [Text.newline])
  else if selector = .integer 2 then
    writeTo m.debug m.memory.registers.snapshot

/-- Stores the result of an operation on two operands in the accumulator. -/
def arithmetic (op : Value → Value → Except Fault Value) (a b : Text) : Action PUnit := do
  let a ← resolve a
  let b ← resolve b
  match op (← valueOf a) (← valueOf b) with
  | .ok v => onMemory (Memory.setRegister .ax v)
  | .error fault => throw fault

/-- Carries out an instruction: operands are resolved in order, then the effect takes place. -/
def perform : Instruction → Action PUnit
  | .mov a b => do
      let a ← resolve a
      let b ← resolve b
      assign a (← valueOf b)
  | .output a => do
      let a ← resolve a
      put (← valueOf a)
  | .tostring a b => do
      let a ← resolve a
      let b ← resolve b
      assign a (.text (← valueOf b).toText)
  | .add a b => arithmetic Value.add a b
  | .sub a b => arithmetic Value.sub a b
  | .mul a b => arithmetic Value.mul a b
  | .div a b => arithmetic Value.floorDiv a b
  | .halt a => do
      let a ← resolve a
      delay (← integerOf a)
  | .exit => modify fun m => { m with running := false }
  | .input a => do
      let a ← resolve a
      let line ← readLine
      assign a (.text line)
  | .push a => do
      let a ← resolve a
      onMemory (Memory.push (← valueOf a))
  | .pop a => do
      let a ← resolve a
      let v ← onMemory Memory.pop
      assign a v
  | .lea a b => do
      let a ← resolve a
      let b ← resolve b
      match b with
      | .address index _ => assign a (.integer index)
      | _ => throw .operandAddress
  | .jmp a => do
      let a ← resolve a
      setIp (← integerOf a)
  | .call a => do
      let a ← resolve a
      let target ← integerOf a
      onMemory (Memory.push (← get).memory.registers.ip)
      setIp target
  | .ret => do
      let v ← onMemory Memory.pop
      setIp (← integerOf (.constant v))
  | .debug a => do
      let a ← resolve a
      showState (← valueOf a)
  | .alloc a => do
      let a ← resolve a
      let offset ← integerOf a
      let base ← onMemory (Memory.registerInteger .bp)
      onMemory (Memory.growTo (base + offset))

/-- Executes an instruction; `ip` is its index, for the log and for faults. -/
def execute (ip : Int64) (inst : Instruction) : Located PUnit := do
  modify (logging (Text.paddedDecimal 3 ip.toInt ++ ofString ": " ++ inst.disassemble))
  (perform inst).at [.instruction ip inst.disassemble]

/-- The index of the next instruction; past the end of the program it is the first one. -/
def fetch : Action Int64 := do
  let m ← get
  if m.code.isEmpty then throw .programEmpty
  let ip ← onMemory (Memory.registerInteger .ip)
  let ip : Int64 := if (m.code.size : Int) ≤ ip.toInt then 0 else ip
  if ip < 0 then throw (.ipRange ip)
  setIp ip
  return ip

/-- Executes one instruction, then pauses for one step. -/
def tick : Located PUnit := do
  let ip ← fetch.at []
  match (← get).code[ip.toNatClampNeg]? with
  | none => throw (.ofFault (.ipRange ip))
  | some inst =>
      (setIp (ip + 1)).at []
      execute ip inst
      modify fun m => { m with ticks := m.ticks + 1 }
      (delay 1).at []

/-- How a run of bounded length ended. -/
inductive RunEnd where
  | stopped
  | failed (failure : Failure)
  | outOfFuel
  deriving DecidableEq, Repr

/-- Ticks while the machine is running, at most `fuel` times. A fault stops the machine. -/
def run : Nat → Machine → RunEnd × Machine
  | 0, m => (if m.running then .outOfFuel else .stopped, m)
  | fuel + 1, m =>
      if m.running then
        match tick m with
        | .ok _ m => run fuel m
        | .error failure m => (.failed failure, { m with running := false })
      else (.stopped, m)

/-- Sets the machine running at an entry point. -/
def started (entry : Int64) (m : Machine) : Machine :=
  { m with
    running := true
    memory := { m.memory with registers := m.memory.registers.set .ip (.integer entry) } }

/-- Runs from an entry point until the exit instruction or a fault. -/
def start (fuel : Nat) (entry : Int64) (m : Machine) : RunEnd × Machine :=
  (m.started entry).run fuel

end Machine

end RegisterMachine

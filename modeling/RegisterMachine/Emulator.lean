import RegisterMachine.Machine
import RegisterMachine.Program

/-!
# The emulator

An emulator loads a program into a machine, attaches a line device and ticks. It
adds the source line to every fault. The terminal is opened on the first reset that
asks for line editing and kept until the emulator is closed.
-/
namespace RegisterMachine

open Text (ofString)

structure Emulator where
  verbose : Bool
  machine : Machine
  program : Option Program
  /-- Read lines from the terminal. -/
  lineEdit : Bool
  /-- Extra constants for expressions. -/
  defined : NameTable
  /-- The terminal was opened and is kept. -/
  terminalKept : Bool

namespace Emulator

/-- An emulator with an empty program. -/
def initial (cells : Int64) : Emulator where
  verbose := false
  machine := .initial .empty cells
  program := some .empty
  lineEdit := false
  defined := .empty
  terminalKept := false

/-- The constants of the machine, then the extra constants. -/
def defines (emu : Emulator) : List (Text × Int64) :=
  [(ofString "STACK_CELLS", emu.machine.cells), (ofString "SPEED", emu.machine.speed),
    (ofString "GENERAL_COUNT", Int64.ofNat Register.generalCount)] ++ emu.defined.entries

/-- The device that the machine is to be attached to. -/
def device (emu : Emulator) : Device := if emu.terminalKept then .terminal else .console

def close (emu : Emulator) : Emulator :=
  let devices := emu.machine.devices
  let devices := if emu.terminalKept then devices.closeTerminal else devices
  { emu with
    machine := { emu.machine with devices := devices.closeConsole }
    terminalKept := false }

/-- Opens the terminal if line editing asks for it; it writes where the console writes now. -/
def openTerminal (emu : Emulator) : Emulator :=
  if emu.lineEdit && !emu.terminalKept then
    let devices := emu.machine.devices.openTerminal []
    let devices := { devices with
      terminal := { devices.terminal with sink := devices.console.sink } }
    { emu with machine := { emu.machine with devices }, terminalKept := true }
  else emu

def attach (emu : Emulator) : Emulator :=
  { emu with
    machine := { emu.machine with
      input := some emu.device
      output := .device emu.device
      debug := .device emu.device } }

/-- Loads the program and points the machine at its entry. -/
def reset (emu : Emulator) : Except Fault Emulator :=
  match emu.program with
  | none => .error .programEmpty
  | some program =>
      let machine := { emu.machine with verbose := emu.verbose }.reset
      let emu := { emu with
        machine := { machine with code := program.instructions, labels := program.labels } }
      let emu := emu.openTerminal.attach
      .ok { emu with machine := emu.machine.started program.entry }

/-- The instruction pointer, or -1 if it is not an integer. -/
def ip (emu : Emulator) : Int64 :=
  match emu.machine.memory.registers.ip with
  | .integer n => n
  | .text _ => -1

/-- The source line of the next instruction; past the end of the program it is the first. -/
def lineNumberIn (program : Program) (ip : Int64) : Int :=
  program.lineNumber (if (program.instructions.size : Int) ≤ ip.toInt then 0 else ip)

/-- The source line of the next instruction, or 0. -/
def lineNumber (emu : Emulator) : Int :=
  match emu.program with
  | some program => lineNumberIn program emu.ip
  | none => 0

/-- What a tick reports. -/
inductive Report where
  | going
  | done
  | failed (failure : Failure)
  deriving DecidableEq, Repr

/-- One tick. A stopped machine is done; a fault stops the machine. -/
def tick (emu : Emulator) : Report × Emulator :=
  let machine := { emu.machine with verbose := emu.verbose }
  if !machine.running then (.done, { emu with machine })
  else
    match Machine.tick machine with
    | .ok _ machine =>
        (if machine.running then .going else .done, { emu with machine })
    | .error failure machine =>
        (.failed (failure.within (.runtime emu.lineNumber)),
          { emu with machine := { machine with running := false } })

/-- Ticks until the machine is done or a fault, at most `fuel` times. -/
def runTicks : Nat → Emulator → Machine.RunEnd × Emulator
  | 0, emu => (.outOfFuel, emu)
  | fuel + 1, emu =>
      match emu.tick with
      | (.going, emu) => runTicks fuel emu
      | (.done, emu) => (.stopped, emu)
      | (.failed failure, emu) => (.failed failure, emu)

/-- Resets and ticks until the exit instruction or a fault. -/
def run (fuel : Nat) (emu : Emulator) : Machine.RunEnd × Emulator :=
  match emu.reset with
  | .ok emu => emu.runTicks fuel
  | .error fault => (.failed (.ofFault fault), emu)

end Emulator

end RegisterMachine

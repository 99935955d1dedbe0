import RegisterMachine.Device.LineBuffer
import RegisterMachine.Text.Control
import RegisterMachine.Text.Utf8

/-!
# Line devices

The machine talks to one of two devices. The console reads lines from an attached
reader and writes to an attached sink; both may be missing and may be exchanged at
any time. The terminal prompts for each line on standard output and reads standard
input. Everything the devices touch, the readers and what has been written, is
part of their state.
-/
namespace RegisterMachine

/-- Where written bytes are collected. -/
inductive Channel where
  | output
  | debug
  | standardOutput
  deriving DecidableEq, Repr

/-- What bytes can be written to. -/
inductive Sink where
  | channel (c : Channel)
  /-- Every write fails and writes nothing. -/
  | broken (message : Text)
  deriving DecidableEq, Repr

/-- The bytes written to each channel so far. -/
structure Transcript where
  output : Text
  debug : Text
  standardOutput : Text
  deriving DecidableEq, Repr

namespace Transcript

def empty : Transcript := ⟨[], [], []⟩

def append (t : Transcript) (c : Channel) (bytes : Text) : Transcript :=
  match c with
  | .output => { t with output := t.output ++ bytes }
  | .debug => { t with debug := t.debug ++ bytes }
  | .standardOutput => { t with standardOutput := t.standardOutput ++ bytes }

end Transcript

/-- A line device over a reader and a sink. -/
structure Console where
  /-- The number of the attached reader. -/
  input : Option Nat
  /-- The attached sink. -/
  sink : Option Sink
  /-- What was read ahead, and the reader that it came from. -/
  ahead : Option (Nat × Text)
  deriving DecidableEq, Repr

/-- A line device on standard input and output. -/
structure Terminal where
  prompt : Text
  /-- Where text is written, standard output if nothing is attached. -/
  sink : Option Sink
  /-- What was read ahead; nothing while the terminal is closed. -/
  ahead : Option Text
  deriving DecidableEq, Repr

/-- One of the two devices. -/
inductive Device where
  | console
  | terminal
  deriving DecidableEq, Repr

/-- The devices, the readers behind them and all that was written. -/
structure Devices where
  readers : List Reader
  console : Console
  terminal : Terminal
  standardInput : Reader
  written : Transcript
  deriving DecidableEq, Repr

/-- A line as a device delivers it. A failing reader may leave an unfinished line. -/
structure LineRead where
  line : Text
  fault : Option Fault
  deriving DecidableEq, Repr

namespace Devices

/-- A detached console, a closed terminal, and nothing written. -/
def initial (readers : List Reader) (standardInput : Text) : Devices where
  readers := readers
  console := ⟨none, none, none⟩
  terminal := ⟨[], none, none⟩
  standardInput := .ofText standardInput
  written := .empty

/-- Nothing attached, no input. -/
def none : Devices := initial [] []

/-- Writes to a sink: the number of bytes written, or the fault. -/
def writeSink (s : Sink) (bytes : Text) (d : Devices) : Except Fault Nat × Devices :=
  match s with
  | .channel c => (.ok bytes.length, { d with written := d.written.append c bytes })
  | .broken message => (.error (.device message), d)

/-- The reader with a number; past the last one, a reader that is at its end. -/
def reader (d : Devices) (n : Nat) : Reader := d.readers.getD n default

/-- The next line of the console's reader, without its line break and a carriage return before
it. A final line without a line break counts; the end of the reader comes after it. -/
def readConsole (d : Devices) : LineRead × Devices :=
  match d.console.input with
  | .none => (⟨[], some .noInput⟩, d)
  | some n =>
      let ahead := match d.console.ahead with
        | some (m, bytes) => if m = n then bytes else []
        | .none => []
      let (line, ending, ahead, rest) := LineBuffer.wholeLine ahead (d.reader n)
      let d := { d with
        readers := d.readers.set n rest
        console := { d.console with ahead := some (n, ahead) } }
      let stripped := (line.dropTrailing Text.newline).dropTrailing Text.carriageReturn
      match ending with
      | .none => (⟨stripped, .none⟩, d)
      | some .endOfFile =>
          if line.isEmpty then (⟨[], some .endOfInput⟩, d) else (⟨stripped, .none⟩, d)
      | some ending => (⟨line, some ending.fault⟩, d)

/-- Writes to the console's sink. -/
def writeConsole (bytes : Text) (d : Devices) : Except Fault Nat × Devices :=
  match d.console.sink with
  | .none => (.error .noOutput, d)
  | some s => d.writeSink s bytes

/-- Forgets what the console read ahead. -/
def closeConsole (d : Devices) : Devices :=
  { d with console := { d.console with ahead := .none } }

/-- Opens the terminal with a prompt; nothing is read ahead and no sink is attached. -/
def openTerminal (prompt : Text) (d : Devices) : Devices :=
  { d with terminal := ⟨prompt, .none, some []⟩ }

/-- Closes the terminal. What it read ahead is lost. -/
def closeTerminal (d : Devices) : Devices :=
  { d with terminal := { d.terminal with ahead := .none } }

/-- A carriage return at the end of a full buffer stays for the next piece, where a line break
may follow it. -/
def holdBack (bytes : Text) : Text × Text :=
  if bytes.getLast? = some Text.carriageReturn then (bytes.dropLast, [Text.carriageReturn])
  else (bytes, [])

/-- A line without its line break and a carriage return before that. -/
def dropLineEnd (bytes : Text) : Text :=
  if bytes.getLast? = some Text.newline then
    Text.dropTrailing Text.carriageReturn bytes.dropLast
  else bytes

/-- Prompts for and reads one line of standard input; a line that fills the buffer comes in
pieces. -/
def readTerminal (d : Devices) : LineRead × Devices :=
  match d.terminal.ahead with
  | .none => (⟨[], some .endOfInput⟩, d)
  | some ahead =>
      if d.terminal.prompt.characters.any Text.isControl then
        (⟨[], some .invalidPrompt⟩, d)
      else
        let d := { d with written := d.written.append .standardOutput d.terminal.prompt }
        let (piece, ahead, rest) := LineBuffer.nextPiece ahead d.standardInput
        let keep (ahead : Text) : Devices := { d with
          standardInput := rest
          terminal := { d.terminal with ahead := some ahead } }
        match piece with
        | .full bytes =>
            let (bytes, held) := holdBack bytes
            (⟨bytes, .none⟩, keep held)
        | .line bytes => (⟨dropLineEnd bytes, .none⟩, keep ahead)
        | .last bytes ending =>
            if bytes.isEmpty then (⟨[], some ending.fault⟩, keep ahead)
            else (⟨bytes, .none⟩, keep ahead)

/-- Writes to the terminal's sink, or to standard output. -/
def writeTerminal (bytes : Text) (d : Devices) : Except Fault Nat × Devices :=
  d.writeSink (d.terminal.sink.getD (.channel .standardOutput)) bytes

/-- The next line of a device. -/
def readLine : Device → Devices → LineRead × Devices
  | .console => readConsole
  | .terminal => readTerminal

def write : Device → Text → Devices → Except Fault Nat × Devices
  | .console => writeConsole
  | .terminal => writeTerminal

end Devices

end RegisterMachine

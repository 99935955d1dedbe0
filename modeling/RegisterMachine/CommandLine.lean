import RegisterMachine.Emulator
import RegisterMachine.Expression.Evaluator
import RegisterMachine.Settings.Decode

/-!
# The command line

Options come before the one argument, the file of the program. They override the
settings, which come from a file if one is named. The program is assembled, its
labels are printed, and it runs until it exits or fails.
-/
namespace RegisterMachine.CommandLine

open Text (byte ofString)

def programName : Text := ofString "regvm"

/-- What the command line asks for. -/
structure Options where
  /-- The file of the settings; none if empty. -/
  config : Text
  /-- Steps per second, unless zero. -/
  speed : Int64
  /-- The entry label, unless empty. -/
  entry : Text
  verbose : Bool
  /-- What stands behind the options. -/
  arguments : List Text
  deriving DecidableEq, Repr

/-- Why options cannot be understood. -/
inductive Misuse where
  | syntaxError (argument : Text)
  | unknown (name : Text)
  | valueMissing (name : Text)
  | invalidValue (value name : Text)
  | invalidTruth (value name : Text)
  deriving DecidableEq, Repr

def Misuse.message : Misuse → Text
  | .syntaxError argument => ofString "bad flag syntax: " ++ argument
  | .unknown name => ofString "flag provided but not defined: -" ++ name
  | .valueMissing name => ofString "flag needs an argument: -" ++ name
  | .invalidValue value name =>
      ofString "invalid value " ++ Text.quote Text.isPrintable value ++ ofString " for flag -" ++ name
        ++ ofString ": parse error"
  | .invalidTruth value name =>
      ofString "invalid boolean value " ++ Text.quote Text.isPrintable value ++ ofString " for -"
        ++ name ++ ofString ": parse error"

/-- What reading options gives. -/
inductive Parsed where
  | options (o : Options)
  | help
  | misuse (m : Misuse)
  deriving DecidableEq, Repr

namespace Options

def initial : Options := ⟨[], 0, [], false, []⟩

/-- The truth value of a word. -/
def truth? (t : Text) : Option Bool :=
  if (["1", "t", "T", "TRUE", "true", "True"].map ofString).contains t then some true
  else if (["0", "f", "F", "FALSE", "false", "False"].map ofString).contains t then some false
  else none

/-- The options that take a value. -/
def takesValue (name : Text) : Bool :=
  name = ofString "config" || name = ofString "speed" || name = ofString "e"

/-- Sets an option that takes a value. -/
def set (o : Options) (name value : Text) : Except Misuse Options :=
  if name = ofString "config" then .ok { o with config := value }
  else if name = ofString "e" then .ok { o with entry := value }
  else match Numeral.word? value with
    | some n => .ok { o with speed := n }
    | none => .error (.invalidValue value name)

/-- The name of an option and its value, if there is an equals sign behind the first
character. -/
def splitValue (t : Text) : Text × Option Text :=
  let name := t.take 1 ++ (t.drop 1).takeWhile (· != byte '=')
  match (t.drop 1).dropWhile (· != byte '=') with
  | [] => (name, none)
  | _ :: value => (name, some value)

/-- An argument that is no option: it is too short or does not begin with a minus sign. -/
def isPlain (argument : Text) : Bool :=
  argument.length < 2 || argument.head? != some (byte '-')

/-- The argument without its one or two minus signs. -/
def body (argument : Text) : Text :=
  argument.drop (if (argument.drop 1).head? = some (byte '-') then 2 else 1)

/-- Reads options up to the first argument that is none. -/
def parse (o : Options) : List Text → Parsed
  | [] => .options o
  | argument :: rest =>
      if isPlain argument then .options { o with arguments := argument :: rest }
      else if argument = ofString "--" then .options { o with arguments := rest }
      else
        let text := body argument
        if text.isEmpty || text.head? = some (byte '-') || text.head? = some (byte '=') then
          .misuse (.syntaxError argument)
        else
          let (name, value) := splitValue text
          if takesValue name then
            match value, rest with
            | some value, rest =>
                match o.set name value with
                | .ok o => parse o rest
                | .error m => .misuse m
            | none, value :: rest =>
                match o.set name value with
                | .ok o => parse o rest
                | .error m => .misuse m
            | none, [] => .misuse (.valueMissing name)
          else if name = ofString "v" then
            match value with
            | none => parse { o with verbose := true } rest
            | some value =>
                match truth? value with
                | some b => parse { o with verbose := b } rest
                | none => .misuse (.invalidTruth value name)
          else if name = ofString "h" ∨ name = ofString "help" then .help
          else .misuse (.unknown name)

/-- The options explained. -/
def usage : Text :=
  ofString "Usage of " ++ programName ++ ofString (":\n"
    ++ "  -config string\n    \tYAML machine configuration\n"
    ++ "  -e string\n    \tEntry label (overrides config)\n"
    ++ "  -speed int\n    \tSteps per second (overrides config)\n"
    ++ "  -v\tVerbose mode\n")

/-- Settings with the options in place of what they override. -/
def override (o : Options) (s : Settings) : Settings :=
  { s with
    speed := if o.speed = 0 then s.speed else o.speed
    entryLabel := if o.entry.isEmpty then s.entryLabel else o.entry
    verbose := s.verbose || o.verbose }

end Options

/-- What the program leaves behind when it ends. -/
structure Result where
  code : Nat
  output : Text
  errors : Text
  deriving DecidableEq, Repr

/-- Lines, given with the latest first, as text. -/
def logText (log : List Text) : Text := log.reverse.flatMap (· ++ [Text.newline])

/-- The program ends with a message. -/
def fatal (output log : Text) (message : Text) : Result :=
  ⟨1, output, log ++ message ++ [Text.newline]⟩

/-- A program that is about to run. -/
structure Session where
  source : Text
  emulator : Emulator
  /-- What was written to standard output so far. -/
  output : Text
  /-- What was logged so far, and printed by expressions. -/
  log : Text

/-- Opens files by path. -/
abbrev Opener := Text → Except Refusal Reader

/-- The settings in force. -/
def settings (o : Options) (opener : Opener) : Except Settings.Failure Settings := do
  let s ← if o.config.isEmpty then .ok .initial else Settings.load o.config (opener o.config)
  match (o.override s).validate with
  | .ok s => .ok s
  | .error fault => .error ⟨none, fault⟩

/-- An emulator under settings, which reads standard input and writes to standard output. -/
def emulator (s : Settings) (input : Reader) : Emulator :=
  let emu := Emulator.initial s.stackCells
  let devices : Devices := { Devices.initial [input] [] with
    console := ⟨some 0, some (.channel .standardOutput), none⟩
    standardInput := input }
  { emu with
    verbose := s.verbose
    lineEdit := s.lineEdit
    defined := s.defines
    machine := { emu.machine with speed := s.speed, devices } }

/-- The labels of a program in byte order. -/
def labelLine (labels : NameTable) : Text :=
  let shown := labels.entries.map fun (name, n) => name ++ ofString ":" ++ Text.ofInt64 n
  ofString "labels: map[" ++ Text.join (ofString " ") shown ++ ofString "]\n"

/-- A message about a file. -/
def about (file message : Text) : Text := file ++ ofString ": " ++ message

/-- Everything up to the start of the program. -/
def start (o : Options) (opener : Opener) (input : Reader) : Except Result Session :=
  match o.arguments with
  | [source] =>
      match settings o opener with
      | .error failure => .error (fatal [] [] failure.message)
      | .ok s =>
          let emu := emulator s input
          match opener source with
          | .error refusal => .error (fatal [] [] (about source (refusal.message source)))
          | .ok content =>
              let asm : Assembler :=
                { Assembler.initial with
                  verbose := s.verbose
                  entryLabel := s.entryLabel
                  predefined := .ofPairs emu.defines }
              match asm.parse Expression.evaluate content with
              | (.error failure, asm) =>
                  .error (fatal [] (logText asm.log ++ asm.printed) (about source failure.message))
              | (.ok program, asm) =>
                  .ok ⟨source, { emu with program := some program }, labelLine program.labels,
                    logText asm.log ++ asm.printed⟩
  | _ =>
      .error (fatal [] [] (ofString "usage: " ++ programName ++ ofString " [options] program.rvm"))

/-- The machine is about to read a line, and there is no whole one to be read. -/
def wantsInput (emu : Emulator) : Bool :=
  let ip := emu.ip.toNatClampNeg
  let place := if emu.machine.code.size ≤ ip then 0 else ip
  match emu.machine.code[place]? with
  | none => false
  | some inst =>
      let devices := emu.machine.devices
      let ahead : Text := match devices.console.ahead with
        | some (_, bytes) => bytes
        | none => []
      let waiting : Text := match emu.device with
        | .console => ahead ++ (devices.reader 0).pending
        | .terminal => devices.terminal.ahead.getD [] ++ devices.standardInput.pending
      inst.opcode = .input && !waiting.contains Text.newline

/-- More bytes of standard input. -/
def feed (bytes : Text) (emu : Emulator) : Emulator :=
  let more (r : Reader) : Reader := { r with chunks := r.chunks ++ [bytes] }
  let devices := emu.machine.devices
  { emu with machine := { emu.machine with devices := { devices with
    readers := devices.readers.map more
    standardInput := more devices.standardInput } } }

/-- What a step has shown: standard output, the log, and the pauses in nanoseconds. -/
structure Shown where
  output : Text
  log : Text
  pause : Int
  deriving DecidableEq, Repr

/-- What was shown since the last time, and the emulator without it. -/
def drain (emu : Emulator) : Shown × Emulator :=
  let m := emu.machine
  (⟨m.devices.written.standardOutput, logText m.log,
      m.slept.foldl (fun total pause => total + pause.toInt) 0⟩,
    { emu with machine := { m with
      devices := { m.devices with written := .empty }
      log := []
      slept := #[] } })

/-- An emulator that records its pauses. -/
def paced (emu : Emulator) : Emulator :=
  { emu with machine := { emu.machine with sleeper := some ⟨fun _ => false⟩ } }

/-- What a session leaves behind when its run has ended. -/
def finish (session : Session) (ending : Machine.RunEnd) (emu : Emulator) : Result :=
  let output := session.output ++ emu.machine.devices.written.standardOutput
  let log := session.log ++ logText emu.machine.log
  match ending with
  | .failed failure => fatal output log (about session.source failure.message)
  | _ => ⟨0, output, log⟩

/-- The whole program, in at most `fuel` ticks. -/
def run (fuel : Nat) (arguments : List Text) (opener : Opener) (input : Reader) : Result :=
  match Options.initial.parse arguments with
  | .help => ⟨0, [], Options.usage⟩
  | .misuse m => ⟨2, [], m.message ++ [Text.newline] ++ Options.usage⟩
  | .options o =>
      match start o opener input with
      | .error result => result
      | .ok session =>
          let (ending, emu) := session.emulator.run fuel
          finish session ending emu

end RegisterMachine.CommandLine

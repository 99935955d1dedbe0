import RegisterMachine.CommandLine

/-!
# The program

Reads the files that the command line names and runs the session on the real clock:
each step's output is written and each pause is slept before the next step.
-/
namespace RegisterMachine.Main

open CommandLine

def textOf (s : String) : Text := s.toUTF8.toList

def bytesOf (t : Text) : ByteArray := ⟨t.toArray⟩

/-- The number of the error that reading a directory gives. -/
def directoryError : UInt32 := 21

/-- A reader over a file, or why there is none. -/
def openFile (path : Text) : IO (Except Refusal Reader) := do
  match String.fromUTF8? (bytesOf path) with
  | none => return .error .missing
  | some name =>
      try
        let content ← IO.FS.readBinFile name
        return .ok (.ofText content.toList)
      catch
        | .noFileOrDirectory _ _ _ => return .error .missing
        | .inappropriateType _ code details =>
            return if code = directoryError then .ok (.directory path)
              else .error (.other (textOf details.toLower))
        | .invalidArgument _ _ details | .permissionDenied _ _ details
        | .resourceExhausted _ _ details => return .error (.other (textOf details.toLower))
        | _ => return .error .missing

def put (stream : IO.FS.Stream) (t : Text) : IO PUnit := do
  if !t.isEmpty then
    stream.write (bytesOf t)
    stream.flush

/-- Bytes that are read from standard input at a time. -/
def inputSize : USize := 4096

/-- Reads input until the machine can have a line or there is no more. -/
partial def supply (input : IO.FS.Stream) (ended : Bool) (emu : Emulator) :
    IO (Bool × Emulator) := do
  if ended || !wantsInput emu then return (ended, emu)
  let bytes ← input.read inputSize
  if bytes.isEmpty then return (true, emu)
  supply input false (feed bytes.toList emu)

/-- Steps until the machine is done. Pauses shorter than a millisecond add up in `owed`. -/
partial def steps (input output errors : IO.FS.Stream) (ended : Bool) (owed : Int)
    (emu : Emulator) : IO (Machine.RunEnd × Emulator) := do
  let (ended, emu) ← supply input ended emu
  let (report, emu) := emu.tick
  let (shown, emu) := drain emu
  put errors shown.log
  put output shown.output
  let owed := owed + shown.pause
  if 1000000 ≤ owed then IO.sleep (owed / 1000000).toNat.toUInt32
  match report with
  | .going => steps input output errors ended (owed % 1000000) emu
  | .done => return (.stopped, emu)
  | .failed failure => return (.failed failure, emu)

/-- Runs a session to its end. -/
def runSession (session : Session) : IO UInt32 := do
  let input ← IO.getStdin
  let output ← IO.getStdout
  let errors ← IO.getStderr
  put errors session.log
  put output session.output
  let (ending, emu) ←
    match (paced session.emulator).reset with
    | .ok emu => steps input output errors false 0 emu
    | .error fault => pure (.failed (.ofFault fault), session.emulator)
  let result := finish { session with output := [], log := [] } ending emu
  put errors result.errors
  return result.code.toUInt32

/-- Ends with a result. -/
def finishWith (result : Result) : IO UInt32 := do
  put (← IO.getStdout) result.output
  put (← IO.getStderr) result.errors
  return result.code.toUInt32

/-- Everything from the command line to the exit code. -/
def program (arguments : List Text) : IO UInt32 := do
  match Options.initial.parse arguments with
  | .options o =>
      let files ← (o.config :: o.arguments).mapM fun path => return (path, ← openFile path)
      let opener (path : Text) : Except Refusal Reader :=
        ((files.find? (·.1 == path)).map (·.2)).getD (.error .missing)
      match start o opener default with
      | .ok session => runSession session
      | .error result => finishWith result
  | _ => finishWith (run 0 arguments (fun _ => .error .missing) default)

end RegisterMachine.Main

def main (arguments : List String) : IO UInt32 :=
  RegisterMachine.Main.program (arguments.map RegisterMachine.Main.textOf)

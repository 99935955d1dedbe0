import RegisterMachine.Instruction
import RegisterMachine.NameTable

/-!
# Programs

An assembled program: its instructions, the source line of each, the label table
and the entry point. Its listing shows every instruction with its index, after the
labels that point to it.
-/
namespace RegisterMachine

open Text (ofString)

/-- A line of program text with its number, counted from one. -/
structure SourceLine where
  number : Int
  text : Text
  deriving DecidableEq, Repr

structure Program where
  instructions : Array Instruction
  /-- The source line of each instruction. -/
  lines : Array SourceLine
  labels : NameTable
  entry : Int64
  deriving DecidableEq, Repr

namespace Program

/-- A program without instructions and labels. -/
def empty : Program := ⟨#[], #[], .empty, 0⟩

/-- The source line number of the instruction at `ip`, or 0. -/
def lineNumber (program : Program) (ip : Int64) : Int :=
  if ip < 0 then 0
  else match program.lines[ip.toNatClampNeg]? with
    | some line => line.number
    | none => 0

/-- The label lines of an instruction index. -/
def labelLines (program : Program) (index : Nat) : Text :=
  (program.labels.namesOf (Int64.ofNat index)).flatMap fun name =>
    ofString "!" ++ name ++ [Text.newline]

/-- The line of an instruction in the listing. -/
def instructionLine (index : Nat) (inst : Instruction) : Text :=
  Text.paddedDecimal 3 index ++ ofString ": " ++ inst.disassemble ++ [Text.newline]

/-- The instructions with their indexes, each after its labels; labels past the last
instruction come at the end. -/
def listing (program : Program) : Text :=
  (program.instructions.toList.zipIdx.flatMap fun (inst, index) =>
      program.labelLines index ++ instructionLine index inst)
    ++ program.labelLines program.instructions.size

end Program

end RegisterMachine

import RegisterMachine.Assembler.Source
import RegisterMachine.Program
import RegisterMachine.Text.Blank

/-!
# The assembler

Each line of program text is an instruction, a label or blank. The first pass over
the lines collects labels and instructions; once every label is known, the second
pass evaluates `$(…)` operands and builds the instructions. What an expression means
is a parameter; evaluating one may also print.
-/
namespace RegisterMachine

open Text (ofString byte)

/-- What evaluating an expression gives. -/
inductive Evaluation where
  | integer (n : Int)
  | text (t : Text)
  /-- A value of any other type. -/
  | other
  /-- The expression is malformed, or its evaluation failed. -/
  | failed
  deriving DecidableEq, Repr

/-- A meaning for expressions: the names that are known, the expression, its value and what
evaluating it prints. -/
abbrev Evaluator := NameTable → Text → Evaluation × Text

/-- What a line of program text holds. -/
inductive LineContent where
  | blank
  | label (name : Text)
  | instruction (op : Opcode) (words : List Text)
  deriving DecidableEq, Repr

namespace LineContent

/-- A line without its comment and the blanks around it. -/
def strip (line : Text) : Text := (line.beforePair (byte '/') (byte '/')).trim

/-- An operand word, in which a backslash and an `n` stand for a line break. -/
def unescapeWord (word : Text) : Text :=
  Text.replacePair (byte '\\') (byte 'n') [Text.newline] word

/-- The content of an instruction line: words between colons, the first one an opcode. -/
def ofWords : List Text → Except Fault LineContent
  | [] => .ok .blank
  | word :: words =>
      match Opcode.parse word.trim with
      | .ok op => .ok (.instruction op (words.map unescapeWord))
      | .error fault => .error fault

def ofLine (line : Text) : Except Fault LineContent :=
  match strip line with
  | [] => .ok .blank
  | first :: rest =>
      if first = byte '!' then
        let name := Text.trim rest
        if name.isEmpty then .error .labelName else .ok (.label name)
      else ofWords (Text.splitOn (byte ':') (first :: rest))

end LineContent

/-- An instruction line whose expressions are not evaluated yet. -/
structure Scanned where
  line : SourceLine
  op : Opcode
  words : List Text
  deriving DecidableEq, Repr

/-- The labels and instruction lines found so far. -/
structure Draft where
  labels : NameTable
  scanned : Array Scanned
  deriving DecidableEq, Repr

namespace Draft

def empty : Draft := ⟨.empty, #[]⟩

/-- The draft with one more line. A label stands for the number of instructions above it. -/
def addLine (draft : Draft) (line : SourceLine) : Except Fault Draft :=
  match LineContent.ofLine line.text with
  | .error fault => .error fault
  | .ok .blank => .ok draft
  | .ok (.label name) =>
      if draft.labels.contains name then .error .labelDuplicate
      else .ok { draft with labels := draft.labels.insert name (Int64.ofNat draft.scanned.size) }
  | .ok (.instruction op words) =>
      .ok { draft with scanned := draft.scanned.push ⟨line, op, words⟩ }

/-- Adds lines with ascending numbers up to the first one that does not fit. Gives the draft,
the number of lines read and that fault. -/
def addLines (draft : Draft) (count : Nat) : List Text → Draft × Nat × Option Failure
  | [] => (draft, count, none)
  | text :: rest =>
      match draft.addLine ⟨count + 1, text⟩ with
      | .ok draft => addLines draft (count + 1) rest
      | .error fault => (draft, count + 1, some ⟨[.source (count + 1) text], fault⟩)

end Draft

namespace Scanned

/-- The inside of an operand that is to be evaluated. -/
def expression? : Text → Option Text
  | dollar :: opening :: rest =>
      if dollar = byte '$' ∧ opening = byte '(' ∧ rest.getLast? = some (byte ')') then
        some rest.dropLast
      else none
  | _ => none

/-- The operand token that stands for the value of an expression: a numeral or a quoted text. -/
def token (expression : Text) : Evaluation → Except Fault Text
  | .integer n =>
      if n < 0 ∨ 9223372036854775808 ≤ n then .error (.expressionValue expression)
      else .ok (Text.signedDecimal n)
  | .text t => .ok (byte '"' :: (t ++ [byte '"']))
  | .other => .error (.expressionValue expression)
  | .failed => .error (.expressionFailed expression)

/-- An operand word with its expression evaluated, and what that prints. -/
def evaluateWord (evaluate : Text → Evaluation × Text) (word : Text) :
    Except Fault Text × Text :=
  match expression? word with
  | some e =>
      let (value, printed) := evaluate e
      (token e value, printed)
  | none => (.ok word, [])

/-- Operand words evaluated from left to right up to the first fault, and what that prints. -/
def evaluateWords (evaluate : Text → Evaluation × Text) :
    List Text → Except Fault (List Text) × Text
  | [] => (.ok [], [])
  | word :: words =>
      match evaluateWord evaluate word with
      | (.error fault, printed) => (.error fault, printed)
      | (.ok token, printed) =>
          let rest := evaluateWords evaluate words
          (rest.1.map (token :: ·), printed ++ rest.2)

/-- The tokens of words do not depend on what is printed. -/
theorem evaluateWords_fst (evaluate : Text → Evaluation × Text) (words : List Text) :
    (evaluateWords evaluate words).1 = words.mapM fun word => (evaluateWord evaluate word).1 := by
  induction words with
  | nil => rfl
  | cons word words ih =>
      rw [List.mapM_cons, ← ih, evaluateWords]
      rcases evaluateWord evaluate word with ⟨_ | token, printed⟩
      · rfl
      · show (evaluateWords evaluate words).1.map (token :: ·) = _
        cases (evaluateWords evaluate words).1 <;> rfl

/-- The instruction of a scanned line, and what its expressions print. -/
def build (evaluate : Text → Evaluation × Text) (scanned : Scanned) :
    Except Fault Instruction × Text :=
  let (tokens, printed) := evaluateWords evaluate scanned.words
  (tokens.bind (Instruction.make scanned.op), printed)

/-- Builds all instructions up to the first fault, with those so far in `done`, and gives what
their expressions print. -/
def buildAll (evaluate : Text → Evaluation × Text) (done : Array Instruction) :
    List Scanned → Except Failure (Array Instruction) × Text
  | [] => (.ok done, [])
  | scanned :: rest =>
      match scanned.build evaluate with
      | (.ok inst, printed) =>
          let built := buildAll evaluate (done.push inst) rest
          (built.1, printed ++ built.2)
      | (.error fault, printed) =>
          (.error ⟨[.source scanned.line.number scanned.line.text], fault⟩, printed)

end Scanned

/-- An assembler with its settings and what its last parse left behind. -/
structure Assembler where
  verbose : Bool
  /-- The label at which programs start; if empty, the default label. -/
  entryLabel : Text
  /-- Constants for expressions. -/
  predefined : NameTable
  /-- The labels of the text parsed last. -/
  labels : NameTable
  /-- The instruction lines of the text parsed last. -/
  scanned : Array Scanned
  /-- The log, the latest line first. -/
  log : List Text
  /-- What expressions printed. -/
  printed : Text
  deriving DecidableEq, Repr

namespace Assembler

/-- The label at which programs start unless set otherwise. -/
def defaultEntryLabel : Text := ofString "_start"

def initial : Assembler := ⟨false, [], .empty, .empty, #[], [], []⟩

/-- Defines a constant, in place of an earlier one of that name. -/
def predefine (asm : Assembler) (name : Text) (value : Int64) : Assembler :=
  { asm with predefined := asm.predefined.insert name value }

/-- The label that marks the entry. -/
def entry (asm : Assembler) : Text :=
  if asm.entryLabel.isEmpty then defaultEntryLabel else asm.entryLabel

/-- The labels and instruction lines that the assembler holds. -/
def draft (asm : Assembler) : Draft := ⟨asm.labels, asm.scanned⟩

/-- The assembler without what its last parse left behind. -/
def cleared (asm : Assembler) : Assembler := { asm with labels := .empty, scanned := #[] }

@[simp] theorem draft_cleared (asm : Assembler) : asm.cleared.draft = .empty := rfl

/-- The names that expressions know: labels hide constants. -/
def environment (predefined labels : NameTable) : NameTable :=
  predefined.insertAll labels.entries

/-- The log lines of the first `count` lines of a text, the latest first. -/
def logLines (count : Nat) (lines : List Text) : List Text :=
  ((lines.take count).zipIdx.map fun (text, index) =>
    ofString "asm: " ++ Text.decimal (index + 1) ++ ofString ": " ++ text).reverse

/-- Finishes a draft: finds the entry and builds the instructions. Gives what that prints, too. -/
def finish (evaluate : Evaluator) (asm : Assembler) (draft : Draft) :
    Except Failure Program × Text :=
  match draft.labels.find? asm.entry with
  | none => (.error (.ofFault (.entryMissing asm.entry)), [])
  | some entry =>
      let names := environment asm.predefined draft.labels
      match Scanned.buildAll (evaluate names) #[] draft.scanned.toList with
      | (.error failure, printed) => (.error failure, printed)
      | (.ok instructions, printed) =>
          (.ok ⟨instructions, draft.scanned.map (·.line), draft.labels, entry⟩, printed)

/-- Parses program text into a program, with nothing left of an earlier text. A faulty line comes
before a failure of the reader, which comes before a missing entry and faulty operands. -/
def parse (evaluate : Evaluator) (asm : Assembler) (reader : Reader) :
    Except Failure Program × Assembler :=
  let source := Source.ofReader reader
  let (draft, count, failure) := asm.cleared.draft.addLines 0 source.lines
  let log := if asm.verbose then logLines count source.lines ++ asm.log else asm.log
  let (result, printed) := match failure, source.fault with
    | some failure, _ => (.error failure, [])
    | none, some fault => (.error ⟨[.source (count + 1) []], fault⟩, [])
    | none, none => asm.finish evaluate draft
  (result, { asm with
    labels := draft.labels, scanned := draft.scanned, log, printed := asm.printed ++ printed })

end Assembler

end RegisterMachine

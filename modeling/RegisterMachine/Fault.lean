import RegisterMachine.Text.Decimal
import RegisterMachine.Register

/-!
# Faults and failures

A fault is the cause of a failure, one constructor per cause. A failure is a
fault together with the places that it passed on the way out: the instruction,
the source line. The wording of both is fixed here and nowhere else.
-/
namespace RegisterMachine

open Text (ofString)

/-- Why an operation of the machine, the assembler or a device failed. -/
inductive Fault where
  /-- There is no instruction to fetch. -/
  | programEmpty
  /-- The instruction pointer is negative. -/
  | ipRange (ip : Int64)
  /-- There is no cell to pop. -/
  | stackUnderflow
  /-- A stack address is negative. -/
  | stackAddress (address : Int64)
  | divisionByZero
  /-- A value has the wrong kind. -/
  | valueKind
  /-- A register that has to hold an integer holds a text. -/
  | registerKind (register : Register)
  /-- A repeated text would be too long. -/
  | textLength
  /-- A pause of a negative number of steps. -/
  | pauseLength (steps : Int64)
  /-- The integer is not the code of a character. -/
  | codePoint (code : Int64)
  | inputClosed
  | operandReadOnly
  /-- The operand is not a stack address. -/
  | operandAddress
  | operandMissing
  | operandExtra
  | labelDuplicate
  /-- A label line without a name. -/
  | labelName
  | unknownOpcode (name : Text)
  | unknownRegister (name : Text)
  | unknownLabel (name : Text)
  | entryMissing (label : Text)
  /-- The inside of a bracketed operand is no address. -/
  | addressExpression (inside : Text)
  | parseNumber (numeral : Text)
  /-- The expression has a value that cannot be an operand. -/
  | expressionValue (expression : Text)
  /-- The expression is malformed or its evaluation fails. -/
  | expressionFailed (expression : Text)
  | noInput
  | noOutput
  /-- The prompt holds a control character. -/
  | invalidPrompt
  | lineTooLong
  | endOfInput
  /-- The fault of a reader or a sink that is not part of the machine. -/
  | device (message : Text)
  deriving DecidableEq, Repr

namespace Fault

def message : Fault → Text
  | .programEmpty => ofString "program empty"
  | .ipRange ip => ofString "ip out of range: " ++ Text.ofInt64 ip
  | .stackUnderflow => ofString "stack underflow"
  | .stackAddress address => ofString "stack address negative: " ++ Text.ofInt64 address
  | .divisionByZero => ofString "division by zero"
  | .valueKind => ofString "value kind mismatch"
  | .registerKind register => register.name ++ ofString ": value kind mismatch"
  | .textLength => ofString "value out of range"
  | .pauseLength steps => ofString "value out of range: " ++ Text.ofInt64 steps
  | .codePoint code => ofString "code point out of range: " ++ Text.ofInt64 code
  | .inputClosed => ofString "input closed"
  | .operandReadOnly => ofString "operand read only"
  | .operandAddress => ofString "operand has no stack address"
  | .operandMissing => ofString "operand missing"
  | .operandExtra => ofString "excessive operands"
  | .labelDuplicate => ofString "label duplicated"
  | .labelName => ofString "label name missing"
  | .unknownOpcode name => ofString "unknown opcode '" ++ name ++ ofString "'"
  | .unknownRegister name => ofString "unknown register '" ++ name ++ ofString "'"
  | .unknownLabel name => ofString "unknown label '" ++ name ++ ofString "'"
  | .entryMissing label => ofString "entry label " ++ label ++ ofString " missing"
  | .addressExpression inside => ofString "[" ++ inside ++ ofString "] is not a valid address"
  | .parseNumber numeral => ofString "'" ++ numeral ++ ofString "' is not a number"
  | .expressionValue expression =>
      ofString "$(" ++ expression ++ ofString ") is not a valid expression"
  | .expressionFailed expression =>
      ofString "$(" ++ expression ++ ofString ") is not a valid expression"
  | .noInput => ofString "no input attached"
  | .noOutput => ofString "no output attached"
  | .invalidPrompt => ofString "invalid prompt"
  | .lineTooLong => ofString "bufio.Scanner: token too long"
  | .endOfInput => ofString "EOF"
  | .device message => message

end Fault

/-- A place that a fault passed on its way out. -/
inductive Layer where
  /-- The source line of a running program. -/
  | runtime (line : Int)
  /-- An instruction, by index and in program text form. -/
  | instruction (ip : Int64) (text : Text)
  /-- A line of program text that does not assemble. -/
  | source (line : Int) (text : Text)
  deriving DecidableEq, Repr

/-- The message of a failure whose inner part reads `inner`. Numbers are grouped. -/
def Layer.message : Layer → Text → Text
  | .runtime line, inner =>
      ofString "line " ++ Text.groupedDecimal 0 line ++ ofString ": " ++ inner
  | .instruction ip text, inner =>
      Text.groupedDecimal 3 ip.toInt ++ ofString " " ++ text ++ ofString ": " ++ inner
  | .source line text, inner =>
      ofString "line " ++ Text.groupedDecimal 0 line ++ ofString " '" ++ text ++ ofString "' "
        ++ inner

/-- A fault with the places around it, the outermost first. -/
structure Failure where
  layers : List Layer
  cause : Fault
  deriving DecidableEq, Repr

namespace Failure

/-- A fault that passed no place. -/
def ofFault (fault : Fault) : Failure := ⟨[], fault⟩

/-- The failure seen from one place further out. -/
def within (layer : Layer) (failure : Failure) : Failure :=
  { failure with layers := layer :: failure.layers }

def message (failure : Failure) : Text :=
  failure.layers.foldr Layer.message failure.cause.message

end Failure

end RegisterMachine

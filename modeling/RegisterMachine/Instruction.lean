import RegisterMachine.Fault

/-!
# The instruction set

Eighteen opcodes, each with a fixed number of operands. An instruction carries
exactly the operand tokens that its opcode consumes; tokens are resolved when the
instruction runs.
-/
namespace RegisterMachine

open Text (ofString)

/-- An operation of the machine. -/
inductive Opcode where
  /-- Read a line of input into A. -/
  | input
  /-- Write A as a character or a text. -/
  | output
  /-- A = B. -/
  | mov
  /-- Grow the stack to hold indexed cell A. -/
  | alloc
  /-- Stop the machine. -/
  | exit
  /-- A = text of B. -/
  | tostring
  /-- ax = A + B. -/
  | add
  /-- ax = A - B. -/
  | sub
  /-- ax = A * B. -/
  | mul
  /-- ax = A / B, rounded down. -/
  | div
  /-- Pause for A steps. -/
  | halt
  | push
  | pop
  /-- A = stack address of B. -/
  | lea
  | call
  | jmp
  | ret
  /-- Show the stack (1) or the registers (2). -/
  | debug
  deriving DecidableEq, Repr

namespace Opcode

/-- The opcodes in the order of their codes. -/
def all : List Opcode :=
  [input, output, mov, alloc, exit, tostring, add, sub, mul, div, halt, push, pop, lea, call,
    jmp, ret, debug]

def name : Opcode → Text
  | input => ofString "in"
  | output => ofString "out"
  | mov => ofString "mov"
  | alloc => ofString "alloc"
  | exit => ofString "exit"
  | tostring => ofString "tostring"
  | add => ofString "add"
  | sub => ofString "sub"
  | mul => ofString "mul"
  | div => ofString "div"
  | halt => ofString "halt"
  | push => ofString "push"
  | pop => ofString "pop"
  | lea => ofString "lea"
  | call => ofString "call"
  | jmp => ofString "jmp"
  | ret => ofString "ret"
  | debug => ofString "vm_debug"

/-- The position of an opcode in `all`. -/
def code : Opcode → Nat
  | input => 0
  | output => 1
  | mov => 2
  | alloc => 3
  | exit => 4
  | tostring => 5
  | add => 6
  | sub => 7
  | mul => 8
  | div => 9
  | halt => 10
  | push => 11
  | pop => 12
  | lea => 13
  | call => 14
  | jmp => 15
  | ret => 16
  | debug => 17

/-- The number of operands that the opcode consumes. -/
def arity : Opcode → Nat
  | exit | ret => 0
  | input | output | alloc | halt | push | pop | call | jmp | debug => 1
  | mov | tostring | add | sub | mul | div | lea => 2

/-- The opcode with a code. -/
def ofCode? (code : Int64) : Option Opcode :=
  if code < 0 then none else all[code.toNatClampNeg]?

/-- The name of the opcode with a code, or the code itself if there is none. -/
def nameOfCode (code : Int64) : Text :=
  match ofCode? code with
  | some op => op.name
  | none => ofString "Opcode(" ++ Text.ofInt64 code ++ ofString ")"

def parse (word : Text) : Except Fault Opcode :=
  match all.find? (·.name == word) with
  | some op => .ok op
  | none => .error (.unknownOpcode word)

end Opcode

/-- An opcode with the operand tokens that it consumes. -/
inductive Instruction where
  | input (a : Text)
  | output (a : Text)
  | mov (a b : Text)
  | alloc (a : Text)
  | exit
  | tostring (a b : Text)
  | add (a b : Text)
  | sub (a b : Text)
  | mul (a b : Text)
  | div (a b : Text)
  | halt (a : Text)
  | push (a : Text)
  | pop (a : Text)
  | lea (a b : Text)
  | call (a : Text)
  | jmp (a : Text)
  | ret
  | debug (a : Text)
  deriving DecidableEq, Repr

namespace Instruction

instance : Inhabited Instruction := ⟨exit⟩

def opcode : Instruction → Opcode
  | input _ => .input
  | output _ => .output
  | mov _ _ => .mov
  | alloc _ => .alloc
  | exit => .exit
  | tostring _ _ => .tostring
  | add _ _ => .add
  | sub _ _ => .sub
  | mul _ _ => .mul
  | div _ _ => .div
  | halt _ => .halt
  | push _ => .push
  | pop _ => .pop
  | lea _ _ => .lea
  | call _ => .call
  | jmp _ => .jmp
  | ret => .ret
  | debug _ => .debug

def operands : Instruction → List Text
  | exit | ret => []
  | input a | output a | alloc a | halt a | push a | pop a | call a | jmp a | debug a => [a]
  | mov a b | tostring a b | add a b | sub a b | mul a b | div a b | lea a b => [a, b]

/-- The most operand tokens that an instruction may be written with. -/
def operandLimit : Nat := 3

/-- The instruction of an opcode and its operand tokens; tokens past the arity are dropped. -/
def make (op : Opcode) (tokens : List Text) : Except Fault Instruction :=
  if operandLimit < tokens.length then .error .operandExtra
  else match op, tokens with
    | .exit, _ => .ok exit
    | .ret, _ => .ok ret
    | .input, a :: _ => .ok (input a)
    | .output, a :: _ => .ok (output a)
    | .alloc, a :: _ => .ok (alloc a)
    | .halt, a :: _ => .ok (halt a)
    | .push, a :: _ => .ok (push a)
    | .pop, a :: _ => .ok (pop a)
    | .call, a :: _ => .ok (call a)
    | .jmp, a :: _ => .ok (jmp a)
    | .debug, a :: _ => .ok (debug a)
    | .mov, a :: b :: _ => .ok (mov a b)
    | .tostring, a :: b :: _ => .ok (tostring a b)
    | .add, a :: b :: _ => .ok (add a b)
    | .sub, a :: b :: _ => .ok (sub a b)
    | .mul, a :: b :: _ => .ok (mul a b)
    | .div, a :: b :: _ => .ok (div a b)
    | .lea, a :: b :: _ => .ok (lea a b)
    | _, _ => .error .operandMissing

/-- The instruction of an opcode given by its code. -/
def ofCode (code : Int64) (tokens : List Text) : Except Fault Instruction :=
  match Opcode.ofCode? code with
  | some op => make op tokens
  | none => .error (.unknownOpcode (Opcode.nameOfCode code))

/-- A word of program text: a line break is written as a backslash and an `n`. -/
def escapeWord (word : Text) : Text :=
  word.flatMap fun b => if b = Text.newline then ofString "\\n" else [b]

/-- The program text form of an instruction. -/
def disassemble (inst : Instruction) : Text :=
  Text.join (ofString ":") ((inst.opcode.name :: inst.operands).map escapeWord)

end Instruction

end RegisterMachine

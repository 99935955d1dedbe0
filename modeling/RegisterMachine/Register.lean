import RegisterMachine.Text.Basic

/-!
# Registers

The machine has nine registers: the instruction pointer, the two stack pointers
and six general purpose registers, of which the first takes the results of
arithmetic.
-/
namespace RegisterMachine

open Text (ofString)

/-- A register of the machine. -/
inductive Register where
  /-- Instruction pointer. -/
  | ip
  /-- Stack top pointer. -/
  | sp
  /-- Stack base pointer. -/
  | bp
  /-- The accumulator, general purpose register 0. -/
  | ax
  | bx
  | cx
  | dx
  | ex
  | fx
  deriving DecidableEq, Repr

namespace Register

/-- The registers in file order. -/
def all : List Register := [ip, sp, bp, ax, bx, cx, dx, ex, fx]

def name : Register → Text
  | ip => ofString "ip"
  | sp => ofString "sp"
  | bp => ofString "bp"
  | ax => ofString "ax"
  | bx => ofString "bx"
  | cx => ofString "cx"
  | dx => ofString "dx"
  | ex => ofString "ex"
  | fx => ofString "fx"

def ofName? (text : Text) : Option Register := all.find? (·.name == text)

def generalCount : Nat := 6

/-- General purpose register `n`, where 0 is `ax` and 5 is `fx`. -/
def general? : Nat → Option Register
  | 0 => some ax
  | 1 => some bx
  | 2 => some cx
  | 3 => some dx
  | 4 => some ex
  | 5 => some fx
  | _ => none

end Register

end RegisterMachine

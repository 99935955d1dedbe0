import RegisterMachine.Fault
import RegisterMachine.Text.Quoted
import RegisterMachine.Text.Printable

/-!
# Values

A register or a stack cell holds an integer of 64 bits or a text. Integer
arithmetic wraps; division rounds toward negative infinity; texts concatenate
and repeat.
-/
namespace RegisterMachine

open Text (ofString)

/-- An integer or a text. -/
inductive Value where
  | integer (n : Int64)
  | text (t : Text)
  deriving DecidableEq, Repr

namespace Value

/-- The value of a fresh register or stack cell. -/
def zero : Value := .integer 0

instance : Inhabited Value := ⟨zero⟩

/-- The kind of a value. -/
inductive Kind where
  | integer
  | text
  deriving DecidableEq, Repr

/-- The kinds in the order of their codes. -/
def Kind.all : List Kind := [.integer, .text]

def Kind.name : Kind → Text
  | .integer => ofString "integer"
  | .text => ofString "text"

/-- The name of the kind with a code, or the code itself if there is none. -/
def Kind.nameOfCode (code : Int64) : Text :=
  match if code < 0 then none else Kind.all[code.toNatClampNeg]? with
  | some kind => kind.name
  | none => ofString "ValueKind(" ++ Text.ofInt64 code ++ ofString ")"

/-- The integer of an integer value. -/
def toInteger : Value → Except Fault Int64
  | .integer n => .ok n
  | .text _ => .error .valueKind

/-- Decimal for integers, verbatim for texts. -/
def toText : Value → Text
  | .integer n => Text.ofInt64 n
  | .text t => t

/-- Decimal for integers, quoted for texts; `printable` says what shows as itself. -/
def quoteWith (printable : Char → Bool) : Value → Text
  | .integer n => Text.ofInt64 n
  | .text t => Text.quote printable t

/-- The value as snapshots show it. -/
def quote (v : Value) : Text := v.quoteWith Text.isPrintable

/-- Integers add, texts concatenate. -/
def add : Value → Value → Except Fault Value
  | .integer a, .integer b => .ok (.integer (a + b))
  | .text a, .text b => .ok (.text (a ++ b))
  | _, _ => .error .valueKind

def sub : Value → Value → Except Fault Value
  | .integer a, .integer b => .ok (.integer (a - b))
  | _, _ => .error .valueKind

/-- The length of the longest text. -/
def maxLength : Nat := 9223372036854775807

/-- `count` copies of a text, none if `count` is negative. -/
def repeated (t : Text) (count : Int64) : Except Fault Value :=
  let copies := count.toNatClampNeg
  if 0 < copies ∧ maxLength / copies < t.length then .error .textLength
  else .ok (.text (t.times copies))

/-- Integers multiply; a text and an integer in either order repeat the text. -/
def mul : Value → Value → Except Fault Value
  | .integer a, .integer b => .ok (.integer (a * b))
  | .text t, .integer n => repeated t n
  | .integer n, .text t => repeated t n
  | .text _, .text _ => .error .valueKind

/-- The quotient rounded toward negative infinity, for a divisor other than zero. -/
def floorQuotient (n d : Int64) : Int64 :=
  let q := n / d
  if n % d ≠ 0 ∧ (decide (n < 0) != decide (d < 0)) then q - 1 else q

def floorDiv : Value → Value → Except Fault Value
  | .integer a, .integer b =>
      if b = 0 then .error .divisionByZero else .ok (.integer (floorQuotient a b))
  | _, _ => .error .valueKind

end Value

end RegisterMachine

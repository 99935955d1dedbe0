import RegisterMachine.Text.Decimal

/-!
# Ranges of integers

A range counts from a start toward a stop in steps. Its bounds are machine words, and
so is its length: a range whose span does not fit a word has a negative length, and
nothing is in it.
-/
namespace RegisterMachine.Expression

open Text (ofString)

structure Range where
  start : Int64
  stop : Int64
  step : Int64
  deriving DecidableEq, Repr

namespace Range

/-- The number of elements, in wrapping arithmetic. -/
def length (r : Range) : Int64 :=
  if 0 < r.step then
    if r.start < r.stop then (r.stop - 1 - r.start) / r.step + 1 else 0
  else if r.stop < r.start then (r.start - 1 - r.stop) / (-r.step) + 1
  else 0

/-- The number of elements that there are to be gone through. -/
def count (r : Range) : Nat := r.length.toInt.toNat

/-- The element at a position. -/
def element (r : Range) (i : Nat) : Int64 := r.start + Int64.ofNat i * r.step

/-- An integer of 32 bits is an element. Others are none. -/
def contains (r : Range) (n : Int) : Bool :=
  if n < -2147483648 ∨ 2147483647 < n then false
  else
    let distance := Int64.ofInt n - r.start
    let place := distance / r.step
    distance % r.step == 0 && decide (0 ≤ place) && decide (place < r.length)

/-- Ranges are equal if they have the same elements. -/
def equal (a b : Range) : Bool :=
  a.length == b.length
    && (a.length == 0 || (a.start == b.start && (a.length == 1 || a.step == b.step)))

/-- The text of a range, without the start and the step that are understood. -/
def text (r : Range) : Text :=
  let bounds :=
    if r.step != 1 then [r.start, r.stop, r.step]
    else if r.start != 0 then [r.start, r.stop]
    else [r.stop]
  ofString "range(" ++ Text.join (ofString ", ") (bounds.map Text.ofInt64) ++ ofString ")"

end Range

end RegisterMachine.Expression

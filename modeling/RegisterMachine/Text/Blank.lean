import RegisterMachine.Text.Utf8

/-!
# Blank characters and trimming

Lines and labels are trimmed of Unicode white space at both ends. A byte that is
not part of a well-formed character is never blank.
-/
namespace RegisterMachine.Text

def isBlank (c : Char) : Bool :=
  let n := c.toNat
  (9 ≤ n && n ≤ 13) || n == 0x20 || n == 0x85 || n == 0xA0 || n == 0x1680
    || (0x2000 ≤ n && n ≤ 0x200A) || n == 0x2028 || n == 0x2029 || n == 0x202F
    || n == 0x205F || n == 0x3000

/-- A unit that trimming removes. -/
def Unit.isBlank : Unit → Bool
  | .character c => Text.isBlank c
  | .stray _ => false

/-- The list without its longest end on which `p` holds. -/
def dropEndWhile {α : Type} (p : α → Bool) (xs : List α) : List α :=
  (xs.reverse.dropWhile p).reverse

/-- The text without the blanks at its two ends. -/
def trim (t : Text) : Text :=
  ofUnits (dropEndWhile Unit.isBlank ((units t).dropWhile Unit.isBlank))

end RegisterMachine.Text

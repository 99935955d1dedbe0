import RegisterMachine.Text.Printable

/-!
# Control characters

Control, format, private use and unassigned code points: the characters that a
prompt may not hold.
-/
namespace RegisterMachine.Text

/-- A space of some width, or a separator of lines or paragraphs. -/
def isSeparator (c : Char) : Bool :=
  let n := c.toNat
  n == 0x20 || n == 0xA0 || n == 0x1680 || (0x2000 ≤ n && n ≤ 0x200A) || n == 0x2028
    || n == 0x2029 || n == 0x202F || n == 0x205F || n == 0x3000

/-- A character that is neither printable nor a separator. -/
def isControl (c : Char) : Bool := !isPrintable c && !isSeparator c

end RegisterMachine.Text

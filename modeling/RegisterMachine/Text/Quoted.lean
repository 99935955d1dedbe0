import RegisterMachine.Text.Utf8
import RegisterMachine.Text.Decimal

/-!
# Quoted texts

A quoted text stands between double quotes on one line, a quoted character between
single ones. Which characters show as themselves is a parameter; all others, the
quotation mark, the backslash and stray bytes are escaped.
-/
namespace RegisterMachine.Text

/-- The one-letter escapes of control characters. -/
def shortEscape? (c : Char) : Option UInt8 :=
  match c.toNat with
  | 7 => some (byte 'a')
  | 8 => some (byte 'b')
  | 9 => some (byte 't')
  | 10 => some (byte 'n')
  | 11 => some (byte 'v')
  | 12 => some (byte 'f')
  | 13 => some (byte 'r')
  | _ => none

/-- The escape of a character by its code point: two, four or eight hexadecimal digits. -/
def codeEscape (c : Char) : Text :=
  let n := c.toNat
  if n < 0x20 || n == 0x7F then byte '\\' :: byte 'x' :: hexadecimal 2 n
  else if n < 0x10000 then byte '\\' :: byte 'u' :: hexadecimal 4 n
  else byte '\\' :: byte 'U' :: hexadecimal 8 n

/-- A unit as it stands between two quotation marks. -/
def escapeUnit (mark : Char) (printable : Char → Bool) : Unit → Text
  | .stray b => byte '\\' :: byte 'x' :: hexadecimal 2 b.toNat
  | .character c =>
      if c == mark || c == '\\' then [byte '\\', byte c]
      else if printable c then String.utf8EncodeChar c
      else match shortEscape? c with
        | some letter => [byte '\\', letter]
        | none => codeEscape c

/-- The text between double quotes, with everything escaped that is not printable. -/
def quote (printable : Char → Bool) (t : Text) : Text :=
  byte '"' :: ((units t).flatMap (escapeUnit '"' printable) ++ [byte '"'])

/-- The character between single quotes, escaped if it is not printable. -/
def quoteCharacter (printable : Char → Bool) (c : Char) : Text :=
  byte '\'' :: (escapeUnit '\'' printable (.character c) ++ [byte '\''])

end RegisterMachine.Text

import RegisterMachine.Numeral
import RegisterMachine.Text.Utf8

/-!
# Literals of expressions

Numbers are decimal, hexadecimal (`0x`), octal (`0o`), binary (`0b`) or floating
point. Strings stand between single or double quotes, or three of either; `r` turns
escapes off and `b` makes a string of bytes.
-/
namespace RegisterMachine.Expression

open Text (byte)
open Numeral (isDigitOf valueIn? exponent? float?)

/-- A number as written. -/
inductive Number where
  | int (n : Nat)
  | float (x : Float)

/-- An integer of at most 63 bits. -/
def smallInt? (n : Nat) : Option Number :=
  if n < 9223372036854775808 then some (.int n) else none

/-- Reads the part of a floating-point literal behind its point. -/
def fraction? (whole rest : Text) : Option (Number × Text) := do
  let fraction := rest.takeWhile Text.isDigit
  let (e, rest) ← exponent? (rest.dropWhile Text.isDigit)
  return (.float (← float? whole fraction e), rest)

/-- Reads digits of a base behind its mark. -/
def based? (base : Nat) (rest : Text) : Option (Nat × Text) := do
  let digits := rest.takeWhile (isDigitOf base)
  return (← valueIn? base digits, rest.dropWhile (isDigitOf base))

/-- Reads a number that starts with a digit, or with a point and a digit. -/
def number? (t : Text) : Option (Number × Text) :=
  let decimal : Option (Number × Text) :=
    let whole := t.takeWhile Text.isDigit
    let rest := t.dropWhile Text.isDigit
    match rest with
    | b :: more =>
        if b = byte '.' then fraction? whole more
        else if b = byte 'e' ∨ b = byte 'E' then do
          let (e, rest) ← exponent? rest
          return (.float (← float? whole [] e), rest)
        else integer whole rest
    | [] => integer whole rest
  match t with
  | zero :: mark :: rest =>
      if zero = byte '0' then
        if mark = byte 'x' ∨ mark = byte 'X' then (based? 16 rest).map fun (n, r) => (.int n, r)
        else if mark = byte 'o' ∨ mark = byte 'O' then do
          let (n, rest) ← based? 8 rest
          return (← smallInt? n, rest)
        else if mark = byte 'b' ∨ mark = byte 'B' then do
          let (n, rest) ← based? 2 rest
          return (← smallInt? n, rest)
        else decimal
      else decimal
  | _ => decimal
where
  /-- A decimal integer; a leading zero is only for zero itself. -/
  integer (whole rest : Text) : Option (Number × Text) :=
    match whole with
    | first :: _ :: _ =>
        if first = byte '0' ∧ !whole.all (· == byte '0') then none
        else some (.int (Text.digitsValue whole), rest)
    | _ => some (.int (Text.digitsValue whole), rest)

/-- The bytes of the one-letter escapes. -/
def shortEscape? (b : UInt8) : Option UInt8 :=
  if b = byte 'a' then some 7
  else if b = byte 'b' then some 8
  else if b = byte 't' then some 9
  else if b = byte 'n' then some 10
  else if b = byte 'v' then some 11
  else if b = byte 'f' then some 12
  else if b = byte 'r' then some 13
  else if b = byte '\\' ∨ b = byte '\'' ∨ b = byte '"' then some b
  else none

def fixedHex? (n : Nat) (t : Text) : Option (Nat × Text) := do
  let digits := t.take n
  if digits.length = n then return (← valueIn? 16 digits, t.drop n) else none

/-- The bytes of an escape sequence behind its backslash, and the text behind it. Only strings
of bytes may name bytes above 127. -/
def escape? (ofBytes : Bool) : Text → Option (Text × Text)
  | [] => none
  | b :: rest =>
      if b = Text.newline then some ([], rest)
      else if b = byte 'x' then do
        let (n, rest) ← fixedHex? 2 rest
        if !ofBytes && 127 < n then none else return ([n.toUInt8], rest)
      else if b = byte 'u' ∨ b = byte 'U' then do
        let (n, rest) ← fixedHex? (if b = byte 'u' then 4 else 8) rest
        if Text.isScalar n then return (String.utf8EncodeChar (Char.ofNat n), rest) else none
      else if isDigitOf 8 b then
        let digits := (b :: rest).take 3 |>.takeWhile (isDigitOf 8)
        let n := (valueIn? 8 digits).getD 0
        if (!ofBytes && 127 < n) || 256 ≤ n then none
        else some ([n.toUInt8], (b :: rest).drop digits.length)
      else (shortEscape? b).map fun c => ([c], rest)

/-- Replaces the escapes of a string; at most `fuel` bytes and escapes. -/
def unescape? (ofBytes : Bool) : Nat → Text → Text → Option Text
  | 0, done, _ => some done.reverse
  | _ + 1, done, [] => some done.reverse
  | fuel + 1, done, b :: rest =>
      if b = byte '\\' then
        match escape? ofBytes rest with
        | some (bytes, rest) => unescape? ofBytes fuel (bytes.reverse ++ done) rest
        | none => none
      else unescape? ofBytes fuel (b :: done) rest

/-- The inside of a string up to its closing quote, in reverse, and the rest. A backslash takes
the next byte along; a line break ends the line and so is an error, unless `long`. -/
def stringBody? (quote : UInt8) (long : Bool) : Nat → Text → Text → Option (Text × Text)
  | 0, _, _ => none
  | _ + 1, _, [] => none
  | fuel + 1, done, b :: rest =>
      if b = quote then
        if long then
          match rest with
          | c :: d :: more =>
              if c = quote ∧ d = quote then some (done.reverse, more)
              else stringBody? quote long fuel (b :: done) rest
          | _ => none
        else some (done.reverse, rest)
      else if b = Text.newline ∧ !long then none
      else if b = byte '\\' then
        match rest with
        | c :: more => stringBody? quote long fuel (c :: b :: done) more
        | [] => none
      else stringBody? quote long fuel (b :: done) rest

/-- Reads a string literal behind its letters, starting at its quote. Its inside is read by
characters: bytes that belong to none are replaced. -/
def string? (raw ofBytes : Bool) : Text → Option (Text × Text)
  | quote :: rest => do
      let long := match rest with
        | c :: d :: _ => c = quote ∧ d = quote
        | _ => false
      let (body, rest) ← stringBody? quote long (rest.length + 1) []
        (if long then rest.drop 2 else rest)
      let body := Text.repaired body
      if raw then return (body, rest)
      else return (← unescape? ofBytes (body.length + 1) [] body, rest)
  | [] => none

end RegisterMachine.Expression

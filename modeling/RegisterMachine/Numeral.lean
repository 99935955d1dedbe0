import RegisterMachine.Floating

/-!
# Numerals

Digits in any base up to 36, signs, and decimal numerals with a point and an
exponent.
-/
namespace RegisterMachine.Numeral

open Text (byte)

/-- The value of a digit in bases up to 36. -/
def digitValue? (b : UInt8) : Option Nat :=
  let n := b.toNat
  if 48 ≤ n && n ≤ 57 then some (n - 48)
  else if 97 ≤ n && n ≤ 122 then some (n - 87)
  else if 65 ≤ n && n ≤ 90 then some (n - 55)
  else none

/-- A digit of a base. -/
def isDigitOf (base : Nat) (b : UInt8) : Bool :=
  match digitValue? b with
  | some d => d < base
  | none => false

/-- The number that the digits of a base stand for; nothing if there are none, or others. -/
def valueIn? (base : Nat) (digits : Text) : Option Nat :=
  if digits.isEmpty || !digits.all (isDigitOf base) then none
  else some (digits.foldl (fun n b => n * base + (digitValue? b).getD 0) 0)

/-- Whether a numeral has a minus sign, and what is behind its sign. -/
def splitSign : Text → Bool × Text
  | [] => (false, [])
  | b :: rest =>
      if b = byte '-' then (true, rest)
      else if b = byte '+' then (false, rest)
      else (false, b :: rest)

/-- A whole number with a sign. -/
def signed (negative : Bool) (n : Nat) : Int := if negative then -(n : Int) else n

/-- A whole number whose base is told by its beginning: `0x`, `0b`, `0o`, or `0` for base eight
too. -/
def unsigned? (t : Text) : Option Nat :=
  match t with
  | [] => none
  | zero :: rest =>
      if zero ≠ byte '0' then valueIn? 10 t
      else match rest with
        | [] => some 0
        | mark :: digits =>
            if digits.isEmpty then valueIn? 8 rest
            else if mark = byte 'x' ∨ mark = byte 'X' then valueIn? 16 digits
            else if mark = byte 'b' ∨ mark = byte 'B' then valueIn? 2 digits
            else if mark = byte 'o' ∨ mark = byte 'O' then valueIn? 8 digits
            else valueIn? 8 rest

/-- Underscores in a whole number stand behind a digit, or behind the mark of its base, and
before a digit. `digitBefore` tells what came before. -/
def underscoresFit (hex digitBefore : Bool) : Text → Bool
  | [] => true
  | b :: rest =>
      if b = byte '_' then
        match rest with
        | c :: _ =>
            digitBefore && isDigitOf (if hex then 16 else 10) c && underscoresFit hex false rest
        | [] => false
      else underscoresFit hex (isDigitOf (if hex then 16 else 10) b) rest

/-- A whole number whose base is told by its beginning, with underscores between digits. -/
def spaced? (t : Text) : Option Nat :=
  let fits := match t with
    | zero :: mark :: rest =>
        let is (c d : Char) : Bool := mark = byte c || mark = byte d
        if zero = byte '0' ∧ (is 'x' 'X' ∨ is 'b' 'B' ∨ is 'o' 'O') then
          underscoresFit (is 'x' 'X') true rest
        else underscoresFit false false t
    | _ => underscoresFit false false t
  if fits then unsigned? (t.filter (· != byte '_')) else none

/-- A machine word with an optional sign. -/
def word? (t : Text) : Option Int64 := do
  let (negative, digits) := splitSign t
  let n := signed negative (← spaced? digits)
  if -9223372036854775808 ≤ n ∧ n < 9223372036854775808 then return Int64.ofInt n else none

/-- The value of an exponent. Once it has five digits, further ones do not count. -/
def exponentValue (digits : Text) : Nat :=
  digits.foldl (fun e b => if e < 10000 then e * 10 + (digitValue? b).getD 0 else e) 0

/-- Reads digits with an optional sign, of which there has to be one. -/
def signedExponent? (t : Text) : Option (Int × Text) :=
  let (negative, rest) := splitSign t
  let digits := rest.takeWhile Text.isDigit
  if digits.isEmpty then none
  else some (signed negative (exponentValue digits), rest.dropWhile Text.isDigit)

/-- Reads an exponent; a mark without digits is an error. Nothing read is exponent zero. -/
def exponent? : Text → Option (Int × Text)
  | [] => some (0, [])
  | mark :: rest =>
      if mark = byte 'e' ∨ mark = byte 'E' then signedExponent? rest
      else some (0, mark :: rest)

/-- The number with the given digits before and behind the point, and an exponent; nothing if
there are no digits or if it is too large. -/
def float? (whole fraction : Text) (exponent : Int) : Option Float :=
  if whole.isEmpty && fraction.isEmpty then none
  else Floating.ofDecimal? (Text.digitsValue (whole ++ fraction)) (exponent - fraction.length)

/-- Digits of a base, and the digits behind a point if there is one. -/
def mantissa (base : Nat) (t : Text) : Text × Text × Text :=
  let whole := t.takeWhile (isDigitOf base)
  match t.dropWhile (isDigitOf base) with
  | b :: more =>
      if b = byte '.' then
        (whole, more.takeWhile (isDigitOf base), more.dropWhile (isDigitOf base))
      else (whole, [], b :: more)
  | [] => (whole, [], [])

/-- The number of a decimal numeral with optional point and exponent. -/
def decimalFloat? (t : Text) : Option Float := do
  let (whole, fraction, rest) := mantissa 10 t
  let (e, rest) ← exponent? rest
  let x ← float? whole fraction e
  if rest.isEmpty then return x else none

/-- The number of hexadecimal digits with an optional point and a binary exponent. -/
def hexadecimalFloat? (t : Text) : Option Float := do
  let (whole, fraction, rest) := mantissa 16 t
  let digits ← valueIn? 16 (whole ++ fraction)
  match rest with
  | mark :: rest =>
      if mark = byte 'p' ∨ mark = byte 'P' then
        let (e, rest) ← signedExponent? rest
        let x ← Floating.ofBinary? digits (e - 4 * fraction.length)
        if rest.isEmpty then return x else none
      else none
  | [] => none

/-- The hexadecimal digits behind their mark; nothing if there is none. -/
def hexadecimal? : Text → Option Text
  | zero :: mark :: rest =>
      if zero = byte '0' ∧ (mark = byte 'x' ∨ mark = byte 'X') ∧ !rest.isEmpty then some rest
      else none
  | _ => none

/-- The number of a numeral with an optional sign, decimal or hexadecimal, with underscores
between digits; nothing if it is malformed or too large. -/
def parseFloat? (t : Text) : Option Float := do
  let (negative, t) := splitSign t
  let plain (t : Text) : Text := t.filter (· != byte '_')
  let x ← match hexadecimal? t with
    | some digits =>
        if underscoresFit true true digits then hexadecimalFloat? (plain digits) else none
    | none => if underscoresFit false false t then decimalFloat? (plain t) else none
  return if negative then -x else x

end RegisterMachine.Numeral

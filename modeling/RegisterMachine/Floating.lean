import RegisterMachine.Text.Decimal

/-!
# Binary floating-point numbers and their decimal text

A finite number is an exact fraction: a whole number times a power of two. Its
shortest text is the one with the fewest digits that reads back as the number, and
of these the nearest; texts with a fixed number of places are rounded to nearest.
Ties go to even. All decisions are made in exact integer arithmetic.
-/
namespace RegisterMachine.Floating

open Text (byte ofString)

/-- A finite number: `mantissa * 2 ^ exponent`, with a sign. -/
structure Parts where
  negative : Bool
  mantissa : Nat
  exponent : Int
  deriving DecidableEq, Repr

/-- The exact parts of a number; nothing for infinities and for the number that is none. -/
def parts? (x : Float) : Option Parts :=
  let bits := x.toBits.toNat
  let negative := 1 ≤ bits / 9223372036854775808
  let field := bits / 4503599627370496 % 2048
  let fraction := bits % 4503599627370496
  if field == 2047 then none
  else if field == 0 then some ⟨negative, fraction, -1074⟩
  else some ⟨negative, fraction + 4503599627370496, (field : Int) - 1075⟩

/-- The number is a power of two whose lower neighbour is twice as close as its upper one. -/
def Parts.isBoundary (p : Parts) : Bool :=
  p.mantissa == 4503599627370496 && -1074 < p.exponent

/-- Numerator and denominator of `n * 2 ^ e`. -/
def scaled (n : Nat) (e : Int) : Nat × Nat :=
  if 0 ≤ e then (n * Nat.pow 2 e.toNat, 1) else (n, Nat.pow 2 (-e).toNat)

/-- Numerator and denominator of a number, without its sign. -/
def Parts.ratio (p : Parts) : Nat × Nat := scaled p.mantissa p.exponent

/-- The whole part of a number, rounded toward zero. -/
def Parts.truncated (p : Parts) : Int :=
  let (n, d) := p.ratio
  let whole : Nat := n / d
  if p.negative then -(whole : Int) else whole

/-- The number of decimal digits. -/
def digitCount (n : Nat) : Nat := (Text.decimal n).length

/-- The exponent of the leading decimal digit of a positive fraction. -/
def leadingExponent (n d : Nat) : Int :=
  let guess : Int := (digitCount n : Int) - digitCount d
  let small := if 0 ≤ guess then n < d * Nat.pow 10 guess.toNat
    else n * Nat.pow 10 (-guess).toNat < d
  if small then guess - 1 else guess

/-- The quotient rounded to nearest, ties to even. -/
def roundHalfEven (n d : Nat) : Nat :=
  let q := n / d
  let twice := 2 * (n % d)
  if twice < d then q else if d < twice then q + 1 else if q % 2 == 0 then q else q + 1

/-- Digits with the exponent of the first one. -/
structure Digits where
  digits : Text
  exponent : Int
  deriving DecidableEq, Repr

/-- Digits without zeros at the end. -/
def stripZeros (digits : Text) : Text :=
  let kept := (digits.reverse.dropWhile (· == byte '0')).reverse
  if kept.isEmpty then [byte '0'] else kept

/-- Reads a decimal of `count` digits that starts at exponent `k`, as whole digits `n`. -/
def asDigits (n count : Nat) (k : Int) : Digits :=
  let text := Text.decimal n
  ⟨stripZeros text, k + ((text.length : Int) - count)⟩

/-- The nearer one of a whole number and the next, by their distances; of two equally near ones
the even one. -/
def nearer (distance next : Nat) (n : Nat) : Nat :=
  if next < distance || (next == distance && n % 2 == 1) then n + 1 else n

/-- Tries `count`, `count + 1`, … digits: the grid of decimals with that many digits has a
point that reads back exactly if one of the two neighbours of the number on it does. -/
def searchDigits (p : Parts) (k : Int) : Nat → Nat → Digits
  | 0, count => asDigits (roundHalfEven p.ratio.1 p.ratio.2) count k
  | tries + 1, count =>
      -- everything in quarters of the last binary place, over a common denominator
      let (unit, den) := scaled 1 (p.exponent - 2)
      let value := 4 * p.mantissa * unit
      let low := value - (if p.isBoundary then unit else 2 * unit)
      let high := value + 2 * unit
      let place := k - count + 1
      let up := Nat.pow 10 place.toNat
      let down := Nat.pow 10 (-place).toNat
      -- one step of the grid is `up / down`
      let below := value * down / (den * up)
      let closed := p.mantissa % 2 == 0
      let fits (n : Nat) : Bool :=
        let scaledPoint := n * up * den
        if closed then low * down ≤ scaledPoint && scaledPoint ≤ high * down
        else low * down < scaledPoint && scaledPoint < high * down
      let distance (n : Nat) : Nat :=
        let a := n * up * den
        let b := value * down
        if a ≤ b then b - a else a - b
      let above := below + 1
      match fits below, fits above with
      | true, true => asDigits (nearer (distance below) (distance above) below) count k
      | true, false => asDigits below count k
      | false, true => asDigits above count k
      | false, false => searchDigits p k tries (count + 1)

/-- The fewest digits that read back as the number. -/
def shortestDigits (p : Parts) : Digits :=
  if p.mantissa == 0 then ⟨[byte '0'], 0⟩
  else
    let (n, d) := p.ratio
    searchDigits p (leadingExponent n d) 17 1

/-- A decimal exponent with a sign and at least two digits. -/
def exponentText (mark : UInt8) (e : Int) : Text :=
  mark :: (if e < 0 then byte '-' else byte '+')
    :: Text.padLeft 2 (byte '0') (Text.decimal e.natAbs)

/-- Digits in scientific form. -/
def scientific (mark : UInt8) (digits : Text) (e : Int) : Text :=
  match digits with
  | [] => []
  | first :: [] => first :: exponentText mark e
  | first :: rest => first :: byte '.' :: (rest ++ exponentText mark e)

/-- Digits in positional form. -/
def positional (digits : Text) (e : Int) : Text :=
  if e < 0 then ofString "0." ++ List.replicate (-e - 1).toNat (byte '0') ++ digits
  else
    let whole := e.toNat + 1
    if digits.length ≤ whole then digits ++ List.replicate (whole - digits.length) (byte '0')
    else digits.take whole ++ byte '.' :: digits.drop whole

/-- The text of infinities and of the number that is none. -/
def specialText (x : Float) : Text :=
  if x.isNaN then ofString "nan" else if x < 0 then ofString "-inf" else ofString "+inf"

def signed (negative : Bool) (t : Text) : Text := if negative then byte '-' :: t else t

/-- The shortest text, positional for exponents from -4 to 5 and always with a point or an
exponent. -/
def shortestText (upper : Bool) (x : Float) : Text :=
  match parts? x with
  | none => specialText x
  | some p =>
      let d := shortestDigits p
      if d.exponent < -4 || 6 ≤ d.exponent then
        signed p.negative (scientific (if upper then byte 'E' else byte 'e') d.digits d.exponent)
      else
        let t := positional d.digits d.exponent
        signed p.negative (if t.contains (byte '.') then t else t ++ ofString ".0")

/-- The text of a number. -/
def text (x : Float) : Text := shortestText false x

/-- The text with six decimal places. -/
def fixedText (x : Float) : Text :=
  match parts? x with
  | none => specialText x
  | some p =>
      let (n, d) := p.ratio
      let all := Text.padLeft 7 (byte '0') (Text.decimal (roundHalfEven (n * 1000000) d))
      let whole := all.length - 6
      signed p.negative (all.take whole ++ byte '.' :: all.drop whole)

/-- The text in scientific form with six places behind the point. -/
def scientificText (upper : Bool) (x : Float) : Text :=
  let mark := if upper then byte 'E' else byte 'e'
  match parts? x with
  | none => specialText x
  | some p =>
      if p.mantissa == 0 then signed p.negative (scientific mark (List.replicate 7 (byte '0')) 0)
      else
        let (n, d) := p.ratio
        let k := leadingExponent n d
        let place := k - 6
        let q := roundHalfEven (n * Nat.pow 10 (-place).toNat) (d * Nat.pow 10 place.toNat)
        let digits := Text.decimal q
        -- rounding up may give one digit more, a one and zeros
        signed p.negative (scientific mark (digits.take 7) (k + ((digits.length : Int) - 7)))

/-- The fraction divided by `2 ^ e`. -/
def unscaled (n d : Nat) (e : Int) : Nat × Nat :=
  if 0 ≤ e then (n, d * Nat.pow 2 e.toNat) else (n * Nat.pow 2 (-e).toNat, d)

/-- The number nearest to a fraction, ties to even; nothing if it is too large. The bits of a
number count its distance from zero in steps between neighbours, so a mantissa that rounds up
to a power of two carries into the exponent by itself. -/
def nearest? (n d : Nat) : Option Float :=
  if n == 0 then some 0.0
  else
    -- the fraction lies between `2 ^ 52` and `2 ^ 54` times `2 ^ guess`
    let guess : Int := (n.log2 : Int) - d.log2 - 53
    let (a, b) := unscaled n d guess
    let e := if a / b < 9007199254740992 then guess else guess + 1
    let e := if e < -1074 then -1074 else e
    let (a, b) := unscaled n d e
    let bits := (e + 1074).toNat * 4503599627370496 + roundHalfEven a b
    if 9218868437227405312 ≤ bits then none else some (Float.ofBits bits.toUInt64)

/-- The number nearest to an integer; nothing if it is too large. -/
def ofInt? (n : Int) : Option Float :=
  (nearest? n.natAbs 1).map fun x => if n < 0 then -x else x

/-- The number nearest to an integer, infinite if it is too large. -/
def ofInt (n : Int) : Float :=
  (ofInt? n).getD (if n < 0 then -1.0 / 0.0 else 1.0 / 0.0)

/-- The number nearest to `n * 2 ^ e`; nothing if it is too large. -/
def ofBinary? (n : Nat) (e : Int) : Option Float :=
  nearest? (scaled n e).1 (scaled n e).2

/-- The number nearest to `digits * 10 ^ exponent`; nothing if it is too large. -/
def ofDecimal? (digits : Nat) (exponent : Int) : Option Float :=
  if digits == 0 then some 0.0
  else
    let magnitude := exponent + digitCount digits
    if 400 < magnitude then none
    else if magnitude < -400 then some 0.0
    else if 0 ≤ exponent then nearest? (digits * Nat.pow 10 exponent.toNat) 1
    else nearest? digits (Nat.pow 10 (-exponent).toNat)

/-- Compares an integer with a finite number. -/
def compareInt (n : Int) (p : Parts) : Ordering :=
  let (num, den) := p.ratio
  let value : Int := if p.negative then -(num : Int) else num
  compare (n * den) value

/-- The remainder of a division, with the sign of the divisor unless it is zero. -/
def floorMod (x y : Float) : Float :=
  let toward (r : Float) : Float :=
    if decide (x < 0) != decide (y < 0) && r != 0 then r + y else r
  match parts? x, parts? y with
  | some a, some b =>
      let e := if a.exponent ≤ b.exponent then a.exponent else b.exponent
      let m := a.mantissa * Nat.pow 2 (a.exponent - e).toNat
      let n := b.mantissa * Nat.pow 2 (b.exponent - e).toNat
      let r := (ofBinary? (m % n) e).getD 0.0
      toward (if a.negative then -r else r)
  | some _, none => if y.isNaN then y else toward x
  | _, _ => x - x

end RegisterMachine.Floating

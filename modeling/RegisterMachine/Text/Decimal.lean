import RegisterMachine.Text.Basic

/-!
# Decimal numerals

Numbers are written without leading zeros and with a leading minus sign where
negative. Messages for people group the digits in threes.
-/
namespace RegisterMachine.Text

/-- The digit byte of a number below ten. -/
def digit (n : Nat) : UInt8 := (48 + n % 10).toUInt8

/-- The decimal digits of a natural number, the leading one first. -/
def decimal (n : Nat) : Text :=
  if n < 10 then [digit n] else decimal (n / 10) ++ [digit n]

/-- The number that a run of digits stands for. -/
def digitsValue (t : Text) : Nat := t.foldl (fun n b => n * 10 + (b.toNat - 48)) 0

/-- The decimal form of an integer. -/
def signedDecimal (n : Int) : Text :=
  if n < 0 then byte '-' :: decimal n.natAbs else decimal n.natAbs

/-- The decimal form of a machine word. -/
def ofInt64 (n : Int64) : Text := signedDecimal n.toInt

/-- The digits with a comma between groups of three, counted from the right. -/
def grouped (digits : Text) : Text :=
  let rec go : Nat → Text → Text
    | _, [] => []
    | k, d :: rest =>
        if k == 3 then byte ',' :: d :: go 1 rest else d :: go (k + 1) rest
  (go 0 digits.reverse).reverse

/-- An integer for a reader: grouped digits, padded with zeros to at least `width` digits
before grouping; the sign does not count. -/
def groupedDecimal (width : Nat) (n : Int) : Text :=
  let digits := grouped (padLeft width (byte '0') (decimal n.natAbs))
  if n < 0 then byte '-' :: digits else digits

/-- An integer padded with zeros to at least `width` bytes, the sign included. -/
def paddedDecimal (width : Nat) (n : Int) : Text :=
  if n < 0 then byte '-' :: padLeft (width - 1) (byte '0') (decimal n.natAbs)
  else padLeft width (byte '0') (decimal n.natAbs)

/-- The lower-case hexadecimal digit of a number below sixteen. -/
def hexDigit (n : Nat) : UInt8 :=
  let d := n % 16
  if d < 10 then (48 + d).toUInt8 else (87 + d).toUInt8

/-- Exactly `width` hexadecimal digits of a number. -/
def hexadecimal (width n : Nat) : Text :=
  match width with
  | 0 => []
  | k + 1 => hexadecimal k (n / 16) ++ [hexDigit n]

end RegisterMachine.Text

import RegisterMachine.Numeral

/-!
# Values of plain scalars

A plain scalar without a tag is what it looks like: nothing, a truth value, a number,
a date or else a text. Integers may be written in base two, eight, ten or sixteen,
with underscores anywhere.
-/
namespace RegisterMachine.Markup

open Text (byte ofString)
open Numeral (valueIn? splitSign signed unsigned? decimalFloat? parseFloat?)

/-- What a plain scalar stands for. -/
inductive Implicit where
  | null
  | bool (b : Bool)
  /-- An integer of 64 bits, signed or not. -/
  | int (n : Int)
  | float (x : Float)
  | timestamp
  | text

namespace Implicit

def tag : Implicit → Text
  | .null => ofString "!!null"
  | .bool _ => ofString "!!bool"
  | .int _ => ofString "!!int"
  | .float _ => ofString "!!float"
  | .timestamp => ofString "!!timestamp"
  | .text => ofString "!!str"

/-- The words that stand for a value. -/
def word? (t : Text) : Option Implicit :=
  let isOneOf (ws : List String) : Bool := ws.any fun w => ofString w == t
  if isOneOf ["true", "True", "TRUE"] then some (.bool true)
  else if isOneOf ["false", "False", "FALSE"] then some (.bool false)
  else if isOneOf ["", "~", "null", "Null", "NULL"] then some .null
  else if isOneOf [".nan", ".NaN", ".NAN"] then some (.float (0.0 / 0.0))
  else if isOneOf [".inf", ".Inf", ".INF", "+.inf", "+.Inf", "+.INF"] then
    some (.float (1.0 / 0.0))
  else if isOneOf ["-.inf", "-.Inf", "-.INF"] then some (.float (-1.0 / 0.0))
  else none

/-- A number of one or two digits. -/
def shortNumber? : Text → Option (Nat × Text)
  | a :: rest =>
      if Text.isDigit a then
        match rest with
        | b :: more =>
            if Text.isDigit b then some (Text.digitsValue [a, b], more)
            else some (Text.digitsValue [a], rest)
        | [] => some (Text.digitsValue [a], [])
      else none
  | [] => none

/-- A given byte. -/
def expect? (b : UInt8) : Text → Option Text
  | c :: rest => if c = b then some rest else none
  | [] => none

def daysIn (year month : Nat) : Nat :=
  if month = 2 then
    if year % 4 = 0 ∧ (year % 100 ≠ 0 ∨ year % 400 = 0) then 29 else 28
  else if month = 4 ∨ month = 6 ∨ month = 9 ∨ month = 11 then 30
  else 31

/-- The text behind a date of four, one or two, and one or two digits. -/
def afterDate? (t : Text) : Option Text := do
  let year := t.takeWhile Text.isDigit
  if year.length ≠ 4 then none
  else
    let t ← expect? (byte '-') (t.drop 4)
    let (month, t) ← shortNumber? t
    let t ← expect? (byte '-') t
    let (day, t) ← shortNumber? t
    if 1 ≤ month ∧ month ≤ 12 ∧ 1 ≤ day ∧ day ≤ daysIn (Text.digitsValue year) month then
      return t
    else none

/-- The text behind a time of day, which may have a fraction of a second. -/
def afterTime? (t : Text) : Option Text := do
  let (hour, t) ← shortNumber? t
  let t ← expect? (byte ':') t
  let (minute, t) ← shortNumber? t
  let t ← expect? (byte ':') t
  let (second, t) ← shortNumber? t
  if hour < 24 ∧ minute < 60 ∧ second < 60 then
    match t with
    | sep :: d :: rest =>
        if (sep = byte '.' ∨ sep = byte ',') ∧ Text.isDigit d then
          return rest.dropWhile Text.isDigit
        else return t
    | _ => return t
  else none

/-- The text behind a time zone: `Z`, or a sign, two digits, a colon and two digits. -/
def afterZone? : Text → Option Text
  | [] => none
  | b :: rest =>
      if b = byte 'Z' then some rest
      else if b = byte '+' ∨ b = byte '-' then do
        let hour := rest.take 2
        let rest ← expect? (byte ':') (rest.drop 2)
        let minute := rest.take 2
        if hour.length = 2 ∧ minute.length = 2 ∧ Text.isDigits hour ∧ Text.isDigits minute
            ∧ Text.digitsValue hour ≤ 24 ∧ Text.digitsValue minute ≤ 60 then
          return rest.drop 2
        else none
      else none

/-- A date, alone, with a time of day, or with a time of day and a zone. -/
def isTimestamp (t : Text) : Bool :=
  match afterDate? t with
  | none => false
  | some [] => true
  | some (b :: rest) =>
      if b = byte 'T' ∨ b = byte 't' then
        (afterTime? rest).bind afterZone? == some []
      else if b = 32 then afterTime? (rest.dropWhile (· == 32)) == some []
      else false

/-- The integer fits into 64 bits, with a sign, or without one if none is written. -/
def fitting? (unsignedToo : Bool) (n : Int) : Option Implicit :=
  if -9223372036854775808 ≤ n ∧ n < 9223372036854775808 then some (.int n)
  else if unsignedToo ∧ 0 ≤ n ∧ n < 18446744073709551616 then some (.int n)
  else none

def hasSign (t : Text) : Bool := t.head? == some (byte '+') || t.head? == some (byte '-')

def int? (t : Text) : Option Implicit := do
  let (negative, digits) := splitSign t
  fitting? (!hasSign t) (signed negative (← unsigned? digits))

/-- A number of a fixed base behind its mark, where the sign may stand behind the mark too. -/
def marked? (mark : String) (base : Nat) (t : Text) : Option Implicit :=
  let mark := ofString mark
  let negativeMark := byte '-' :: mark
  if mark.isPrefixOf t then do
    let t := t.drop mark.length
    let (negative, digits) := splitSign t
    fitting? (!hasSign t) (signed negative (← valueIn? base digits))
  else if negativeMark.isPrefixOf t then do
    let n ← valueIn? base (t.drop negativeMark.length)
    fitting? false (-(n : Int))
  else none

/-- A decimal number with an optional sign, point and exponent. -/
def decimal? (t : Text) : Option Implicit := do
  let (negative, digits) := splitSign t
  let x ← decimalFloat? digits
  return .float (if negative then -x else x)

def number? (t : Text) : Option Implicit :=
  let plain := t.filter (· != byte '_')
  (int? plain).orElse fun _ =>
    (decimal? plain).orElse fun _ =>
      (marked? "0b" 2 plain).orElse fun _ => marked? "0o" 8 plain

/-- What a plain scalar stands for; `dates` says that it may be a date. -/
def ofText (dates : Bool) (t : Text) : Implicit :=
  match word? t with
  | some value => value
  | none =>
      match t with
      | [] => .null
      | b :: _ =>
          if b = byte '.' then ((parseFloat? t).map Implicit.float).getD .text
          else if Text.isDigit b ∨ b = byte '+' ∨ b = byte '-' then
            if dates ∧ isTimestamp t then .timestamp else (number? t).getD .text
          else .text

end Implicit

end RegisterMachine.Markup

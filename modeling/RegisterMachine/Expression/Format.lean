import RegisterMachine.Expression.Display

/-!
# Text formats

A format text with `%` conversions takes a datum, a tuple of data or the values of a
dictionary; a format text with braces takes positional and named data.
-/
namespace RegisterMachine.Expression

open Text (byte ofString)

/-- An integer in another base. -/
def inBase (base : Nat) (upper : Bool) (n : Int) : Text :=
  let digits := (Nat.toDigits base n.natAbs).map fun c =>
    byte (if upper then c.toUpper else c)
  if n < 0 then byte '-' :: digits else digits

/-- A number for a conversion to a floating-point text; large integers count as infinite. -/
def formatNumber? : Datum → Option Float
  | .int n => some (Floating.ofInt n)
  | .float x => some x
  | _ => none

/-- A floating-point number under a conversion letter. The capital form of `f` is known but
shows only itself for finite numbers. -/
def floatingText (conversion : UInt8) (x : Float) : Text :=
  if conversion = byte 'e' ∨ conversion = byte 'E' then
    Floating.scientificText (conversion = byte 'E') x
  else if conversion = byte 'f' then Floating.fixedText x
  else if conversion = byte 'F' then
    match Floating.parts? x with
    | some _ => ofString "%F"
    | none => Floating.specialText x
  else Floating.shortestText (conversion = byte 'G') x

/-- The character of a code point as text; a surrogate has the replacement character. -/
def codePointText? (n : Int) : Option Text :=
  if 0 ≤ n ∧ n ≤ 0x10FFFF then
    let code := n.toNat
    some (String.utf8EncodeChar (Char.ofNat (if Text.isScalar code then code else 0xFFFD)))
  else none

/-- A datum under a conversion letter. -/
def convert? (s : Store) (conversion : UInt8) (d : Datum) : Option Text :=
  if conversion = byte 's' then some (s.text d)
  else if conversion = byte 'r' then some (s.repr d)
  else if conversion = byte 'd' ∨ conversion = byte 'i' then d.toInt?.map Text.signedDecimal
  else if conversion = byte 'o' then d.toInt?.map (inBase 8 false)
  else if conversion = byte 'x' then d.toInt?.map (inBase 16 false)
  else if conversion = byte 'X' then d.toInt?.map (inBase 16 true)
  else if (ofString "eEfFgG").contains conversion then
    (formatNumber? d).map (floatingText conversion)
  else if conversion = byte 'c' then
    match d with
    | .int n => codePointText? n
    | .string t =>
        match t.characters with
        | [c] => some (String.utf8EncodeChar c)
        | _ => none
    | _ => none
  else if conversion = byte '%' then some [byte '%']
  else none

/-- Replaces conversions with data, with the text so far in reverse, in at most `fuel` steps.
A name between round brackets takes a value from the dictionary `named`, and uses up a position
all the same; without a dictionary the data have to be used up exactly. -/
def percentLoop (s : Store) (named : Option DictCell) :
    Nat → Text → Text → List Datum → Option Text
  | 0, _, _, _ => none
  | _ + 1, done, [], data => if data.isEmpty || named.isSome then some done.reverse else none
  | fuel + 1, done, b :: rest, data =>
      if b ≠ byte '%' then percentLoop s named fuel (b :: done) rest data
      else
        match rest with
        | [] => none
        | c :: more =>
            if c = byte '%' then percentLoop s named fuel (c :: done) more data
            else if c = byte '(' then do
              let cell ← named
              let key := more.takeWhile (· != byte ')')
              let d ← (cell.get? (.string key)).join
              match more.dropWhile (· != byte ')') with
              | _ :: conversion :: rest =>
                  let t ← convert? s conversion d
                  percentLoop s named fuel (t.reverse ++ done) rest (data.drop 1)
              | _ => none
            else
              match data with
              | [] => none
              | d :: data => do
                  let t ← convert? s c d
                  percentLoop s named fuel (t.reverse ++ done) more data

/-- The text of a format with `%` conversions. -/
def percent? (s : Store) (format : Text) (d : Datum) : Option Text :=
  let loop := percentLoop s
  match d with
  | .tuple items => loop none (format.length + 1) [] format items
  | .dict place => do loop (some (← s.dict? place)) (format.length + 1) [] format [d]
  | d => loop none (format.length + 1) [] format [d]

/-- How the fields of a format name their data so far. -/
inductive Numbering where
  | undecided
  | automatic (next : Nat)
  | manual
  deriving DecidableEq, Repr

/-- A field of a format: name and conversion. A width or other format is an error. -/
def field? (inside : Text) : Option (Text × Text) :=
  let name := inside.takeWhile (· != byte '!')
  let (name, rest) := match inside.dropWhile (· != byte '!') with
    | [] =>
        (name.takeWhile (· != byte ':'), ofString "s" ++ name.dropWhile (· != byte ':'))
    | _ :: rest => (name, rest)
  let conversion := rest.takeWhile (· != byte ':')
  match rest.dropWhile (· != byte ':') with
  | [] | [_] => some (name, conversion)
  | _ => none

/-- The number that a name of digits stands for, in wrapping arithmetic, with its value so far.
A name whose value turns negative on the way is no number. -/
def fieldNumber? : Int64 → Text → Option Nat
  | n, [] => some n.toInt.toNat
  | n, b :: rest =>
      if Text.isDigit b then
        let n := n * 10 + Int64.ofNat (b.toNat - 48)
        if n < 0 then none else fieldNumber? n rest
      else none

/-- The datum of a field, and the numbering afterwards. -/
def pick? (numbering : Numbering) (positional : List Datum) (named : List (Text × Datum))
    (name : Text) : Option (Datum × Numbering) :=
  if name.isEmpty then
    match numbering with
    | .manual => none
    | .undecided => (positional[0]?).map fun d => (d, .automatic 1)
    | .automatic next => (positional[next]?).map fun d => (d, .automatic (next + 1))
  else match fieldNumber? 0 name with
    | some n =>
        match numbering with
        | .automatic _ => none
        | _ => (positional[n]?).map fun d => (d, .manual)
    | none => (named.find? (·.1 == name)).map fun (_, d) => (d, numbering)

/-- Replaces fields between braces with data, with the text so far in reverse, in at most
`fuel` steps. Doubled braces stand for themselves. -/
def braceLoop (s : Store) (positional : List Datum) (named : List (Text × Datum)) :
    Nat → Numbering → Text → Text → Option Text
  | 0, _, _, _ => none
  | _ + 1, _, done, [] => some done.reverse
  | fuel + 1, numbering, done, b :: rest =>
      if b = byte '\x7d' then
        match rest with
        | c :: rest =>
            if c = b then braceLoop s positional named fuel numbering (b :: done) rest else none
        | [] => none
      else if b = byte '\x7b' then
        match rest with
        | [] => none
        | c :: more =>
            if c = b then braceLoop s positional named fuel numbering (b :: done) more
            else
              let inside := rest.takeWhile (· != byte '\x7d')
              match rest.dropWhile (· != byte '\x7d') with
              | [] => none
              | _ :: rest => do
                  let (name, conversion) ← field? inside
                  let (d, numbering) ← pick? numbering positional named name
                  let t ← if conversion = ofString "s" ∨ conversion = ofString "r" then
                    convert? s (if conversion = ofString "s" then byte 's' else byte 'r') d
                    else none
                  braceLoop s positional named fuel numbering (t.reverse ++ done) rest
      else braceLoop s positional named fuel numbering (b :: done) rest

/-- The text of a format with fields between braces. -/
def format? (s : Store) (format : Text) (positional : List Datum)
    (named : List (Text × Datum)) : Option Text :=
  braceLoop s positional named (format.length + 1) .undecided [] format

end RegisterMachine.Expression

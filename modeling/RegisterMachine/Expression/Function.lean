import RegisterMachine.Expression.Method
import RegisterMachine.Numeral

/-!
# Built-in functions

The functions that every expression knows, called with positional and named
arguments. A call that does not fit fails.
-/
namespace RegisterMachine.Expression

open Text (byte ofString)
open Numeral (valueIn? splitSign signed parseFloat?)

/-- Digits of a base behind a sign and, where it fits the base, a mark such as `0x`. Base zero
takes the base from the mark. -/
def parseInteger? (base : Nat) (t : Text) : Option Int := do
  let (negative, t) := splitSign t
  let marked : Nat := match t with
    | zero :: mark :: _ :: _ =>
        if zero ≠ byte '0' then 0
        else if mark = byte 'o' ∨ mark = byte 'O' then 8
        else if mark = byte 'x' ∨ mark = byte 'X' then 16
        else if mark = byte 'b' ∨ mark = byte 'B' then 2
        else 0
    | _ => 0
  let value : Nat ←
    if marked ≠ 0 ∧ (base = 0 ∨ base = marked) then valueIn? marked (t.drop 2)
    else if base = 0 then
      if 1 < t.length ∧ t.head? = some (byte '0') ∧ !t.all (· == byte '0') then none
      else valueIn? 10 t
    else valueIn? base t
  return signed negative value

/-- The number of a text, infinities and the number that is none included. -/
def floatOfText? (t : Text) : Option Float :=
  let (negative, word) := splitSign (t.map fun b => if Text.isLetter b then b ||| 32 else b)
  if word = ofString "infinity" ∨ word = ofString "inf" then
    some (if negative then -1.0 / 0.0 else 1.0 / 0.0)
  else if word = ofString "nan" then some (0.0 / 0.0)
  else parseFloat? t

/-- The code point of a text of one character, or the one byte of a string of bytes. -/
def codePoint? : Datum → Option Int
  | .string t =>
      match t.characters with
      | [c] => some c.toNat
      | _ => none
  | .bytes [b] => some b.toNat
  | _ => none

/-- The integer that a datum is converted to, in a base if it is a text. -/
def integer? (d : Datum) (base : Option Datum) : Option Int :=
  match d, base with
  | .string t, none => parseInteger? 10 t
  | .string t, some base => do
      let b ← base.toSmall?
      if b = 0 ∨ (2 ≤ b ∧ b ≤ 36) then parseInteger? b.toNat t else none
  | _, some _ => none
  | .bool b, none => some (if b then 1 else 0)
  | d, none => d.toInt?

/-- The floating-point number that a datum is converted to. -/
def floating? : Datum → Option Float
  | .bool b => some (if b then 1.0 else 0.0)
  | .string t => floatOfText? t
  | d => d.toFloat?

/-- The magnitude of a number. -/
def magnitude? : Datum → Option Datum
  | .int n => some (.int n.natAbs)
  | .float y => some (.float y.abs)
  | _ => none

/-- A string of bytes from a text or from numbers. -/
def byteString : Datum → Run Text
  | .string t => return t.repaired
  | .bytes t => return t
  | d => do
      let add (found : Text) (d : Datum) : Option Text := d.toByte?.map (· :: found)
      return (← Run.of ((← sequenceOf d).foldM add [])).reverse

/-- The range of one to three bounds. -/
def range? (args : List Datum) : Option Range := do
  match ← args.mapM Datum.toWord? with
  | [stop] => return ⟨0, stop, 1⟩
  | [start, stop] => return ⟨start, stop, 1⟩
  | [start, stop, step] => if step = 0 then none else return ⟨start, stop, step⟩
  | _ => none

/-- A number that depends on the characters of a text: a polynomial in 31 over 32 bits. -/
def textHash (t : Text) : Int :=
  (t.characters.foldl (fun (h : Int32) c => 31 * h + Int32.ofNat c.toNat) 0).toInt

/-- A number that depends on the bytes of a string: each byte is mixed in, then all is
multiplied by a prime. -/
def byteHash (t : Text) : Int :=
  (t.foldl (fun (h : UInt32) b => (h ^^^ b.toUInt32) * 16777619) 2166136261).toNat

def hash? : Datum → Option Int
  | .string t => some (textHash t)
  | .bytes t => some (byteHash t)
  | _ => none

/-- Tuples of elements at equal positions, `n` of them. -/
def zipLoop : Nat → Array Datum → List Sequence → Array Datum
  | 0, found, _ => found
  | n + 1, found, sequences =>
      let steps := sequences.filterMap Sequence.next?
      zipLoop n (found.push (.tuple (steps.map (·.1)))) (steps.map (·.2))

/-- Tuples of elements at equal positions, up to the end of the shortest sequence. -/
def zipped (sequences : List Sequence) : Array Datum :=
  match sequences.map Sequence.size with
  | [] => #[]
  | n :: sizes => zipLoop (sizes.foldl (fun a b => if a ≤ b then a else b) n) #[] sequences

/-- The arguments for parameters with given names: positional ones first, then named ones.
Nothing if there are too many, an unknown one or one given twice. -/
def bind? (parameters : List Text) (args : List Datum) (named : List (Text × Datum)) :
    Option (List (Option Datum)) :=
  let open_ := parameters.drop args.length
  if parameters.length < args.length then none
  else if named.any fun (n, _) => !open_.contains n then none
  else if !distinct (named.map (·.1)) then none
  else some (args.map some ++ open_.map fun p => (named.find? (·.1 == p)).map (·.2))

/-- A function that may be given by name: nothing if what is given is none. -/
def key? : Option Datum → Option (Option Datum)
  | none => some none
  | some d => if d.isCallable then some (some d) else none

/-- The key of a datum: itself, or what a function makes of it. -/
def keyOf (apply : Datum → List Datum → Run Datum) (key : Option Datum) (d : Datum) : Run Datum :=
  match key with
  | none => return d
  | some f => apply f [d]

/-- The first of several data whose key stands in the relation to all others. -/
def extremum (apply : Datum → List Datum → Run Datum) (r : Relation) (key : Option Datum)
    (d : Datum) : Run Datum :=
  whileReading d fun elements => do
    match elements.next? with
    | none => failure
    | some (first, rest) =>
        let start ← keyOf apply key first
        let better (held : Datum × Datum) (d : Datum) : Run (Datum × Datum) := do
          let k ← keyOf apply key d
          return if ← relate r k held.1 then (k, d) else held
        return (← rest.foldM better (start, first)).2

/-- The elements of a datum in the order of their keys. -/
def sortedBy (apply : Datum → List Datum → Run Datum) (key : Option Datum) (reverse : Bool)
    (d : Datum) : Run Datum := do
  let pairs ← whileReading d fun elements => elements.toList.mapM fun d => do
    return (← keyOf apply key d, d)
  let found ← Run.view fun s =>
    let less (a b : Datum × Datum) := s.relate? depthLimit .less a.1 b.1
    sort? (fun a b => if reverse then less b a else less a b) pairs
  newList (found.map (·.2)).toArray

/-- The text that a datum has when it is printed. -/
def Store.printedText (s : Store) : Datum → Text
  | .bytes t => t
  | d => s.text d

/-- Prints data on one line. -/
def printLine (sep : Text) (args : List Datum) : Run PUnit :=
  Run.change fun s =>
    { s with printed := Text.join sep (args.map s.printedText) :: s.printed }

/-- A function that takes any number of arguments or named ones. -/
def Builtin.callNamed (apply : Datum → List Datum → Run Datum) (f : Builtin) (args : List Datum)
    (named : List (Text × Datum)) : Run Datum := do
  match f with
  | .int =>
      match ← Run.of (bind? [ofString "x", ofString "base"] args named) with
      | [some x, base] => return .int (← Run.of (integer? x base))
      | _ => failure
  | .max | .min =>
      let d ← match args with
        | [] => failure
        | [d] => pure d
        | items => pure (.tuple items)
      match ← Run.of (bind? [ofString "key"] [] named) with
      | [key] =>
          let r : Relation := if f = .max then .greater else .less
          extremum apply r (← Run.of (key? key)) d
      | _ => failure
  | .sorted =>
      let parameters := [ofString "iterable", ofString "key", ofString "reverse"]
      match ← Run.of (bind? parameters args named) with
      | [some d, key, none] => sortedBy apply (← Run.of (key? key)) false d
      | [some d, key, some (.bool reverse)] => sortedBy apply (← Run.of (key? key)) reverse d
      | _ => failure
  | .dict =>
      match ← newDict .empty with
      | .dict place =>
          updateDict place args named
          return .dict place
      | _ => failure
  | .print =>
      match ← Run.of (bind? [ofString "sep"] [] named) with
      | [none] => printLine (ofString " ") args
      | [some (.string sep)] => printLine sep args
      | _ => failure
      return .nothing
  | _ => failure

/-- A function of positional arguments. -/
def Builtin.callPositional (f : Builtin) (args : List Datum) : Run Datum := do
  match f, args with
  | .bool, [] => return .bool false
  | .float, [] => return .float 0.0
  | .list, [] => newList #[]
  | .tuple, [] => return .tuple []
  | .abs, [x] => Run.of (magnitude? x)
  | .any, [x] => do
      let elements ← sequenceOf x
      return .bool (elements.any (← get).isTrue)
  | .all, [x] => do
      let elements ← sequenceOf x
      let s ← get
      return .bool !(elements.any fun d => !s.isTrue d)
  | .bool, [x] => return .bool ((← get).isTrue x)
  | .bytes, [x] => return .bytes (← byteString x)
  | .chr, [x] => return .string (← Run.of (x.toSmall?.bind codePointText?))
  | .dir, [x] => newTexts (methodNames x)
  | .float, [x] => return .float (← Run.of (floating? x))
  | .hash, [x] => return .int (← Run.of (hash? x))
  | .len, [x] => do
      let n ← Run.view (·.length? x)
      if n < 0 then failure
      return .int n
  | .list, [x] => newList (← elementsOf x).toArray
  | .ord, [x] => return .int (← Run.of (codePoint? x))
  | .repr, [x] => return .string ((← get).repr x)
  | .reversed, [x] => newList (← elementsOf x).toArray.reverse
  | .str, [.bytes t] => return .string t.repaired
  | .str, [x] => return .string ((← get).text x)
  | .tuple, [x] => return .tuple (← elementsOf x)
  | .type, [x] => return .string x.typeName
  | .enumerate, [x] => enumerated x 0
  | .enumerate, [x, start] => do enumerated x (← Run.of start.toWord?)
  | .getattr, [x, .string name] => do bindMethod (← Run.of (method? x name))
  | .getattr, [x, .string name, default] =>
      match method? x name with
      | some m => bindMethod m
      | none => return default
  | .hasattr, [x, .string name] => return .bool (method? x name).isSome
  | .range, args => return .range (← Run.of (range? args))
  | .zip, args => newList (zipped (← args.mapM sequenceOf))
  | _, _ => failure
where
  /-- The elements of a datum with their numbers. -/
  enumerated (x : Datum) (start : Int64) : Run Datum := do
    let number (found : Array Datum) (d : Datum) : Option (Array Datum) :=
      some (found.push (.tuple [.int (start + Int64.ofNat found.size).toInt, d]))
    newList (← Run.of ((← sequenceOf x).foldM number #[]))

/-- A function called. The keys of `sorted`, `max` and `min` come from calls with one argument,
which need no keys themselves: two units of fuel are enough. -/
def call : Nat → Datum → List Datum → List (Text × Datum) → Run Datum
  | 0, _, _, _ => failure
  | fuel + 1, f, args, named =>
      match f with
      | .builtin f =>
          if f = .int ∨ f = .max ∨ f = .min ∨ f = .sorted ∨ f = .dict ∨ f = .print then
            f.callNamed (fun g args => call fuel g args []) args named
          else if named.isEmpty then f.callPositional args
          else failure
      | .method _ m => m.call args named
      | _ => failure

end RegisterMachine.Expression

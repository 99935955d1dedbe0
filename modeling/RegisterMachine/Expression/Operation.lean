import RegisterMachine.Expression.Method
import RegisterMachine.Expression.Tree

/-!
# Operators

Arithmetic on numbers, joining and repeating of sequences, membership and
comparison, and the elements of data by position or key.
-/
namespace RegisterMachine.Expression

/-- The most bytes or elements that repetition may make. -/
def sizeLimit : Int := 1073741824

/-- How often a sequence of `length` elements is to be repeated; nothing if that is too often. -/
def repetitions? (length : Nat) (count : Int) : Option Nat := do
  if length = 0 then return 0
  let n ← (Datum.int count).toSmall?
  if sizeLimit ≤ length * n then none else return n.toNat

/-- The elements of a list, `n` times. -/
def repeated (n : Nat) (items : List Datum) : List Datum := (List.replicate n items).flatten

/-- A sequence repeated. -/
def repeatDatum (d : Datum) (count : Int) : Run Datum := do
  match d with
  | .string t => return .string (t.times (← Run.of (repetitions? t.length count)))
  | .bytes t => return .bytes (t.times (← Run.of (repetitions? t.length count)))
  | .tuple items => return .tuple (repeated (← Run.of (repetitions? items.length count)) items)
  | .list place =>
      let items ← Run.view (·.items? place)
      newList (repeated (← Run.of (repetitions? items.size count)) items.toList).toArray
  | _ => failure

/-- Largest left shift. -/
def shiftLimit : Int := 512

/-- An operator on two integers. -/
def integers? (op : Operator) (a b : Int) : Option Datum :=
  match op with
  | .add => some (.int (a + b))
  | .sub => some (.int (a - b))
  | .mul => some (.int (a * b))
  | .div => do
      let x ← Floating.ofInt? a
      let y ← Floating.ofInt? b
      if y == 0.0 then none else return .float (x / y)
  | .mod => if b = 0 then none else some (.int (Int.fmod a b))
  | .bitAnd => some (.int (bitwise (· && ·) a b))
  | .bitOr => some (.int (bitwise (· || ·) a b))
  | .bitXor => some (.int (bitwise xor a b))
  | .shiftLeft =>
      if b < 0 ∨ shiftLimit ≤ b then none else some (.int (a * (Nat.pow 2 b.toNat : Nat)))
  | .shiftRight =>
      if b < 0 ∨ 2147483647 < b then none else some (.int (Int.shiftRight a b.toNat))
  | _ => none
where
  /-- An operation on the bits of two's complement numbers. A negative number has the inverted
  bits of a natural one. -/
  bitwise (f : Bool → Bool → Bool) (a b : Int) : Int :=
    match a, b with
    | .ofNat m, .ofNat n => result f m n
    | .ofNat m, .negSucc n => result (fun x y => f x !y) m n
    | .negSucc m, .ofNat n => result (fun x y => f (!x) y) m n
    | .negSucc m, .negSucc n => result (fun x y => f (!x) !y) m n
  result (f : Bool → Bool → Bool) (m n : Nat) : Int :=
    if f false false then Int.negSucc (Nat.bitwise (fun x y => !(f x y)) m n)
    else Nat.bitwise f m n

/-- An operator on two floating-point numbers. -/
def floats? (op : Operator) (x y : Float) : Option Datum :=
  match op with
  | .add => some (.float (x + y))
  | .sub => some (.float (x - y))
  | .mul => some (.float (x * y))
  | .div => if y == 0.0 then none else some (.float (x / y))
  | .mod => if y == 0.0 then none else some (.float (Floating.floorMod x y))
  | _ => none

/-- A datum is an element of another one. What cannot be a key of a dictionary is in none. -/
def isIn (x : Datum) : Datum → Run Bool
  | .list place => do
      return (← positionOf x (← Run.view (·.items? place)).toList).isSome
  | .tuple items => do return (← positionOf x items).isSome
  | .dict place => do
      return match (← Run.view (·.dict? place)).get? x with
        | some (some _) => true
        | _ => false
  | .range r => do return r.contains (← Run.of x.toInt?)
  | .string t => do return (Text.indexOf? (← Run.of x.toText?) t).isSome
  | .bytes t =>
      match x with
      | .bytes part => return (Text.indexOf? part t).isSome
      | x => do return t.contains (← Run.of x.toByte?)
  | _ => failure

/-- The entries of two dictionaries; those of the second one win. -/
def union (a b : Nat) : Run Datum := do
  let x ← Run.view (·.dict? a)
  let y ← Run.view (·.dict? b)
  newDict (DictCell.putAll ⟨x.entries, 0, true⟩ y.entries.toList)

/-- Arithmetic on numbers and sequences. Bytes are no terms of a sum, except as literals that are
joined before. -/
def arithmetic (op : Operator) (x y : Datum) : Run Datum :=
  match x, y with
  | .int a, .int b => Run.of (integers? op a b)
  | .float a, .float b => Run.of (floats? op a b)
  | .int a, .float b => Run.of ((Floating.ofInt? a).bind fun a => floats? op a b)
  | .float a, .int b => Run.of ((Floating.ofInt? b).bind fun b => floats? op a b)
  | x, y =>
      match op, x, y with
      | .add, .string s, .string t => return .string (s ++ t)
      | .add, .tuple s, .tuple t => return .tuple (s ++ t)
      | .add, .list a, .list b => do
          newList ((← Run.view (·.items? a)) ++ (← Run.view (·.items? b)))
      | .mul, d, .int n => repeatDatum d n
      | .mul, .int n, d => repeatDatum d n
      | .mod, .string s, d => do return .string (← Run.view (percent? · s d))
      | .bitOr, .dict a, .dict b => union a b
      | _, _, _ => failure

def operate (op : Operator) (x y : Datum) : Run Datum :=
  match op with
  | .relation r => do return .bool (← relate r x y)
  | .isIn => do return .bool (← isIn x y)
  | .notIn => do return .bool !(← isIn x y)
  | op => arithmetic op x y

/-- An operator in an update. A list takes any sequence at its end, and a dictionary takes the
entries of another one; both stay what they are. -/
def operateInPlace (op : Operator) (x y : Datum) : Run Datum :=
  match op, x, y with
  | .add, .list place, y => do
      match (← get).sequence? y with
      | some _ =>
          extendList place y
          return .list place
      | none => failure
  | .bitOr, .dict place, .dict other => do
      let entries := (← Run.view (·.dict? other)).entries.toList
      changeDict place fun cell => some (.dict place, cell.putAll entries)
  | op, x, y => operate op x y

def operatePrefix (op : Prefix) (x : Datum) : Run Datum :=
  match op, x with
  | .negation, x => do return .bool !((← get).isTrue x)
  | .minus, .int n => return .int (-n)
  | .minus, .float y => return .float (-y)
  | .plus, .int n => return .int n
  | .plus, .float y => return .float y
  | .invert, .int n => return .int (-n - 1)
  | _, _ => failure

/-- A position in a sequence; negative positions count from the end. -/
def index? (length : Int) (i : Datum) : Option Nat := do
  let n ← i.toSmall?
  let n := if n < 0 then n + length else n
  if n < 0 ∨ length ≤ n then none else return n.toNat

/-- An element by its position or key. -/
def element (x i : Datum) : Run Datum := do
  match x with
  | .dict place => do Run.of (← Run.of ((← Run.view (·.dict? place)).get? i))
  | x =>
      let n ← Run.of (index? (← Run.view (·.length? x)) i)
      match x with
      | .string t => return .string [← Run.of (t[n]?)]
      | .bytes t => return .bytes [← Run.of (t[n]?)]
      | .view .elements t => return .string [← Run.of (t[n]?)]
      | .view .elementNumbers t => return .int (← Run.of (t[n]?)).toNat
      | .tuple items => Run.of (items[n]?)
      | .list place => Run.of ((← Run.view (·.items? place))[n]?)
      | .range r => return .int (r.element n).toInt
      | _ => failure

/-- Puts an element at a position of a list or a value at a key of a dictionary. -/
def putElement (x i d : Datum) : Run PUnit := do
  match x with
  | .dict place => putKey place i d
  | .list place =>
      let n ← Run.of (index? (← Run.view (·.items? place)).size i)
      changeList place (·.setIfInBounds n d)
  | _ => failure

end RegisterMachine.Expression

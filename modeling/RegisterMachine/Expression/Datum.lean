import RegisterMachine.Expression.Range
import RegisterMachine.Floating

/-!
# Data of expressions

Expressions compute with integers of any size, floating-point numbers, texts, tuples,
lists, dictionaries and functions. Lists and dictionaries can be changed while others
hold them, so a datum only names the place at which one is stored. A method is bound
to what stands before its dot and has a number of its own, by which it is told from
other methods.
-/
namespace RegisterMachine.Expression

open Text (ofString)

/-- The functions that every expression knows. -/
inductive Builtin where
  | abs
  | any
  | all
  | bool
  | bytes
  | chr
  | dict
  | dir
  | enumerate
  | fail
  | float
  | getattr
  | hasattr
  | hash
  | int
  | len
  | list
  | max
  | min
  | ord
  | print
  | range
  | repr
  | reversed
  | sorted
  | str
  | tuple
  | type
  | zip
  deriving DecidableEq, Repr

def Builtin.names : List (Text × Builtin) :=
  [("abs", .abs), ("any", .any), ("all", .all), ("bool", .bool), ("bytes", .bytes),
    ("chr", .chr), ("dict", .dict), ("dir", .dir), ("enumerate", .enumerate), ("fail", .fail),
    ("float", .float), ("getattr", .getattr), ("hasattr", .hasattr), ("hash", .hash),
    ("int", .int), ("len", .len), ("list", .list), ("max", .max), ("min", .min), ("ord", .ord),
    ("print", .print), ("range", .range), ("repr", .repr), ("reversed", .reversed),
    ("sorted", .sorted), ("str", .str), ("tuple", .tuple), ("type", .type), ("zip", .zip)].map
    fun (name, f) => (ofString name, f)

/-- The methods of texts. -/
inductive TextMethod where
  | capitalize
  | codePointNumbers
  | codePoints
  | count
  | elementNumbers
  | elements
  | endsWith
  | find
  | format
  | position
  | isLettersOrDigits
  | isLetters
  | isDigits
  | isLower
  | isBlank
  | isTitle
  | isUpper
  | join
  | lower
  | stripLeft
  | cut
  | removeStart
  | removeEnd
  | replace
  | findLast
  | positionLast
  | cutLast
  | splitLast
  | stripRight
  | split
  | splitLines
  | startsWith
  | strip
  | title
  | upper
  deriving DecidableEq, Repr

def TextMethod.names : List (Text × TextMethod) :=
  [("capitalize", .capitalize), ("codepoint_ords", .codePointNumbers),
    ("codepoints", .codePoints), ("count", .count), ("elem_ords", .elementNumbers),
    ("elems", .elements), ("endswith", .endsWith), ("find", .find), ("format", .format),
    ("index", .position), ("isalnum", .isLettersOrDigits), ("isalpha", .isLetters),
    ("isdigit", .isDigits), ("islower", .isLower), ("isspace", .isBlank),
    ("istitle", .isTitle), ("isupper", .isUpper), ("join", .join), ("lower", .lower),
    ("lstrip", .stripLeft), ("partition", .cut), ("removeprefix", .removeStart),
    ("removesuffix", .removeEnd), ("replace", .replace), ("rfind", .findLast),
    ("rindex", .positionLast), ("rpartition", .cutLast), ("rsplit", .splitLast),
    ("rstrip", .stripRight), ("split", .split), ("splitlines", .splitLines),
    ("startswith", .startsWith), ("strip", .strip), ("title", .title), ("upper", .upper)].map
    fun (name, m) => (ofString name, m)

/-- The methods of lists. -/
inductive ListMethod where
  | append
  | clear
  | extend
  | position
  | insert
  | pop
  | remove
  deriving DecidableEq, Repr

def ListMethod.names : List (Text × ListMethod) :=
  [("append", .append), ("clear", .clear), ("extend", .extend), ("index", .position),
    ("insert", .insert), ("pop", .pop), ("remove", .remove)].map
    fun (name, m) => (ofString name, m)

/-- The methods of dictionaries. -/
inductive DictMethod where
  | clear
  | get
  | items
  | keys
  | pop
  | popItem
  | setDefault
  | update
  | values
  deriving DecidableEq, Repr

/-- The methods of dictionaries with their names, in byte order. -/
def DictMethod.names : List (Text × DictMethod) :=
  [("clear", .clear), ("get", .get), ("items", .items), ("keys", .keys), ("pop", .pop),
    ("popitem", .popItem), ("setdefault", .setDefault), ("update", .update),
    ("values", .values)].map
    fun (name, m) => (ofString name, m)

/-- A method with what it is bound to. Strings of bytes have one method only, which gives
their elements. -/
inductive Method where
  | ofText (m : TextMethod) (t : Text)
  | ofBytes (t : Text)
  | ofList (m : ListMethod) (place : Nat)
  | ofDict (m : DictMethod) (place : Nat)
  deriving DecidableEq, Repr

/-- Ways to go through a text: by bytes or by characters, as texts or as numbers. -/
inductive View where
  | elements
  | elementNumbers
  | codePoints
  | codePointNumbers
  /-- The bytes of a string of bytes, as numbers. -/
  | byteNumbers
  deriving DecidableEq, Repr

/-- A value of an expression. -/
inductive Datum where
  | nothing
  | bool (b : Bool)
  | int (n : Int)
  | float (x : Float)
  | string (t : Text)
  | bytes (t : Text)
  | tuple (items : List Datum)
  | list (place : Nat)
  | dict (place : Nat)
  | range (r : Range)
  | view (v : View) (t : Text)
  | builtin (f : Builtin)
  | method (number : Nat) (m : Method)

namespace Datum

instance : Inhabited Datum := ⟨.nothing⟩

def typeName : Datum → Text
  | .nothing => ofString "NoneType"
  | .bool _ => ofString "bool"
  | .int _ => ofString "int"
  | .float _ => ofString "float"
  | .string _ => ofString "string"
  | .bytes _ => ofString "bytes"
  | .tuple _ => ofString "tuple"
  | .list _ => ofString "list"
  | .dict _ => ofString "dict"
  | .range _ => ofString "range"
  | .view .elements _ | .view .elementNumbers _ => ofString "string.elems"
  | .view .codePoints _ | .view .codePointNumbers _ => ofString "string.codepoints"
  | .view .byteNumbers _ => ofString "bytes.elems"
  | .builtin _ | .method _ _ => ofString "builtin_function_or_method"

def toInt? : Datum → Option Int
  | .int n => some n
  | .float x => (Floating.parts? x).map (·.truncated)
  | _ => none

/-- The floating-point number of a number; an integer may be too large for one. -/
def toFloat? : Datum → Option Float
  | .int n => Floating.ofInt? n
  | .float x => some x
  | _ => none

/-- An integer of 32 bits. -/
def toSmall? : Datum → Option Int
  | .int n => if -2147483648 ≤ n ∧ n ≤ 2147483647 then some n else none
  | _ => none

/-- An integer that fits a machine word. -/
def toWord? : Datum → Option Int64
  | .int n =>
      if -9223372036854775808 ≤ n ∧ n ≤ 9223372036854775807 then some (Int64.ofInt n) else none
  | _ => none

/-- An integer that fits a byte. -/
def toByte? : Datum → Option UInt8
  | .int n => if 0 ≤ n ∧ n ≤ 255 then some n.toNat.toUInt8 else none
  | _ => none

def toText? : Datum → Option Text
  | .string t => some t
  | _ => none

def isCallable : Datum → Bool
  | .builtin _ | .method _ _ => true
  | _ => false

/-- Byte order of texts. -/
def compareText (a b : Text) : Ordering :=
  if a == b then .eq else if a.before b then .lt else .gt

/-- Numbers in order, with the one that is none behind all others. -/
def compareFloat (x y : Float) : Ordering :=
  if x < y then .lt else if y < x then .gt else if x == y then .eq
  else if x == x then .lt else if y == y then .gt else .eq

/-- An integer against a floating-point number. -/
def compareMixed (n : Int) (y : Float) : Ordering :=
  match Floating.parts? y with
  | some p => Floating.compareInt n p
  | none => if y.isNaN || 0 < y then .lt else .gt

/-- The order of two data of types that are ordered by themselves, without regard to others. -/
def compareAtoms? : Datum → Datum → Option Ordering
  | .bool a, .bool b => some (compare a.toNat b.toNat)
  | .int a, .int b => some (compare a b)
  | .float x, .float y => some (compareFloat x y)
  | .int a, .float y => some (compareMixed a y)
  | .float x, .int b => some (compareMixed b x).swap
  | .string a, .string b => some (compareText a b)
  | .bytes a, .bytes b => some (compareText a b)
  | _, _ => none

/-- Data that have no order are the same or not. -/
def same : Datum → Datum → Bool
  | .nothing, .nothing => true
  | .range a, .range b => a.equal b
  | .view v a, .view w b => v == w && a == b
  | .builtin f, .builtin g => f == g
  | .method m _, .method n _ => m == n
  | _, _ => false

mutual

/-- Keys that a dictionary does not tell apart. -/
def alike : Datum → Datum → Bool
  | .tuple a, .tuple b => alikeItems a b
  | x, y =>
      match compareAtoms? x y with
      | some o => o == .eq
      | none => same x y

def alikeItems : List Datum → List Datum → Bool
  | [], [] => true
  | x :: xs, y :: ys => alike x y && alikeItems xs ys
  | _, _ => false

end

mutual

/-- A datum that never changes, so that it can be the key of a dictionary. -/
def isKey : Datum → Bool
  | .tuple items => areKeys items
  | .list _ | .dict _ | .range _ | .view _ _ => false
  | _ => true

def areKeys : List Datum → Bool
  | [] => true
  | x :: xs => isKey x && areKeys xs

end

mutual

/-- How deep tuples are nested. -/
def nesting : Datum → Nat
  | .tuple items => nestingItems items + 1
  | _ => 1

def nestingItems : List Datum → Nat
  | [] => 0
  | x :: xs =>
      let here := nesting x
      let behind := nestingItems xs
      if here ≤ behind then behind else here

end

end Datum

/-- What a name stands for in every expression. -/
def universal? (name : Text) : Option Datum :=
  if name = ofString "None" then some .nothing
  else if name = ofString "True" then some (.bool true)
  else if name = ofString "False" then some (.bool false)
  else (Builtin.names.find? (·.1 == name)).map fun (_, f) => .builtin f

/-- The method that stands behind a dot. -/
def method? (x : Datum) (name : Text) : Option Method :=
  match x with
  | .string t => (TextMethod.names.find? (·.1 == name)).map fun (_, m) => .ofText m t
  | .bytes t => if name = ofString "elems" then some (.ofBytes t) else none
  | .list place => (ListMethod.names.find? (·.1 == name)).map fun (_, m) => .ofList m place
  | .dict place => (DictMethod.names.find? (·.1 == name)).map fun (_, m) => .ofDict m place
  | _ => none

/-- The names of the methods of a datum, in byte order. -/
def methodNames : Datum → List Text
  | .string _ => TextMethod.names.map (·.1)
  | .bytes _ => [ofString "elems"]
  | .list _ => ListMethod.names.map (·.1)
  | .dict _ => DictMethod.names.map (·.1)
  | _ => []

/-- The name of a method, and the type of what it is bound to. -/
def Method.title : Method → Text × Text
  | .ofText m _ => (nameOf TextMethod.names m, ofString "string")
  | .ofBytes _ => (ofString "elems", ofString "bytes")
  | .ofList m _ => (nameOf ListMethod.names m, ofString "list")
  | .ofDict m _ => (nameOf DictMethod.names m, ofString "dict")
where
  nameOf {α : Type} [BEq α] (names : List (Text × α)) (m : α) : Text :=
    ((names.find? (·.2 == m)).map (·.1)).getD []

end RegisterMachine.Expression

import RegisterMachine.Expression.Datum
import RegisterMachine.Text.Utf8

/-!
# Stored data

Lists and dictionaries are kept in a store, where they can be changed. While one is
gone through it cannot be changed. The store also holds the variables and what was
printed. A computation over the store gives a datum or fails; in both cases the store
shows what it did.
-/
namespace RegisterMachine.Expression

/-- A list with the number of readers that are going through it. -/
structure ListCell where
  items : Array Datum
  readers : Nat

/-- A dictionary with the number of readers that are going through it. -/
structure DictCell where
  /-- Keys and values in the order in which the keys came in. -/
  entries : Array (Datum × Datum)
  readers : Nat
  /-- Something was put in at some time, or the dictionary was made from others. -/
  used : Bool

/-- A variable that a statement assigns or loads, or one of the comprehension at a site. -/
inductive Variable where
  | outer (name : Text)
  | loaded (name : Text)
  | inner (site : Nat) (name : Text)
  deriving DecidableEq, Repr

structure Store where
  lists : Array ListCell
  dicts : Array DictCell
  /-- The number of methods bound so far. -/
  methods : Nat
  /-- The variables that have a value, with it. -/
  values : List (Variable × Datum)
  /-- The lines printed, the latest first. -/
  printed : List Text

def Store.empty : Store := ⟨#[], #[], 0, [], []⟩

/-- A computation over the store that may fail. -/
abbrev Run := OptionT (StateM Store)

namespace Run

/-- The value of an option; none is a failure. -/
def of {α : Type} (a : Option α) : Run α := OptionT.mk (pure a)

/-- What a function of the store gives; none is a failure. -/
def view {α : Type} (f : Store → Option α) : Run α := OptionT.mk do return f (← get)

def change (f : Store → Store) : Run PUnit := OptionT.lift (modify f)

end Run

namespace Store

def items? (s : Store) (place : Nat) : Option (Array Datum) := (s.lists[place]?).map (·.items)

def dict? (s : Store) (place : Nat) : Option DictCell := s.dicts[place]?

/-- The value of a variable; nothing if it has none yet. -/
def value? (s : Store) (v : Variable) : Option Datum :=
  (s.values.find? (·.1 == v)).map (·.2)

def assign (s : Store) (v : Variable) (d : Datum) : Store :=
  { s with values := put s.values }
where
  put : List (Variable × Datum) → List (Variable × Datum)
    | [] => [(v, d)]
    | (w, e) :: rest => if w = v then (v, d) :: rest else (w, e) :: put rest

/-- The number of elements; nothing for data without length. A range can have a negative one. -/
def length? (s : Store) : Datum → Option Int
  | .string t | .bytes t => some t.length
  | .tuple items => some items.length
  | .list place => (s.items? place).map fun items => items.size
  | .dict place => (s.dict? place).map fun cell => cell.entries.size
  | .range r => some r.length.toInt
  | .view .elements t | .view .elementNumbers t => some t.length
  | _ => none

/-- What counts as true in a condition. -/
def isTrue (s : Store) : Datum → Bool
  | .nothing => false
  | .bool b => b
  | .int n => n != 0
  | .float x => x != 0.0
  | .view _ _ | .builtin _ | .method _ _ => true
  | d =>
      match s.length? d with
      | some n => 0 < n
      | none => true

end Store

def newList (items : Array Datum) : Run Datum := OptionT.lift <| modifyGet fun s =>
  let place := s.lists.size
  (.list place, { s with lists := s.lists.push ⟨items, 0⟩ })

def newTexts (ts : List Text) : Run Datum := newList (ts.map Datum.string).toArray

/-- Nobody goes through a list. -/
def listIsFree (place : Nat) (s : Store) : Bool :=
  match s.lists[place]? with
  | some cell => cell.readers == 0
  | none => false

/-- Changes the elements of a list that nobody goes through. -/
def changeList (place : Nat) (f : Array Datum → Array Datum) : Run PUnit := do
  if listIsFree place (← get) then
    Run.change fun s =>
      { s with lists := s.lists.modify place fun cell => { cell with items := f cell.items } }
  else failure

/-- Nested data are compared down to this depth. -/
def depthLimit : Nat := 10

namespace DictCell

def empty : DictCell := ⟨#[], 0, false⟩

/-- The position of a key, if it is there. Fails for what cannot be a key, and if the key is
there but nested too deep. -/
def position? (cell : DictCell) (key : Datum) : Option (Option Nat) :=
  if !key.isKey then none
  else match cell.entries.findIdx? fun entry => key.alike entry.1 with
    | some i => if key.nesting ≤ depthLimit then some (some i) else none
    | none => some none

/-- The value of a key, if it is there. -/
def get? (cell : DictCell) (key : Datum) : Option (Option Datum) := do
  match ← cell.position? key with
  | some i => return (cell.entries[i]?).map (·.2)
  | none => return none

/-- Puts in a value: in place of the one of the same key, or at the end. -/
def put? (cell : DictCell) (key value : Datum) : Option DictCell := do
  let entries := match ← cell.position? key with
    | some i => cell.entries.modify i fun entry => (entry.1, value)
    | none => cell.entries.push (key, value)
  return { cell with entries, used := true }

/-- Puts in several values, up to the first that cannot be put in. -/
def putAll (cell : DictCell) : List (Datum × Datum) → DictCell
  | [] => cell
  | (key, value) :: rest =>
      match cell.put? key value with
      | some cell => cell.putAll rest
      | none => cell

/-- Takes out a key with its value, if it is there. A dictionary in which there never was
anything does not look at the key. -/
def take? (cell : DictCell) (key : Datum) : Option (Option Datum × DictCell) :=
  if !cell.used then some (none, cell)
  else do
    match ← cell.position? key with
    | some i =>
        return ((cell.entries[i]?).map (·.2), { cell with entries := cell.entries.eraseIdxIfInBounds i })
    | none => return (none, cell)

end DictCell

def newDict (cell : DictCell) : Run Datum := OptionT.lift <| modifyGet fun s =>
  let place := s.dicts.size
  (.dict place, { s with dicts := s.dicts.push cell })

/-- Changes a dictionary that nobody goes through. -/
def changeDict {α : Type} (place : Nat) (f : DictCell → Option (α × DictCell)) : Run α := do
  let cell ← Run.view (·.dict? place)
  if cell.readers = 0 then
    let (a, cell) ← Run.of (f cell)
    Run.change fun s => { s with dicts := s.dicts.setIfInBounds place cell }
    return a
  else failure

def putKey (place : Nat) (key value : Datum) : Run PUnit :=
  changeDict place fun cell => (cell.put? key value).map fun cell => (⟨⟩, cell)

/-- Puts in several values. -/
def putKeys (place : Nat) : List (Datum × Datum) → Run PUnit
  | [] => pure ⟨⟩
  | (key, value) :: rest => do
      putKey place key value
      putKeys place rest

/-- A method bound anew: it differs from all others. -/
def bindMethod (m : Method) : Run Datum := OptionT.lift <| modifyGet fun s =>
  (.method s.methods m, { s with methods := s.methods + 1 })

/-- What is still to be gone through. -/
inductive Sequence where
  | items (xs : List Datum)
  | count (next step : Int64) (n : Nat)

namespace Sequence

/-- The next element and what comes behind it. -/
def next? : Sequence → Option (Datum × Sequence)
  | .items [] => none
  | .items (x :: xs) => some (x, .items xs)
  | .count _ _ 0 => none
  | .count x step (n + 1) => some (.int x.toInt, .count (x + step) step n)

def size : Sequence → Nat
  | .items xs => xs.length
  | .count _ _ n => n

/-- Counts `n` elements, with what was found so far in reverse. -/
def countLoop (step : Int64) : Nat → Int64 → List Datum → List Datum
  | 0, _, found => found.reverse
  | n + 1, x, found => countLoop step n (x + step) (.int x.toInt :: found)

def toList : Sequence → List Datum
  | .items xs => xs
  | .count x step n => countLoop step n x []

/-- The first elements, in at most `n` steps, and what comes behind them. -/
def splitAt : Nat → Sequence → List Datum × Sequence
  | 0, s => ([], s)
  | n + 1, s =>
      match s.next? with
      | none => ([], s)
      | some (x, s) =>
          let (xs, s) := splitAt n s
          (x :: xs, s)

/-- Goes through counted elements. -/
def foldCount {m : Type → Type} [Monad m] {β : Type} (f : β → Datum → m β) (step : Int64) :
    Nat → Int64 → β → m β
  | 0, _, b => pure b
  | n + 1, x, b => do
      let b ← f b (.int x.toInt)
      foldCount f step n (x + step) b

/-- Goes through all elements until one fails. -/
def foldM {m : Type → Type} [Monad m] {β : Type} (f : β → Datum → m β) (b : β) :
    Sequence → m β
  | .items xs => xs.foldlM f b
  | .count x step n => foldCount f step n x b

/-- Some counted element passes a test. -/
def anyCount (p : Datum → Bool) (step : Int64) : Nat → Int64 → Bool
  | 0, _ => false
  | n + 1, x => p (.int x.toInt) || anyCount p step n (x + step)

/-- Some element passes a test. Elements behind it are not looked at. -/
def any (p : Datum → Bool) : Sequence → Bool
  | .items xs => xs.any p
  | .count x step n => anyCount p step n x

end Sequence

/-- The elements of a view of a text. -/
def View.elementsOf (t : Text) : View → List Datum
  | .elements => t.map fun b => .string [b]
  | .elementNumbers | .byteNumbers => t.map fun b => .int b.toNat
  | .codePoints => t.characters.map fun c => .string (String.utf8EncodeChar c)
  | .codePointNumbers => t.characters.map fun c => .int c.toNat

/-- What there is to go through in a datum. Texts have to be viewed in some way first. -/
def Store.sequence? (s : Store) : Datum → Option Sequence
  | .tuple items => some (.items items)
  | .list place => (s.items? place).map fun items => .items items.toList
  | .dict place => (s.dict? place).map fun cell => .items (cell.entries.map (·.1)).toList
  | .range r => some (.count r.start r.step r.count)
  | .view v t => some (.items (v.elementsOf t))
  | _ => none

/-- What there is to go through. -/
def sequenceOf (d : Datum) : Run Sequence := Run.view (·.sequence? d)

/-- All elements. -/
def elementsOf (d : Datum) : Run (List Datum) := return (← sequenceOf d).toList

/-- Changes the number of readers of what can be changed. -/
def countReaders (f : Nat → Nat) : Datum → Run PUnit
  | .list place => Run.change fun s =>
      { s with lists := s.lists.modify place fun cell => { cell with readers := f cell.readers } }
  | .dict place => Run.change fun s =>
      { s with dicts := s.dicts.modify place fun cell => { cell with readers := f cell.readers } }
  | _ => pure ⟨⟩

/-- Goes through the elements of a datum, which cannot be changed meanwhile. -/
def whileReading {α : Type} (d : Datum) (body : Sequence → Run α) : Run α := do
  let elements ← sequenceOf d
  countReaders (· + 1) d
  let a ← body elements
  countReaders (· - 1) d
  return a

end RegisterMachine.Expression

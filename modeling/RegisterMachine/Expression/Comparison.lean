import RegisterMachine.Expression.Store
import RegisterMachine.Expression.Token

/-!
# Comparing data

Numbers compare with numbers, and everything else with its own type only. Sequences
compare at the first place where they differ. Data of different types are not equal
and have no order. Nested data are looked into down to a fixed depth; what would have
to be compared below it cannot be compared.
-/
namespace RegisterMachine.Expression

/-- The relation holds between two data in a given order. -/
def Relation.holds : Relation → Ordering → Bool
  | .equal, o => o == .eq
  | .notEqual, o => o != .eq
  | .less, o => o == .lt
  | .lessEqual, o => o != .gt
  | .greater, o => o == .gt
  | .greaterEqual, o => o != .lt

/-- The relation between data that are equal or not and have no order. -/
def Relation.ofEquality? : Relation → Bool → Option Bool
  | .equal, same => some same
  | .notEqual, same => some !same
  | _, _ => none

/-- The relation between sequences, given the one between elements. -/
def relateItems? (relate : Relation → Datum → Datum → Option Bool) (r : Relation) :
    List Datum → List Datum → Option Bool
  | [], [] => some (r.holds .eq)
  | [], _ :: _ => some (r.holds .lt)
  | _ :: _, [] => some (r.holds .gt)
  | x :: xs, y :: ys =>
      match relate .equal x y with
      | none => none
      | some true => relateItems? relate r xs ys
      | some false =>
          match r with
          | .equal => some false
          | .notEqual => some true
          | r => relate r x y

/-- The relation between sequences; of different lengths they are known not to be equal. -/
def relateSequences? (relate : Relation → Datum → Datum → Option Bool) (r : Relation)
    (xs ys : List Datum) : Option Bool :=
  if (r = .equal ∨ r = .notEqual) ∧ xs.length ≠ ys.length then some (r = .notEqual)
  else relateItems? relate r xs ys

/-- Every key of the first dictionary is in the second one, with an equal value. -/
def equalEntries? (relate : Relation → Datum → Datum → Option Bool) (other : DictCell) :
    List (Datum × Datum) → Option Bool
  | [] => some true
  | (key, value) :: rest =>
      match other.get? key with
      | some (some found) =>
          match relate .equal value found with
          | none => none
          | some false => some false
          | some true => equalEntries? relate other rest
      | _ => some false

/-- The relation between two data, looking into them down to a depth. -/
def Store.relate? (s : Store) : Nat → Relation → Datum → Datum → Option Bool
  | 0, _, _, _ => none
  | depth + 1, r, x, y =>
      match x, y with
      | .tuple xs, .tuple ys => relateSequences? (s.relate? depth) r xs ys
      | .list a, .list b => do
          let xs ← s.items? a
          let ys ← s.items? b
          relateSequences? (s.relate? depth) r xs.toList ys.toList
      | .dict a, .dict b => do
          let x ← s.dict? a
          let y ← s.dict? b
          let same ← if r ≠ .equal ∧ r ≠ .notEqual then none
            else if x.entries.size ≠ y.entries.size then some false
            else equalEntries? (s.relate? depth) y x.entries.toList
          r.ofEquality? same
      | x, y =>
          match Datum.compareAtoms? x y with
          | some o => some (r.holds o)
          | none => r.ofEquality? (x.same y)

/-- The relation between two data. -/
def relate (r : Relation) (x y : Datum) : Run Bool := Run.view (·.relate? depthLimit r x y)

/-- Two data are equal. -/
def equal (x y : Datum) : Run Bool := relate .equal x y

/-- The first position of an element that is equal to a datum, from position `n` on. -/
def Store.positionLoop? (s : Store) (d : Datum) : Nat → List Datum → Option (Option Nat)
  | _, [] => some none
  | n, x :: xs =>
      match s.relate? depthLimit .equal x d with
      | none => none
      | some true => some (some n)
      | some false => s.positionLoop? d (n + 1) xs

/-- The first position of an element that is equal to a datum. -/
def positionOf (d : Datum) (xs : List Datum) : Run (Option Nat) :=
  Run.view (·.positionLoop? d 0 xs)

/-- Merges two sorted lists; of equal elements those of the first list come first. -/
def mergeLoop? {α : Type} (less : α → α → Option Bool) :
    Nat → List α → List α → List α → Option (List α)
  | _, found, [], ys => some (found.reverse ++ ys)
  | _, found, xs, [] => some (found.reverse ++ xs)
  | 0, _, _ :: _, _ :: _ => none
  | fuel + 1, found, x :: xs, y :: ys =>
      match less y x with
      | none => none
      | some true => mergeLoop? less fuel (y :: found) (x :: xs) ys
      | some false => mergeLoop? less fuel (x :: found) xs (y :: ys)

/-- The list sorted, in at most `fuel` halvings. Fails if elements cannot be compared: they
would have to stand next to each other somewhere. -/
def sortLoop? {α : Type} (less : α → α → Option Bool) : Nat → List α → Option (List α)
  | _, [] => some []
  | _, [x] => some [x]
  | 0, _ :: _ :: _ => none
  | fuel + 1, xs => do
      let half := xs.length / 2
      let front ← sortLoop? less fuel (xs.take half)
      let back ← sortLoop? less fuel (xs.drop half)
      mergeLoop? less xs.length [] front back

/-- The list in order, equal elements in the order in which they came. -/
def sort? {α : Type} (less : α → α → Option Bool) (xs : List α) : Option (List α) :=
  sortLoop? less (xs.length + 1) xs

end RegisterMachine.Expression

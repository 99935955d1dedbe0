import RegisterMachine.Assembler.Basic
import RegisterMachine.Expression.Function
import RegisterMachine.Expression.Operation
import RegisterMachine.Expression.Scope

/-!
# Evaluating expressions

An expression is the first assignment of a short text: the value asked for is the
one that its variable has when the whole text has run. Whatever goes wrong, there is
no value. The variables of a comprehension keep their values from one time it is
evaluated to the next, so that one may be read before a loop assigns it again.
-/
namespace RegisterMachine.Expression

open Text (ofString)

/-- The names in view. -/
structure Scope where
  /-- The comprehensions around, the innermost first, with the names that they bind. -/
  inner : List (Nat × List Text)
  /-- The names that statements bind. -/
  outer : Bindings
  constants : NameTable

/-- The variable of a comprehension around that a name means, if it means one. -/
def Scope.innerVariable? (scope : Scope) (name : Text) : Option Variable :=
  (scope.inner.find? fun (_, names) => names.contains name).map fun (site, _) => .inner site name

/-- The variable that an assignment to a name changes. -/
def Scope.target (scope : Scope) (name : Text) : Variable :=
  (scope.innerVariable? name).getD (.outer name)

/-- The variable that a name means; nothing if it means a constant. A loaded name hides one that
is assigned. -/
def Scope.meaning? (scope : Scope) (name : Text) : Option Variable :=
  match scope.innerVariable? name with
  | some v => some v
  | none =>
      if scope.outer.loaded.contains name then some (.loaded name)
      else if scope.outer.assigned.contains name then some (.outer name)
      else none

/-- What a name stands for; a variable that has no value yet is a failure. -/
def Scope.lookUp (scope : Scope) (name : Text) : Run Datum :=
  match scope.meaning? name with
  | some v => Run.view (·.value? v)
  | none =>
      match scope.constants.find? name with
      | some n => return .int n.toInt
      | none => Run.of (universal? name)

/-- The arguments of a call as they are evaluated. -/
structure Arguments where
  /-- Positional arguments, the latest first. -/
  positional : List Datum
  /-- Named arguments, the latest first. -/
  named : List (Text × Datum)
  /-- A sequence of further positional arguments. -/
  spread : Option Datum
  /-- A dictionary of further named arguments. -/
  spreadNamed : Option Datum

namespace Arguments

def empty : Arguments := ⟨[], [], none, none⟩

def add (a : Arguments) (d : Datum) : ArgumentRole → Arguments
  | .positional => { a with positional := d :: a.positional }
  | .named n => { a with named := (n, d) :: a.named }
  | .spread => { a with spread := some d }
  | .spreadNamed => { a with spreadNamed := some d }

/-- Further named arguments from a dictionary, whose keys have to be texts. -/
def moreNamed : Option Datum → Run (List (Text × Datum))
  | none => return []
  | some (.dict place) => do
      (← Run.view (·.dict? place)).entries.toList.mapM fun (key, value) => do
        return (← Run.of key.toText?, value)
  | some _ => failure

/-- Further positional arguments from a sequence. -/
def morePositional : Option Datum → Run (List Datum)
  | none => return []
  | some d => elementsOf d

/-- All arguments in order. -/
def all (a : Arguments) : Run (List Datum × List (Text × Datum)) := do
  let named ← moreNamed a.spreadNamed
  let positional ← morePositional a.spread
  return (a.positional.reverse ++ positional, a.named.reverse ++ named)

end Arguments

mutual

/-- The value of an expression, in at most `fuel` levels. -/
def eval : Nat → Scope → Tree → Run Datum
  | 0, _, _ => failure
  | fuel + 1, scope, t =>
      match t with
      | .name n => scope.lookUp n
      | .int n => return .int n
      | .float x => return .float x
      | .string t => return .string t
      | .bytes t => return .bytes t
      | .list items => do newList (← items.mapM (eval fuel scope)).toArray
      | .tuple items => do return .tuple (← items.mapM (eval fuel scope))
      | .emptyDict => newDict .empty
      | .prefixed op x => do operatePrefix op (← eval fuel scope x)
      | .binary .add x y => do
          let (first, rest) := x.terms y
          let a ← eval fuel scope first
          rest.foldlM (fun a x => do operate .add a (← eval fuel scope x)) a
      | .binary op x y => do
          let a ← eval fuel scope x
          let b ← eval fuel scope y
          operate op a b
      | .both x y => do
          let a ← eval fuel scope x
          if (← get).isTrue a then eval fuel scope y else return a
      | .either x y => do
          let a ← eval fuel scope x
          if (← get).isTrue a then return a else eval fuel scope y
      | .conditional condition yes no => do
          let c ← eval fuel scope condition
          if (← get).isTrue c then eval fuel scope yes else eval fuel scope no
      | .index x i => do
          let a ← eval fuel scope x
          let b ← eval fuel scope i
          element a b
      | .attribute x n => do
          let a ← eval fuel scope x
          bindMethod (← Run.of (method? a n))
      | .call f arguments => do
          let f ← eval fuel scope f
          let (args, named) ← evalArguments fuel scope .empty arguments
          call 2 f args named
      | .comprehension site body target source clauses => do
          let names := (target :: clauses.filterMap (·.1)).filterMap (targetNames? fuel)
          let inside := { scope with inner := (site, names.flatten) :: scope.inner }
          let d ← eval fuel scope source
          newList (← evalLoop fuel inside target d body clauses #[])

/-- Adds the elements of a comprehension for each element of the source of a loop. -/
def evalLoop : Nat → Scope → Tree → Datum → Tree → List (Option Tree × Tree) → Array Datum →
    Run (Array Datum)
  | 0, _, _, _, _, _, _ => failure
  | fuel + 1, scope, target, source, body, clauses, found =>
      whileReading source fun elements =>
        elements.foldM (fun found d => do
          assign fuel scope target d
          evalClauses fuel scope body clauses found) found

/-- Adds the elements of a comprehension under its remaining clauses. -/
def evalClauses : Nat → Scope → Tree → List (Option Tree × Tree) → Array Datum →
    Run (Array Datum)
  | 0, _, _, _, _ => failure
  | fuel + 1, scope, body, [], found => do
      let d ← eval fuel scope body
      return found.push d
  | fuel + 1, scope, body, (none, condition) :: clauses, found => do
      let c ← eval fuel scope condition
      if (← get).isTrue c then evalClauses fuel scope body clauses found else return found
  | fuel + 1, scope, body, (some target, source) :: clauses, found => do
      let d ← eval fuel scope source
      evalLoop fuel scope target d body clauses found

/-- Assigns a datum to a target. Several targets take the elements of a sequence of the same
length. Attributes cannot be changed. -/
def assign : Nat → Scope → Tree → Datum → Run PUnit
  | 0, _, _, _ => failure
  | fuel + 1, scope, target, d =>
      match target with
      | .name n => Run.change (·.assign (scope.target n) d)
      | .list targets | .tuple targets => do
          let (items, rest) := (← sequenceOf d).splitAt targets.length
          if items.length ≠ targets.length ∨ rest.size ≠ 0 then failure
          assignAll fuel scope (targets.zip items)
      | .index x i => do
          let x ← eval fuel scope x
          let i ← eval fuel scope i
          putElement x i d
      | .attribute x _ => do
          let _ ← eval fuel scope x
          failure
      | _ => failure

/-- Assigns data to targets in turn. -/
def assignAll : Nat → Scope → List (Tree × Datum) → Run PUnit
  | _, _, [] => pure ⟨⟩
  | 0, _, _ :: _ => failure
  | fuel + 1, scope, (target, d) :: rest => do
      assign fuel scope target d
      assignAll fuel scope rest

/-- The arguments of a call, with those so far. Sequences and dictionaries of arguments are
looked into when all are evaluated. -/
def evalArguments : Nat → Scope → Arguments → List (ArgumentRole × Tree) →
    Run (List Datum × List (Text × Datum))
  | _, _, a, [] => a.all
  | 0, _, _, _ :: _ => failure
  | fuel + 1, scope, a, (role, x) :: rest => do
      let d ← eval fuel scope x
      evalArguments fuel scope (a.add d role) rest

end

/-- Runs an update: the target is evaluated once, before the operand. -/
def update (fuel : Nat) (scope : Scope) (op : Operator) (target x : Tree) : Run PUnit :=
  match target with
  | .name n => do
      let held ← scope.lookUp n
      let d ← operateInPlace op held (← eval fuel scope x)
      assign fuel scope target d
  | .index container i => do
      let container ← eval fuel scope container
      let i ← eval fuel scope i
      let held ← element container i
      let d ← operateInPlace op held (← eval fuel scope x)
      putElement container i d
  | .attribute container n => do
      let held ← eval fuel scope (.attribute container n)
      let _ ← operateInPlace op held (← eval fuel scope x)
      failure
  | _ => failure

/-- Runs one statement. There is nowhere to load from. -/
def Statement.run (fuel : Nat) (scope : Scope) : Statement → Run PUnit
  | .pass => pure ⟨⟩
  | .evaluate x => do
      let _ ← eval fuel scope x
  | .assign target x => do
      let d ← eval fuel scope x
      Expression.assign fuel scope target d
  | .update op target x => Expression.update fuel scope op target x
  | .load _ => failure

/-- Runs statements in turn. -/
def runAll (fuel : Nat) (scope : Scope) : List Statement → Run PUnit
  | [] => pure ⟨⟩
  | s :: rest => do
      s.run fuel scope
      runAll fuel scope rest

/-- The variable of the value that is asked for. -/
def resultName : Text := ofString "rc"

/-- The value that is asked for when all statements have run. -/
def Store.result (s : Store) : Evaluation :=
  match s.value? (.outer resultName) with
  | some (.int n) => .integer n
  | some (.string t) => .text t
  | _ => .other

/-- The lines that were printed. -/
def Store.output (s : Store) : Text := s.printed.reverse.flatMap (· ++ [Text.newline])

/-- The value of an expression over named constants, and what it printed. Trees are no deeper
than their text is long, which bounds the levels. -/
def evaluate : Evaluator := fun constants t =>
  let text := resultName ++ ofString "=" ++ t ++ [Text.newline]
  let fuel := 16 * (text.length + 2)
  let prepared : Option (List Statement × Bindings) := do
    let statements ← parse? text
    return (statements, ← scope? fuel constants statements)
  match prepared with
  | none => (.failed, [])
  | some (statements, bound) =>
      match (runAll fuel ⟨[], bound, constants⟩ statements).run Store.empty with
      | (some _, s) => (s.result, s.output)
      | (none, s) => (.failed, s.output)

end RegisterMachine.Expression

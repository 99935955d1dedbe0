import RegisterMachine.Expression.Datum
import RegisterMachine.Expression.Tree
import RegisterMachine.NameTable

/-!
# Names in expressions

Before anything is evaluated, every name has to be known: as a variable of an
enclosing comprehension, as a name that some statement binds, as a constant or as
something that every expression knows. The statements of a text may bind a name only
once, and an update binds its name like an assignment.
-/
namespace RegisterMachine.Expression

/-- The names that an assignment binds, in at most `fuel` levels; nothing for what cannot be
assigned to. Elements and attributes can be assigned to and bind no name. -/
def targetNames? : Nat → Tree → Option (List Text)
  | 0, _ => none
  | fuel + 1, target =>
      match target with
      | .name n => some [n]
      | .list items | .tuple items => (items.mapM (targetNames? fuel)).map List.flatten
      | .index _ _ | .attribute _ _ => some []
      | _ => none

/-- The expressions that have to be evaluated before a target can be assigned to, in at most
`fuel` levels. -/
def targetParts : Nat → Tree → List Tree
  | 0, _ => []
  | fuel + 1, target =>
      match target with
      | .list items | .tuple items => items.flatMap (targetParts fuel)
      | .index x i => [x, i]
      | .attribute x _ => [x]
      | _ => []

/-- How far the arguments of a call have come. -/
inductive ArgumentStage where
  | positional
  | named
  | spread
  | spreadNamed
  deriving DecidableEq, Repr

/-- The kinds of arguments come in a fixed order, and no name comes twice. -/
def argumentsFit : ArgumentStage → List Text → List ArgumentRole → Bool
  | _, _, [] => true
  | stage, seen, role :: rest =>
      match role with
      | .positional => stage = .positional && argumentsFit stage seen rest
      | .named n =>
          (stage = .positional || stage = .named) && !seen.contains n
            && argumentsFit .named (n :: seen) rest
      | .spread => (stage = .positional || stage = .named) && argumentsFit .spread seen rest
      | .spreadNamed => stage ≠ .spreadNamed && argumentsFit .spreadNamed seen rest

def argumentLimit : Nat := 255

/-- A call has its arguments in order and not too many. -/
def argumentsAllowed (roles : List ArgumentRole) : Bool :=
  let positional := roles.countP (· == .positional)
  let spreads := roles.countP fun r => r == .spread || r == .spreadNamed
  argumentsFit .positional [] roles && positional ≤ argumentLimit
    && roles.length - positional - spreads ≤ argumentLimit

/-- Every name in an expression is known, in at most `fuel` levels. -/
def isScoped : Nat → (Text → Bool) → Tree → Bool
  | 0, _, _ => false
  | fuel + 1, known, t =>
      match t with
      | .name n => known n
      | .int _ | .float _ | .string _ | .bytes _ | .emptyDict => true
      | .list items | .tuple items => items.all (isScoped fuel known)
      | .prefixed _ x => isScoped fuel known x
      | .binary _ x y | .both x y | .either x y | .index x y =>
          isScoped fuel known x && isScoped fuel known y
      | .conditional c x y =>
          isScoped fuel known c && isScoped fuel known x && isScoped fuel known y
      | .attribute x _ => isScoped fuel known x
      | .call f arguments =>
          isScoped fuel known f && argumentsAllowed (arguments.map (·.1))
            && arguments.all fun (_, x) => isScoped fuel known x
      | .comprehension _ body target source clauses =>
          let targets := target :: clauses.filterMap (·.1)
          match targets.mapM (targetNames? fuel) with
          | none => false
          | some names =>
              let inside (n : Text) : Bool := names.flatten.contains n || known n
              isScoped fuel known source && isScoped fuel inside body
                && (targets.flatMap (targetParts fuel)).all (isScoped fuel inside)
                && clauses.all fun (_, x) => isScoped fuel inside x

/-- The names that the statements of a text bind. -/
structure Bindings where
  assigned : List Text
  loaded : List Text
  deriving DecidableEq, Repr

namespace Bindings

/-- Binds names by assignment; nothing if one of them is bound already. -/
def assign? (b : Bindings) : List Text → Option Bindings
  | [] => some b
  | n :: names =>
      if b.assigned.contains n || b.loaded.contains n then none
      else assign? { b with assigned := n :: b.assigned } names

def load? (b : Bindings) : List (Text × Text) → Option Bindings
  | [] => some b
  | (n, source) :: names =>
      if source.isEmpty || source.head? == some (Text.byte '_') || b.loaded.contains n then none
      else load? { b with loaded := n :: b.loaded } names

/-- The names bound by statements in turn; nothing if one is bound twice or if a target cannot be
assigned to. -/
def ofStatements? (fuel : Nat) : Bindings → List Statement → Option Bindings
  | b, [] => some b
  | b, .pass :: rest | b, .evaluate _ :: rest => ofStatements? fuel b rest
  | _, .update _ (.list _) _ :: _ | _, .update _ (.tuple _) _ :: _ => none
  | b, .assign target _ :: rest | b, .update _ target _ :: rest => do
      let b ← b.assign? (← targetNames? fuel target)
      ofStatements? fuel b rest
  | b, .load names :: rest => do
      let b ← b.load? names
      ofStatements? fuel b rest

end Bindings

/-- The expressions of a statement. -/
def Statement.expressions (fuel : Nat) : Statement → List Tree
  | .pass | .load _ => []
  | .evaluate x => [x]
  | .assign target x | .update _ target x => x :: targetParts fuel target

/-- The names that statements bind, if all names in them are known. -/
def scope? (fuel : Nat) (constants : NameTable) (statements : List Statement) :
    Option Bindings := do
  let b ← Bindings.ofStatements? fuel ⟨[], []⟩ statements
  let known (n : Text) : Bool :=
    b.assigned.contains n || b.loaded.contains n || constants.contains n || (universal? n).isSome
  if (statements.flatMap (Statement.expressions fuel)).all (isScoped fuel known) then
    return b
  else none

end RegisterMachine.Expression

import RegisterMachine.Expression.Token

/-!
# Syntax of expressions

Expressions are parsed by recursive descent with operator precedences. From weakest
to strongest: `or`, `and`, `not`, comparisons (which do not chain), `|`, `^`, `&`,
shifts, sums, products. A text is a sequence of assignments and expressions, of
which the first assigns the value that is asked for.
-/
namespace RegisterMachine.Expression

inductive Prefix where
  | minus
  | plus
  | invert
  | negation
  deriving DecidableEq, Repr

/-- What a call's argument is for. -/
inductive ArgumentRole where
  | positional
  | named (n : Text)
  | spread
  | spreadNamed
  deriving DecidableEq, Repr

inductive Tree where
  | name (n : Text)
  | int (n : Nat)
  | float (x : Float)
  | string (t : Text)
  | bytes (t : Text)
  | list (items : List Tree)
  | tuple (items : List Tree)
  | emptyDict
  | prefixed (op : Prefix) (x : Tree)
  | binary (op : Operator) (x y : Tree)
  | both (x y : Tree)
  | either (x y : Tree)
  | conditional (condition yes no : Tree)
  | index (x i : Tree)
  | attribute (x : Tree) (n : Text)
  | call (f : Tree) (arguments : List (ArgumentRole × Tree))
  /-- `[body for target in source …]`: what follows the first source comes as further clauses,
  a loop if it has a target and a condition if it has none. The site tells comprehensions of
  one text apart. -/
  | comprehension (site : Nat) (body target source : Tree) (clauses : List (Option Tree × Tree))

instance : Inhabited Tree := ⟨.emptyDict⟩

/-- The terms of a sum, in front of others. Only what stands left of a sign is taken apart. -/
def Tree.termsBefore (others : List Tree) : Tree → List Tree
  | .binary .add x y => x.termsBefore (y :: others)
  | x => x :: others

/-- Two literals of one type as a single one, which stands for their sum. -/
def Tree.join? : Tree → Tree → Option Tree
  | .string s, .string t => some (.string (s ++ t))
  | .bytes s, .bytes t => some (.bytes (s ++ t))
  | .list xs, .list ys => some (.list (xs ++ ys))
  | .tuple xs, .tuple ys => some (.tuple (xs ++ ys))
  | _, _ => none

/-- Terms with neighbouring literals joined; the first term is `x`. -/
def Tree.joinTerms (x : Tree) : List Tree → List Tree
  | [] => [x]
  | y :: rest =>
      match x.join? y with
      | some z => z.joinTerms rest
      | none => x :: y.joinTerms rest

/-- The first term and the further terms of a sum. Neighbouring literals of one type are one term,
so that all their elements are evaluated before anything is added. -/
def Tree.terms (x y : Tree) : Tree × List Tree :=
  match x.termsBefore [y] with
  | [] => (x, [y])
  | first :: rest =>
      match first.joinTerms rest with
      | [] => (x, [y])
      | first :: rest => (first, rest)

inductive Statement where
  | pass
  | evaluate (x : Tree)
  | assign (target x : Tree)
  | update (op : Operator) (target x : Tree)
  /-- Takes values from elsewhere: the names that they get here and those that they have there. -/
  | load (names : List (Text × Text))

/-- Parsers take tokens and give what they read and the tokens behind it. -/
abbrev Parser (α : Type) := List Token → Option (α × List Token)

/-- The strength of an operator. -/
def Operator.precedence : Operator → Nat
  | .relation _ | .isIn | .notIn => 3
  | .bitOr => 4
  | .bitXor => 5
  | .bitAnd => 6
  | .shiftLeft | .shiftRight => 7
  | .add | .sub => 8
  | .mul | .div | .mod => 9

/-- A link between two operands. -/
inductive Link where
  | either
  | both
  | operator (op : Operator)

def Link.precedence : Link → Nat
  | .either => 0
  | .both => 1
  | .operator op => op.precedence

def Link.isComparison (l : Link) : Bool := l.precedence == 3

def Link.tree : Link → Tree → Tree → Tree
  | .either, x, y => .either x y
  | .both, x, y => .both x y
  | .operator op, x, y => .binary op x y

/-- The link that comes next, if there is one. `not` has to be followed by `in`. -/
def link? : List Token → Option (Option (Link × List Token))
  | .word .disjunction :: rest => some (some (.either, rest))
  | .word .conjunction :: rest => some (some (.both, rest))
  | .word .membership :: rest => some (some (.operator .isIn, rest))
  | .word .negation :: .word .membership :: rest => some (some (.operator .notIn, rest))
  | .word .negation :: _ => none
  | .sign (.operator op) :: rest => some (some (.operator op, rest))
  | _ => some none

/-- A token that can end a list of expressions. -/
def endsList : List Token → Bool
  | [] => true
  | .newline :: _ => true
  | .sign s :: _ =>
      s == .assign || s == .closeBrace || s == .closeBracket || s == .closeParen
        || s == .semicolon
  | _ => false

/-- Takes a given sign. -/
def expect (s : Sign) : Parser PUnit
  | .sign t :: rest => if t == s then some (⟨⟩, rest) else none
  | _ => none

mutual

def parseTest : Nat → Parser Tree
  | 0, _ => none
  | fuel + 1, ts => do
      let (x, ts) ← parseBinary fuel 0 ts
      match ts with
      | .word .condition :: ts =>
          let (condition, ts) ← parseBinary fuel 0 ts
          match ts with
          | .word .alternative :: ts =>
              let (no, ts) ← parseTest fuel ts
              return (.conditional condition x no, ts)
          | _ => none
      | _ => return (x, ts)

/-- Operands joined by links of at least a given strength. -/
def parseBinary : Nat → Nat → Parser Tree
  | 0, _, _ => none
  | fuel + 1, strength, ts =>
      match ts with
      | .word .negation :: rest =>
          if strength ≤ 2 then do
            let (x, ts) ← parseBinary fuel 2 rest
            parseLinks fuel strength false (.prefixed .negation x) ts
          else none
      | _ => do
          let (x, ts) ← parsePrimary fuel ts
          parseLinks fuel strength false x ts

/-- The links behind an operand; a comparison cannot follow a comparison. -/
def parseLinks : Nat → Nat → Bool → Tree → Parser Tree
  | 0, _, _, _, _ => none
  | fuel + 1, strength, compared, x, ts =>
      match link? ts with
      | none => none
      | some none => some (x, ts)
      | some (some (link, rest)) =>
          if link.precedence < strength then some (x, ts)
          else if compared && link.isComparison then none
          else do
            let (y, ts) ← parseBinary fuel (link.precedence + 1) rest
            parseLinks fuel strength link.isComparison (link.tree x y) ts

/-- An operand with its indexes, attributes and calls. -/
def parsePrimary : Nat → Parser Tree
  | 0, _ => none
  | fuel + 1, ts => do
      let (x, ts) ← parseOperand fuel ts
      parseSuffixes fuel x ts

/-- The indexes, attributes and calls behind an operand. -/
def parseSuffixes : Nat → Tree → Parser Tree
  | 0, _, _ => none
  | fuel + 1, x, ts =>
      match ts with
      | .sign .dot :: .name n :: ts => parseSuffixes fuel (.attribute x n) ts
      | .sign .dot :: _ => none
      | .sign .openBracket :: ts => do
          let (i, ts) ← parseExpression fuel false ts
          let (_, ts) ← expect .closeBracket ts
          parseSuffixes fuel (.index x i) ts
      | .sign .openParen :: ts => do
          let (arguments, ts) ← parseArguments fuel [] ts
          parseSuffixes fuel (.call x arguments) ts
      | _ => some (x, ts)

/-- A name, a literal, a bracketed form or a signed operand. -/
def parseOperand : Nat → Parser Tree
  | 0, _ => none
  | fuel + 1, ts =>
      match ts with
      | .name n :: ts => some (.name n, ts)
      | .number (.int n) :: ts => some (.int n, ts)
      | .number (.float x) :: ts => some (.float x, ts)
      | .string t :: ts => some (.string t, ts)
      | .bytes t :: ts => some (.bytes t, ts)
      | .sign .openBracket :: .sign .closeBracket :: ts => some (.list [], ts)
      | .sign .openBracket :: ts => do
          let (x, ts) ← parseTest fuel ts
          match ts with
          | .word .loop :: _ => parseComprehension fuel x ts
          | _ =>
              let (items, ts) ← parseItems fuel true [x] ts
              let (_, ts) ← expect .closeBracket ts
              return (.list items, ts)
      | .sign .openBrace :: .sign .closeBrace :: ts => some (.emptyDict, ts)
      | .sign .openParen :: .sign .closeParen :: ts => some (.tuple [], ts)
      | .sign .openParen :: ts => do
          let (x, ts) ← parseExpression fuel true ts
          let (_, ts) ← expect .closeParen ts
          return (x, ts)
      | .sign (.operator .sub) :: ts => do
          let (x, ts) ← parsePrimary fuel ts
          return (.prefixed .minus x, ts)
      | .sign (.operator .add) :: ts => do
          let (x, ts) ← parsePrimary fuel ts
          return (.prefixed .plus x, ts)
      | .sign .tilde :: ts => do
          let (x, ts) ← parsePrimary fuel ts
          return (.prefixed .invert x, ts)
      | _ => none

/-- An expression, or a tuple without brackets. -/
def parseExpression : Nat → Bool → Parser Tree
  | 0, _, _ => none
  | fuel + 1, trailing, ts => do
      let (x, ts) ← parseTest fuel ts
      match ts with
      | .sign .comma :: _ =>
          let (items, ts) ← parseItems fuel trailing [x] ts
          return (.tuple items, ts)
      | _ => return (x, ts)

/-- Further expressions behind commas, with those so far in reverse; `trailing` allows a comma
at the end. -/
def parseItems : Nat → Bool → List Tree → Parser (List Tree)
  | 0, _, _, _ => none
  | fuel + 1, trailing, done, ts =>
      match ts with
      | .sign .comma :: ts =>
          if endsList ts then
            if trailing then some (done.reverse, ts) else none
          else do
            let (x, ts) ← parseTest fuel ts
            parseItems fuel trailing (x :: done) ts
      | _ => some (done.reverse, ts)

/-- The arguments of a call up to its closing bracket, with those so far in reverse. -/
def parseArguments : Nat → List (ArgumentRole × Tree) → Parser (List (ArgumentRole × Tree))
  | 0, _, _ => none
  | fuel + 1, done, ts =>
      match ts with
      | .sign .closeParen :: ts => some (done.reverse, ts)
      | _ => do
          let (argument, ts) ← parseArgument fuel ts
          let done := argument :: done
          match ts with
          | .sign .comma :: ts => parseArguments fuel done ts
          | .sign .closeParen :: ts => return (done.reverse, ts)
          | _ => none

def parseArgument : Nat → Parser (ArgumentRole × Tree)
  | 0, _ => none
  | fuel + 1, ts =>
      match ts with
      | .sign (.operator .mul) :: ts => do
          let (x, ts) ← parseTest fuel ts
          return ((.spread, x), ts)
      | .sign .power :: ts => do
          let (x, ts) ← parseTest fuel ts
          return ((.spreadNamed, x), ts)
      | .name n :: .sign .assign :: ts => do
          let (x, ts) ← parseTest fuel ts
          return ((.named n, x), ts)
      | _ => do
          let (x, ts) ← parseTest fuel ts
          return ((.positional, x), ts)

/-- The clauses of a list comprehension, starting with `for`. Its site is the number of tokens
from there on, which no other comprehension of the text has. -/
def parseComprehension : Nat → Tree → Parser Tree
  | 0, _, _ => none
  | fuel + 1, body, ts =>
      match ts with
      | .word .loop :: rest => do
          let ((target, source), rest) ← parseLoop fuel rest
          let (clauses, rest) ← parseClauses fuel [] rest
          return (.comprehension ts.length body target source clauses, rest)
      | _ => none

/-- The target and source of a loop clause behind `for`. -/
def parseLoop : Nat → Parser (Tree × Tree)
  | 0, _ => none
  | fuel + 1, ts => do
      let (target, ts) ← parseTarget fuel ts
      match ts with
      | .word .membership :: ts =>
          let (source, ts) ← parseBinary fuel 0 ts
          return ((target, source), ts)
      | _ => none

/-- The names that a loop binds. -/
def parseTarget : Nat → Parser Tree
  | 0, _ => none
  | fuel + 1, ts => do
      let (x, ts) ← parsePrimary fuel ts
      match ts with
      | .sign .comma :: _ =>
          let (items, ts) ← parseTargets fuel [x] ts
          return (.tuple items, ts)
      | _ => return (x, ts)

/-- Further names behind commas, with those so far in reverse. -/
def parseTargets : Nat → List Tree → Parser (List Tree)
  | 0, _, _ => none
  | fuel + 1, done, ts =>
      match ts with
      | .sign .comma :: ts =>
          if endsList ts then some (done.reverse, ts)
          else do
            let (x, ts) ← parsePrimary fuel ts
            parseTargets fuel (x :: done) ts
      | _ => some (done.reverse, ts)

/-- Further clauses up to the closing bracket, with those so far in reverse. -/
def parseClauses : Nat → List (Option Tree × Tree) → Parser (List (Option Tree × Tree))
  | 0, _, _ => none
  | fuel + 1, done, ts =>
      match ts with
      | .sign .closeBracket :: ts => some (done.reverse, ts)
      | .word .loop :: ts => do
          let ((target, source), ts) ← parseLoop fuel ts
          parseClauses fuel ((some target, source) :: done) ts
      | .word .condition :: ts => do
          let (condition, ts) ← parseBinary fuel 0 ts
          parseClauses fuel ((none, condition) :: done) ts
      | _ => none

end

/-- The names of a load statement up to its closing bracket, with those so far in reverse. A name
is given as a text, or behind the name that it gets. -/
def parseNames : List (Text × Text) → Parser (List (Text × Text))
  | done, .sign .closeParen :: ts | done, .sign .comma :: .sign .closeParen :: ts =>
      some (done.reverse, ts)
  | done, .sign .comma :: .string n :: ts => parseNames ((n, n) :: done) ts
  | done, .sign .comma :: .name n :: .sign .assign :: .string m :: ts =>
      parseNames ((n, m) :: done) ts
  | _, _ => none

/-- A load statement behind its word: a text that says from where, and at least one name. -/
def parseLoad : Parser Statement
  | .sign .openParen :: .string _ :: ts => do
      let (names, ts) ← parseNames [] ts
      if names.isEmpty then none else return (.load names, ts)
  | _ => none

def parseStatement (fuel : Nat) : Parser Statement
  | .word .pass :: ts => some (.pass, ts)
  | .word .load :: ts => parseLoad ts
  | ts => do
      let (x, ts) ← parseExpression fuel false ts
      match ts with
      | .sign .assign :: ts =>
          let (y, ts) ← parseExpression fuel false ts
          return (.assign x y, ts)
      | .sign (.assignWith op) :: ts =>
          let (y, ts) ← parseExpression fuel false ts
          return (.update op x y, ts)
      | _ => return (.evaluate x, ts)

/-- All statements, with those so far in reverse. A semicolon or a line break ends each. -/
def parseStatements : Nat → List Statement → List Token → Option (List Statement)
  | _, done, [] => some done.reverse
  | 0, _, _ => none
  | fuel + 1, done, .newline :: ts => parseStatements fuel done ts
  | fuel + 1, done, ts => do
      let (s, ts) ← parseStatement fuel ts
      match ts with
      | [] => return (s :: done).reverse
      | .newline :: ts => parseStatements fuel (s :: done) ts
      | .sign .semicolon :: ts => parseStatements fuel (s :: done) ts
      | _ => none

/-- The statements of a text. The fuel covers every descent, since each one takes a token. -/
def parse? (t : Text) : Option (List Statement) := do
  let ts ← tokens? t
  parseStatements (16 * (ts.length + 2)) [] ts

end RegisterMachine.Expression

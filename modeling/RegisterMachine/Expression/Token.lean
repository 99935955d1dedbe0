import RegisterMachine.Expression.Literal
import RegisterMachine.Text.Letter

/-!
# Tokens of expressions

An expression is a sequence of names, literals, words and signs. Line breaks end a
statement except inside brackets; comments run from `#` to the end of the line. A
statement may not be indented. A zero byte outside a literal ends the text.
-/
namespace RegisterMachine.Expression

open Text (byte ofString)

/-- Words that are part of the grammar. -/
inductive Word where
  | conjunction
  | disjunction
  | negation
  | membership
  | condition
  | alternative
  | loop
  | pass
  | load
  deriving DecidableEq, Repr

/-- The words with their spelling. -/
def words : List (Text × Word) :=
  [(ofString "and", .conjunction), (ofString "or", .disjunction), (ofString "not", .negation),
    (ofString "in", .membership), (ofString "if", .condition), (ofString "else", .alternative),
    (ofString "for", .loop), (ofString "pass", .pass), (ofString "load", .load)]

/-- Words that no expression and no simple statement can hold. -/
def reservedWords : List Text :=
  ["break", "continue", "def", "elif", "lambda", "return", "while", "as", "async", "await",
    "class", "del", "except", "finally", "from", "global", "import", "is", "nonlocal",
    "raise", "try", "with", "yield"].map ofString

inductive Relation where
  | equal
  | notEqual
  | less
  | lessEqual
  | greater
  | greaterEqual
  deriving DecidableEq, Repr

inductive Operator where
  | add
  | sub
  | mul
  | div
  | mod
  | bitAnd
  | bitOr
  | bitXor
  | shiftLeft
  | shiftRight
  | relation (r : Relation)
  | isIn
  | notIn
  deriving DecidableEq, Repr

inductive Sign where
  | assign
  | assignWith (op : Operator)
  | operator (op : Operator)
  | tilde
  | power
  | comma
  | semicolon
  | dot
  | openParen
  | closeParen
  | openBracket
  | closeBracket
  | openBrace
  | closeBrace
  deriving DecidableEq, Repr

/-- The sign of a comparison. -/
def Sign.relation (r : Relation) : Sign := .operator (.relation r)

/-- The signs with their spelling, longer ones before their beginnings. -/
def signs : List (Text × Sign) :=
  [("<<=", .assignWith .shiftLeft), (">>=", .assignWith .shiftRight), ("**", .power),
    ("<<", .operator .shiftLeft), (">>", .operator .shiftRight), ("==", .relation .equal),
    ("!=", .relation .notEqual), ("<=", .relation .lessEqual), (">=", .relation .greaterEqual),
    ("+=", .assignWith .add), ("-=", .assignWith .sub), ("*=", .assignWith .mul),
    ("/=", .assignWith .div), ("%=", .assignWith .mod), ("&=", .assignWith .bitAnd),
    ("|=", .assignWith .bitOr), ("^=", .assignWith .bitXor), ("=", .assign),
    ("<", .relation .less), (">", .relation .greater), ("+", .operator .add),
    ("-", .operator .sub), ("*", .operator .mul), ("/", .operator .div), ("%", .operator .mod),
    ("&", .operator .bitAnd), ("|", .operator .bitOr), ("^", .operator .bitXor), ("~", .tilde),
    (",", .comma), (";", .semicolon), (".", .dot), ("(", .openParen), (")", .closeParen),
    ("[", .openBracket), ("]", .closeBracket), ("\x7b", .openBrace), ("\x7d", .closeBrace)].map
    fun (spelling, sign) => (ofString spelling, sign)

inductive Token where
  | name (n : Text)
  | number (n : Number)
  | string (t : Text)
  | bytes (t : Text)
  | word (w : Word)
  | sign (s : Sign)
  | newline

/-- How a sign changes the number of open brackets; closing one that is not open is an error. -/
def Sign.depth? (depth : Nat) : Sign → Option Nat
  | .openParen | .openBracket | .openBrace => some (depth + 1)
  | .closeParen | .closeBracket | .closeBrace => if depth = 0 then none else some (depth - 1)
  | _ => some depth

/-- A character that a name may begin with. -/
def isNameStart (c : Char) : Bool :=
  if c.toNat < 0x80 then Text.isWordStart (byte c) else Text.isUnicodeLetter c

/-- A character that a name may go on with. -/
def isNamePart (c : Char) : Bool :=
  if c.toNat < 0x80 then Text.isWordPart (byte c) else Text.isUnicodeLetter c

/-- The longest name at the beginning of a text, in at most `fuel` characters. -/
def nameLoop : Nat → Text → Text → Text × Text
  | 0, done, t => (done.reverse, t)
  | fuel + 1, done, t =>
      match t.decode? with
      | some (c, rest) =>
          if isNamePart c then nameLoop fuel ((String.utf8EncodeChar c).reverse ++ done) rest
          else (done.reverse, t)
      | none => (done.reverse, t)

/-- The token of a name or word. -/
def nameToken? (n : Text) : Option Token :=
  match words.find? (·.1 == n) with
  | some (_, w) => some (.word w)
  | none => if reservedWords.contains n then none else some (.name n)

/-- The letters before a string literal: whether it is raw, whether it is of bytes, and the
literal from its quote on. -/
def stringStart? (t : Text) : Option (Bool × Bool × Text) :=
  let isQuote (b : UInt8) : Bool := b = byte '"' || b = byte '\''
  match t with
  | a :: rest =>
      if isQuote a then some (false, false, t)
      else match rest with
        | b :: more =>
            if isQuote b then
              if a = byte 'r' then some (true, false, rest)
              else if a = byte 'b' then some (false, true, rest)
              else none
            else if a = byte 'r' ∧ b = byte 'b' then
              match more with
              | c :: _ => if isQuote c then some (true, true, more) else none
              | [] => none
            else none
        | [] => none
  | [] => none

/-- A number starts here: a digit, or a point and a digit. -/
def startsNumber : Text → Bool
  | a :: b :: _ => Text.isDigit a || (a = byte '.' && Text.isDigit b)
  | [a] => Text.isDigit a
  | [] => false

/-- The token at the beginning of a text that starts with no blank. -/
def token? (t : Text) : Option (Token × Text) :=
  match stringStart? t with
  | some (raw, ofBytes, rest) =>
      (string? raw ofBytes rest).map fun (s, rest) =>
        (if ofBytes then .bytes s else .string s, rest)
  | none =>
      if startsNumber t then (number? t).map fun (n, rest) => (.number n, rest)
      else match t.decode? with
        | none => none
        | some (c, _) =>
            if isNameStart c then
              let (n, rest) := nameLoop t.length [] t
              (nameToken? n).map fun token => (token, rest)
            else
              (signs.find? fun (spelling, _) => spelling.isPrefixOf t).map
                fun (spelling, s) => (.sign s, t.drop spelling.length)

def isIndent (b : UInt8) : Bool := b = 32 || b = 9

/-- Reads tokens, in at most `fuel` steps; `depth` counts open brackets, and `fresh` says that
a line begins. -/
def tokenLoop : Nat → Nat → Bool → List Token → Text → Option (List Token)
  | 0, _, _, _, _ => none
  | _ + 1, _, _, done, [] => some done.reverse
  | fuel + 1, depth, fresh, done, b :: rest =>
      if isIndent b then
        let rest := rest.dropWhile isIndent
        let blank := match rest with
          | [] => true
          | c :: _ => c = byte '#' || c = Text.newline || c = 0
        if fresh && depth = 0 && !blank then none else tokenLoop fuel depth false done rest
      else if b = byte '#' then
        tokenLoop fuel depth false done (rest.dropWhile fun c => c != Text.newline && c != 0)
      else if b = Text.newline then
        tokenLoop fuel depth true (if depth = 0 then .newline :: done else done) rest
      else if b = 0 then some done.reverse
      else if b = byte '\\' then
        match rest with
        | c :: rest => if c = Text.newline then tokenLoop fuel depth false done rest else none
        | [] => none
      else
        match token? (b :: rest) with
        | none => none
        | some (token, rest) =>
            let depth? := match token with
              | .sign s => s.depth? depth
              | _ => some depth
            match depth? with
            | none => none
            | some depth => tokenLoop fuel depth false (token :: done) rest

/-- Line breaks of all kinds as one byte. -/
def unifyBreaks (t : Text) : Text :=
  (Text.replacePair Text.carriageReturn Text.newline [Text.newline] t).map fun b =>
    if b = Text.carriageReturn then Text.newline else b

/-- The tokens of a text. -/
def tokens? (t : Text) : Option (List Token) :=
  let t := unifyBreaks t
  tokenLoop (t.length + 1) 0 true [] t

end RegisterMachine.Expression

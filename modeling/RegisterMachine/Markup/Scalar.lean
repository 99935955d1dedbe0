import RegisterMachine.Markup.Cursor

/-!
# Scalars

A scalar is written plain, between quotes or as a block of indented lines. Line
breaks in plain, quoted and folded scalars become spaces, and blank lines become
line breaks.
-/
namespace RegisterMachine.Markup

/-- How a scalar is written. -/
inductive Style where
  | plain
  | singleQuoted
  | doubleQuoted
  | literal
  | folded
  deriving DecidableEq, Repr

/-- A scalar while it is read; all characters are in reverse. -/
structure Folding where
  content : List Char
  /-- Blanks behind the content, on the same line. -/
  blanks : List Char
  /-- The first line break behind the content. -/
  leading : Option Char
  /-- The line breaks behind the first one. -/
  trailing : List Char
  deriving DecidableEq, Repr

namespace Folding

def empty : Folding := ⟨[], [], none, []⟩

def push (f : Folding) (c : Char) : Folding := { f with content := c :: f.content }

/-- What the line breaks between two lines stand for, in reverse: one is a space, and of several
the first is dropped. -/
def lineGap (leading : Option Char) (trailing : List Char) : List Char :=
  if leading == some '\n' then if trailing.isEmpty then [' '] else trailing
  else trailing ++ leading.toList

/-- The content with what was read behind it. -/
def settle (f : Folding) : Folding :=
  if f.leading.isSome then ⟨lineGap f.leading f.trailing ++ f.content, [], none, []⟩
  else ⟨f.blanks ++ f.content, [], none, f.trailing⟩

/-- The folding with one more line break. -/
def pushBreak (f : Folding) (c : Char) : Folding :=
  if f.leading.isNone then { f with blanks := [], leading := some c }
  else { f with trailing := c :: f.trailing }

def text (f : Folding) : Text := toText f.content.reverse

end Folding

/-- A plain scalar ends before a colon with a gap and, in a flow collection, before the signs of
the collection. -/
def endsPlain (flow : Bool) (c next : Char) : Bool :=
  (c == ':' && isGap next)
    || (flow && (c == ',' || c == '?' || c == '[' || c == ']' || c == '\x7b' || c == '\x7d'))

/-- Reads a run of characters without gaps. -/
def plainRun (flow : Bool) : Nat → Folding → Cursor → Option (Folding × Cursor)
  | 0, _, _ => none
  | fuel + 1, f, cursor =>
      let c := cursor.peek 0
      if isGap c || endsPlain flow c (cursor.peek 1) then some (f, cursor)
      else do
        let f := f.settle.push c
        let cursor := cursor.skip
        let cursor ← cursor.need 2
        plainRun flow fuel f cursor

/-- Reads blanks and line breaks behind a run. A tab cannot be part of the indentation. -/
def plainGap (indent : Int) : Nat → Folding → Cursor → Option (Folding × Cursor)
  | 0, _, _ => none
  | fuel + 1, f, cursor =>
      let c := cursor.peek 0
      if isBlank c then
        if f.leading.isSome && decide ((cursor.mark.column : Int) < indent) && c == '\t' then none
        else do
          let f := if f.leading.isNone then { f with blanks := c :: f.blanks } else f
          let cursor := cursor.skip
          let cursor ← cursor.need 1
          plainGap indent fuel f cursor
      else if isBreak c then do
        let cursor ← cursor.need 2
        let f := f.pushBreak cursor.breakCharacter
        let cursor := cursor.skipBreak
        let cursor ← cursor.need 1
        plainGap indent fuel f cursor
      else some (f, cursor)

/-- Reads the lines of a plain scalar. -/
def plainLoop (flow : Bool) (indent : Int) : Nat → Folding → Cursor → Option (Folding × Cursor)
  | 0, _, _ => none
  | fuel + 1, f, cursor => do
      let cursor ← cursor.need 4
      if cursor.atDocumentMarker || cursor.peek 0 == '#' then return (f, cursor)
      let (f, cursor) ← plainRun flow cursor.fuel f cursor
      if !(isBlank (cursor.peek 0) || isBreak (cursor.peek 0)) then return (f, cursor)
      let cursor ← cursor.need 1
      let (f, cursor) ← plainGap indent cursor.fuel f cursor
      if !flow && decide ((cursor.mark.column : Int) < indent) then return (f, cursor)
      plainLoop flow indent fuel f cursor

/-- Reads a plain scalar at an indentation level; also tells whether line breaks followed. -/
def scanPlain (flow : Bool) (level : Int) (cursor : Cursor) : Option (Text × Bool × Cursor) := do
  let (f, cursor) ← plainLoop flow (level + 1) cursor.fuel .empty cursor
  return (f.text, f.leading.isSome, cursor)

/-- The characters of the escapes without digits. -/
def escapeCharacter? (c : Char) : Option Char :=
  match c with
  | '0' => some (Char.ofNat 0)
  | 'a' => some (Char.ofNat 7)
  | 'b' => some (Char.ofNat 8)
  | 't' => some '\t'
  | '\t' => some '\t'
  | 'n' => some '\n'
  | 'v' => some (Char.ofNat 11)
  | 'f' => some (Char.ofNat 12)
  | 'r' => some '\r'
  | 'e' => some (Char.ofNat 27)
  | ' ' => some ' '
  | '"' => some '"'
  | '\'' => some '\''
  | '\\' => some '\\'
  | 'N' => some (Char.ofNat 0x85)
  | '_' => some (Char.ofNat 0xA0)
  | 'L' => some (Char.ofNat 0x2028)
  | 'P' => some (Char.ofNat 0x2029)
  | _ => none

/-- The number of hexadecimal digits behind an escape letter. -/
def escapeDigits? (c : Char) : Option Nat :=
  match c with
  | 'x' => some 2
  | 'u' => some 4
  | 'U' => some 8
  | _ => none

/-- Reads an escape sequence. -/
def scanEscape (cursor : Cursor) : Option (Char × Cursor) :=
  let letter := cursor.peek 1
  match escapeCharacter? letter with
  | some c => some (c, cursor.skipMany 2)
  | none => do
      let count ← escapeDigits? letter
      let cursor := cursor.skipMany 2
      let cursor ← cursor.need count
      let digits ← ((List.range count).map cursor.peek).mapM hexDigit?
      let value := digits.foldl (fun n d => n * 16 + d) 0
      if Text.isScalar value then return (Char.ofNat value, cursor.skipMany count) else none

/-- Reads a run without gaps up to the closing quote; also tells whether an escaped line break
ended it. -/
def quotedRun (single : Bool) : Nat → Folding → Cursor → Option (Folding × Bool × Cursor)
  | 0, _, _ => none
  | fuel + 1, f, cursor =>
      let c := cursor.peek 0
      if isGap c then some (f, false, cursor)
      else if single && c == '\'' && cursor.peek 1 == '\'' then do
        let cursor := cursor.skipMany 2
        let cursor ← cursor.need 2
        quotedRun single fuel (f.push c) cursor
      else if c == (if single then '\'' else '"') then some (f, false, cursor)
      else if !single && c == '\\' && isBreak (cursor.peek 1) then do
        let cursor ← cursor.need 3
        return (f, true, cursor.skip.skipBreak)
      else if !single && c == '\\' then do
        let (e, cursor) ← scanEscape cursor
        let cursor ← cursor.need 2
        quotedRun single fuel (f.push e) cursor
      else do
        let cursor := cursor.skip
        let cursor ← cursor.need 2
        quotedRun single fuel (f.push c) cursor

/-- Reads blanks and line breaks inside quotes. Once there was a line break, escaped or not,
blanks do not count. -/
def quotedGap : Nat → Bool → Folding → Cursor → Option (Bool × Folding × Cursor)
  | 0, _, _, _ => none
  | fuel + 1, broken, f, cursor =>
      let c := cursor.peek 0
      if isBlank c then do
        let f := if broken then f else { f with blanks := c :: f.blanks }
        let cursor := cursor.skip
        let cursor ← cursor.need 1
        quotedGap fuel broken f cursor
      else if isBreak c then do
        let cursor ← cursor.need 2
        let b := cursor.breakCharacter
        let f := if broken then { f with trailing := b :: f.trailing }
          else { f with blanks := [], leading := some b }
        let cursor := cursor.skipBreak
        let cursor ← cursor.need 1
        quotedGap fuel true f cursor
      else some (broken, f, cursor)

/-- Reads the lines of a quoted scalar up to its closing quote. -/
def quotedLoop (single : Bool) : Nat → Folding → Cursor → Option (Folding × Cursor)
  | 0, _, _ => none
  | fuel + 1, f, cursor => do
      let cursor ← cursor.need 4
      if cursor.atDocumentMarker || isEnd (cursor.peek 0) then none
      else
        let (f, broken, cursor) ← quotedRun single cursor.fuel f cursor
        let cursor ← cursor.need 1
        if cursor.peek 0 == (if single then '\'' else '"') then return (f, cursor.skip)
        let (broken, f, cursor) ← quotedGap cursor.fuel broken f cursor
        let f := if broken then
            { f with
              content := Folding.lineGap f.leading f.trailing ++ f.content
              leading := none
              trailing := [] }
          else f.settle
        quotedLoop single fuel f cursor

/-- Reads a quoted scalar from its opening quote on. -/
def scanQuoted (single : Bool) (cursor : Cursor) : Option (Text × Cursor) := do
  let cursor := cursor.skip
  let (f, cursor) ← quotedLoop single cursor.fuel .empty cursor
  return (f.text, cursor)

/-- What becomes of the line breaks at the end of a block. -/
inductive Chomping where
  | strip
  | clip
  | keep
  deriving DecidableEq, Repr

/-- The chomping that a sign asks for. -/
def chomping? (c : Char) : Option Chomping :=
  if c == '+' then some .keep else if c == '-' then some .strip else none

/-- Reads the signs behind the indicator of a block: chomping and indentation in any order. The
indentation is zero if it is to be found out. -/
def scanBlockHeader (cursor : Cursor) : Option (Chomping × Nat × Cursor) := do
  let cursor ← cursor.need 1
  match chomping? (cursor.peek 0) with
  | some chomping =>
      let cursor := cursor.skip
      let cursor ← cursor.need 1
      if isDecimal (cursor.peek 0) then
        if cursor.peek 0 == '0' then none
        else return (chomping, (cursor.peek 0).toNat - 48, cursor.skip)
      else return (chomping, 0, cursor)
  | none =>
      if isDecimal (cursor.peek 0) then
        if cursor.peek 0 == '0' then none
        else
          let increment := (cursor.peek 0).toNat - 48
          let cursor := cursor.skip
          let cursor ← cursor.need 1
          match chomping? (cursor.peek 0) with
          | some chomping => return (chomping, increment, cursor.skip)
          | none => return (.clip, increment, cursor)
      else return (.clip, 0, cursor)

/-- Passes spaces up to an indentation; zero is no bound. -/
def passIndent (indent : Nat) : Nat → Cursor → Option Cursor
  | 0, _ => none
  | fuel + 1, cursor => do
      let cursor ← cursor.need 1
      if (indent == 0 || decide (cursor.mark.column < indent)) && cursor.peek 0 == ' ' then
        passIndent indent fuel cursor.skip
      else return cursor

/-- Reads indentation and blank lines, with the widest indentation and the line breaks so far.
If the indentation is to be found out, it is the widest one, but deeper than `level`. -/
def blockGap (level : Int) (indent : Nat) :
    Nat → Nat → List Char → Cursor → Option (Nat × List Char × Cursor)
  | 0, _, _, _ => none
  | fuel + 1, widest, breaks, cursor => do
      let cursor ← passIndent indent cursor.fuel cursor
      let column := cursor.mark.column
      let widest := if widest < column then column else widest
      if (indent == 0 || decide (column < indent)) && cursor.peek 0 == '\t' then none
      else if isBreak (cursor.peek 0) then
        let cursor ← cursor.need 2
        blockGap level indent fuel widest (cursor.breakCharacter :: breaks) cursor.skipBreak
      else
        let least := (level + 1).toNat
        let found := if widest < least then least else widest
        let found := if found < 1 then 1 else found
        return (if indent == 0 then found else indent, breaks, cursor)

/-- A block while it is read; all characters are in reverse. -/
structure Block where
  content : List Char
  leading : Option Char
  trailing : List Char
  /-- The last line began with a blank, so that its line break is kept. -/
  indented : Bool
  deriving DecidableEq, Repr

/-- The block with the line breaks before a line that is not blank. -/
def Block.settle (folded : Bool) (startsBlank : Bool) (b : Block) : List Char :=
  if folded && !b.indented && !startsBlank && b.leading == some '\n' then
    if b.trailing.isEmpty then ' ' :: b.content else b.trailing ++ b.content
  else b.trailing ++ b.leading.toList ++ b.content

/-- Reads the lines of a block. -/
def blockLoop (folded : Bool) (level : Int) (indent : Nat) : Nat → Block → Cursor →
    Option (Block × Cursor)
  | 0, _, _ => none
  | fuel + 1, b, cursor =>
      if cursor.mark.column == indent && !isEnd (cursor.peek 0) then do
        let startsBlank := isBlank (cursor.peek 0)
        let content := b.settle folded startsBlank
        let (line, cursor) ← cursor.takeWhile (!isBreakOrEnd ·)
        let cursor ← cursor.need 2
        let leading := if isBreak (cursor.peek 0) then some cursor.breakCharacter else none
        let cursor := cursor.skipBreak
        let (_, trailing, cursor) ← blockGap level indent cursor.fuel 0 [] cursor
        blockLoop folded level indent fuel
          ⟨line.reverse ++ content, leading, trailing, startsBlank⟩ cursor
      else some (b, cursor)

/-- Reads a block scalar from its indicator on. Its first line may end with a comment. -/
def scanBlock (folded : Bool) (level : Int) (cursor : Cursor) : Option (Text × Cursor) := do
  let (chomping, increment, cursor) ← scanBlockHeader cursor.skip
  let cursor ← cursor.passWhile isBlank
  let cursor ← if cursor.peek 0 == '#' then cursor.passWhile (!isBreakOrEnd ·) else some cursor
  if !isBreakOrEnd (cursor.peek 0) then none
  else
    let cursor ← cursor.passBreak
    let indent := if increment = 0 then 0
      else if 0 ≤ level then level.toNat + increment else increment
    let (indent, trailing, cursor) ← blockGap level indent cursor.fuel 0 [] cursor
    let (b, cursor) ← blockLoop folded level indent cursor.fuel ⟨[], none, trailing, false⟩ cursor
    let content := match chomping with
      | .strip => b.content
      | .clip => b.leading.toList ++ b.content
      | .keep => b.trailing ++ b.leading.toList ++ b.content
    return (toText content.reverse, cursor)

end RegisterMachine.Markup

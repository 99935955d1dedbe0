import RegisterMachine.Markup.Stream

/-!
# Positions in a character stream

A cursor stands in front of the characters that are not passed yet and knows its line
and column. Characters are decoded when they are needed, a block at a time. Behind a
complete stream there are only zero characters, which markup itself cannot hold.
-/
namespace RegisterMachine.Markup

/-- A place in the text. -/
structure Mark where
  index : Nat
  line : Nat
  column : Nat
  deriving DecidableEq, Repr

instance : Inhabited Mark := ⟨⟨0, 0, 0⟩⟩

def isBlank (c : Char) : Bool := c == ' ' || c == '\t'

def isBreak (c : Char) : Bool :=
  c == '\r' || c == '\n' || c == Char.ofNat 0x85 || c == Char.ofNat 0x2028
    || c == Char.ofNat 0x2029

/-- What stands behind the end. -/
def endMark : Char := Char.ofNat 0

def isEnd (c : Char) : Bool := c == endMark

def isBreakOrEnd (c : Char) : Bool := isBreak c || isEnd c

/-- A character that separates words: a blank, a line break or the end. -/
def isGap (c : Char) : Bool := isBlank c || isBreakOrEnd c

/-- The characters of anchors, handles and directive names. -/
def isNameCharacter (c : Char) : Bool :=
  let n := c.toNat
  (48 ≤ n && n ≤ 57) || (97 ≤ n && n ≤ 122) || (65 ≤ n && n ≤ 90) || c == '_' || c == '-'

def isDecimal (c : Char) : Bool := 48 ≤ c.toNat && c.toNat ≤ 57

/-- The value of a hexadecimal digit. -/
def hexDigit? (c : Char) : Option Nat :=
  let n := c.toNat
  if 48 ≤ n && n ≤ 57 then some (n - 48)
  else if 97 ≤ n && n ≤ 102 then some (n - 87)
  else if 65 ≤ n && n ≤ 70 then some (n - 55)
  else none

def toText (cs : List Char) : Text := cs.flatMap String.utf8EncodeChar

/-- A position in a stream. -/
structure Cursor where
  /-- The characters that are decoded and not passed. -/
  ready : List Char
  /-- What is not decoded yet. -/
  ahead : Stream
  /-- The character at which the cursor stood when it decoded its latest block. -/
  origin : Char
  mark : Mark
  /-- There was a line break, and only blanks behind it. -/
  fresh : Bool
  /-- More than there are characters in the whole stream: no loop takes as many steps. -/
  fuel : Nat
  deriving DecidableEq, Repr

namespace Cursor

def ofStream (s : Stream) : Cursor := ⟨[], s, endMark, ⟨0, 0, 0⟩, false, s.size + 8⟩

def peek (cursor : Cursor) (i : Nat) : Char := cursor.ready.getD i endMark

/-- Decodes blocks until there are `n` characters. Where there is no block left, a complete
stream gives one zero character. -/
def fill (complete : Bool) (n : Nat) :
    List (List Char) → List Char → Option (List Char × List (List Char))
  | [], ready => if complete then some (ready ++ [endMark], []) else none
  | block :: blocks, ready =>
      let ready := ready ++ block
      if n ≤ ready.length then some (ready, blocks) else fill complete n blocks ready

/-- Sees to it that `n` characters are decoded; fails if the stream ends early before them. -/
def need (cursor : Cursor) (n : Nat) : Option Cursor :=
  if (cursor.ready.take n).length = n then some cursor
  else (fill cursor.ahead.complete n cursor.ahead.blocks cursor.ready).map fun (ready, blocks) =>
    { cursor with
      ready
      ahead := { cursor.ahead with blocks }
      origin := ready.headD endMark }

def skip (cursor : Cursor) : Cursor :=
  { cursor with
    ready := cursor.ready.drop 1
    mark := { cursor.mark with
      index := cursor.mark.index + 1
      column := cursor.mark.column + 1 }
    fresh := cursor.fresh && isBlank (cursor.peek 0) }

def skipMany (cursor : Cursor) : Nat → Cursor
  | 0 => cursor
  | n + 1 => cursor.skip.skipMany n

/-- Passes a line break, which may be two characters. -/
def skipBreak (cursor : Cursor) : Cursor :=
  let width := if cursor.peek 0 == '\r' && cursor.peek 1 == '\n' then 2 else 1
  if isBreak (cursor.peek 0) then
    { cursor with
      ready := cursor.ready.drop width
      mark := ⟨cursor.mark.index + width, cursor.mark.line + 1, 0⟩
      fresh := true }
  else cursor

/-- Passes the line break at the cursor, if there is one. -/
def passBreak (cursor : Cursor) : Option Cursor :=
  if isBreak (cursor.peek 0) then (cursor.need 2).map skipBreak else some cursor

/-- How a line break counts in a scalar: the separators of Unicode stay what they are. -/
def breakCharacter (cursor : Cursor) : Char :=
  let c := cursor.peek 0
  if c == Char.ofNat 0x2028 || c == Char.ofNat 0x2029 then c else '\n'

/-- Takes characters of a class, with those so far in reverse. -/
def takeLoop (p : Char → Bool) : Nat → List Char → Cursor → Option (List Char × Cursor)
  | 0, _, _ => none
  | fuel + 1, done, cursor => do
      let cursor ← cursor.need 1
      if p (cursor.peek 0) then takeLoop p fuel (cursor.peek 0 :: done) cursor.skip
      else return (done.reverse, cursor)

/-- Takes characters of a class, which is not that of zero, and fails if the stream ends early. -/
def takeWhile (p : Char → Bool) (cursor : Cursor) : Option (List Char × Cursor) :=
  takeLoop p cursor.fuel [] cursor

/-- Passes characters of a class. -/
def passWhile (p : Char → Bool) (cursor : Cursor) : Option Cursor :=
  (cursor.takeWhile p).map (·.2)

/-- A line that starts with three equal characters and a gap ends a document. -/
def startsWithMarker (c : Char) (cursor : Cursor) : Bool :=
  cursor.mark.column == 0 && cursor.peek 0 == c && cursor.peek 1 == c && cursor.peek 2 == c
    && isGap (cursor.peek 3)

def atDocumentMarker (cursor : Cursor) : Bool :=
  cursor.startsWithMarker '-' || cursor.startsWithMarker '.'

end Cursor

end RegisterMachine.Markup

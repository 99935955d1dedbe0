import RegisterMachine.Markup.Scalar

/-!
# Tokens

Markup is a sequence of tokens: signs, scalars, anchors, tags and directives. Where
a block collection begins or ends, there is a token that no character stands for.
-/
namespace RegisterMachine.Markup

open Text (byte ofString)

/-- A token. -/
inductive Token where
  | streamStart
  | streamEnd
  | version (major minor : Nat)
  | tagDirective (handle start : Text)
  | documentStart
  | documentEnd
  | blockSequenceStart
  | blockMappingStart
  | blockEnd
  | flowSequenceStart
  | flowSequenceEnd
  | flowMappingStart
  | flowMappingEnd
  | blockEntry
  | flowEntry
  | key
  | value
  | alias (anchor : Text)
  | anchor (name : Text)
  | tag (handle suffix : Text)
  | scalar (value : Text) (style : Style)
  deriving DecidableEq, Repr

/-- A token and where it stands. -/
structure Located where
  token : Token
  start : Mark
  stop : Mark
  deriving DecidableEq, Repr

/-- Reads the name of an anchor or an alias behind its sign. -/
def scanAnchor (cursor : Cursor) : Option (Text × Cursor) := do
  let (name, cursor) ← cursor.skip.takeWhile isNameCharacter
  let c := cursor.peek 0
  let ends := isGap c || c == '?' || c == ':' || c == ',' || c == ']' || c == '\x7d' || c == '%'
    || c == '@' || c == Char.ofNat 0x60
  if name.isEmpty || !ends then none else return (toText name, cursor)

/-- The characters that a tag may hold besides those of names. -/
def isTagCharacter (c : Char) : Bool :=
  isNameCharacter c || (";/?:@&=+$,.!~*'()[]%".toList).contains c

/-- Reads a character in escaped bytes, of which `left` are missing; zero before the first. -/
def scanTagEscape : Nat → Nat → Text → Cursor → Option (Text × Cursor)
  | 0, _, _, _ => none
  | fuel + 1, left, done, cursor => do
      let cursor ← cursor.need 3
      if cursor.peek 0 != '%' then none
      else
        let high ← hexDigit? (cursor.peek 1)
        let low ← hexDigit? (cursor.peek 2)
        let octet : UInt8 := (high * 16 + low).toUInt8
        let done := done ++ [octet]
        let cursor := cursor.skipMany 3
        let left ←
          if left = 0 then
            if sequenceLength octet = 0 then none else some (sequenceLength octet - 1)
          else if Text.isContinuation octet then some (left - 1) else none
        if left = 0 then return (done, cursor) else scanTagEscape fuel left done cursor

/-- Reads the characters of a tag behind those in `done`. -/
def scanTagLoop : Nat → Text → Cursor → Option (Text × Cursor)
  | 0, _, _ => none
  | fuel + 1, done, cursor => do
      let cursor ← cursor.need 1
      let c := cursor.peek 0
      if !isTagCharacter c then return (done, cursor)
      else if c == '%' then
        let (bytes, cursor) ← scanTagEscape 5 0 [] cursor
        scanTagLoop fuel (done ++ bytes) cursor
      else scanTagLoop fuel (done ++ String.utf8EncodeChar c) cursor.skip

/-- Reads a tag behind its handle; at least one character if there is no `head`. -/
def scanTagText (head : Text) (cursor : Cursor) : Option (Text × Cursor) := do
  let (t, after) ← scanTagLoop cursor.fuel (head.drop 1) cursor
  if head.isEmpty && after.mark.index == cursor.mark.index then none else return (t, after)

/-- Reads a handle: an exclamation mark, a name and, if there is one, another mark. -/
def scanHandle (directive : Bool) (cursor : Cursor) : Option (Text × Cursor) := do
  let cursor ← cursor.need 1
  if cursor.peek 0 != '!' then none
  else
    let (name, cursor) ← cursor.skip.takeWhile isNameCharacter
    let handle := byte '!' :: toText name
    if cursor.peek 0 == '!' then return (handle ++ [byte '!'], cursor.skip)
    else if directive && !name.isEmpty then none
    else return (handle, cursor)

/-- Reads a tag: handle and suffix. Without handle the suffix is the whole tag. -/
def scanTag (cursor : Cursor) : Option (Text × Text × Cursor) := do
  let cursor ← cursor.need 2
  let (handle, suffix, cursor) ←
    if cursor.peek 1 == '<' then do
      let (t, cursor) ← scanTagText [] (cursor.skipMany 2)
      if cursor.peek 0 == '>' then some ([], t, cursor.skip) else none
    else do
      let (handle, cursor) ← scanHandle false cursor
      if 1 < handle.length && handle.getLast? == some (byte '!') then
        let (t, cursor) ← scanTagText [] cursor
        return (handle, t, cursor)
      else
        let (t, cursor) ← scanTagText handle cursor
        return if t.isEmpty then ([], handle, cursor) else ([byte '!'], t, cursor)
  let cursor ← cursor.need 1
  if isGap (cursor.peek 0) then return (handle, suffix, cursor) else none

/-- Reads a number of at most two digits. -/
def scanVersionNumber (cursor : Cursor) : Option (Nat × Cursor) := do
  let (digits, cursor) ← cursor.takeWhile isDecimal
  if digits.isEmpty || 2 < digits.length then none
  else return (Text.digitsValue (toText digits), cursor)

def scanVersion (cursor : Cursor) : Option (Token × Cursor) := do
  let cursor ← cursor.passWhile isBlank
  let (major, cursor) ← scanVersionNumber cursor
  if cursor.peek 0 == '.' then
    let (minor, cursor) ← scanVersionNumber cursor.skip
    return (.version major minor, cursor)
  else none

/-- Reads the value of a tag directive: a handle and what it stands for. -/
def scanTagDirective (cursor : Cursor) : Option (Token × Cursor) := do
  let cursor ← cursor.passWhile isBlank
  let (handle, cursor) ← scanHandle true cursor
  let cursor ← cursor.need 1
  if isBlank (cursor.peek 0) then
    let cursor ← cursor.passWhile isBlank
    let (start, cursor) ← scanTagText [] cursor
    if isGap (cursor.peek 0) then return (.tagDirective handle start, cursor) else none
  else none

/-- Reads a directive from its percent sign on, to the end of its line. -/
def scanDirective (cursor : Cursor) : Option (Token × Cursor) := do
  let (name, cursor) ← cursor.skip.takeWhile isNameCharacter
  if name.isEmpty || !isGap (cursor.peek 0) then none
  else
    let (token, cursor) ← if name == "YAML".toList then scanVersion cursor
      else if name == "TAG".toList then scanTagDirective cursor
      else none
    let cursor ← cursor.passWhile isBlank
    let cursor ← if cursor.peek 0 == '#' then cursor.passWhile (!isBreakOrEnd ·) else some cursor
    if isBreakOrEnd (cursor.peek 0) then return (token, ← cursor.passBreak) else none

end RegisterMachine.Markup

import RegisterMachine.Markup.Token

/-!
# Reading tokens

The lexer queues tokens. Indentation opens and closes block collections. A token
that may turn out to be a key on its line is remembered, one per nesting level of
flow collections; when a colon follows, the key token goes in front of it, after the
fact.
-/
namespace RegisterMachine.Markup

/-- A token that may turn out to be a key. -/
structure SimpleKey where
  possible : Bool
  /-- At this place of a block there has to be a key. -/
  required : Bool
  /-- The number of the token. -/
  number : Nat
  mark : Mark
  deriving DecidableEq, Repr

/-- The state of reading tokens. -/
structure Lexer where
  cursor : Cursor
  started : Bool
  /-- Tokens that are read and not taken yet. -/
  queue : List Located
  /-- The number of tokens taken. -/
  taken : Nat
  indent : Int
  /-- The indentation levels outside the present one. -/
  outer : List Int
  /-- The number of flow collections that are open. -/
  flow : Nat
  keyAllowed : Bool
  /-- The possible keys, that of the innermost flow collection first. -/
  keys : List SimpleKey
  /-- The tokens that wait to be known as keys: the number of the token, and the number of flow
  collections around it. -/
  waiting : List (Nat × Nat)
  deriving DecidableEq, Repr

namespace Lexer

def ofStream (s : Stream) : Lexer :=
  ⟨.ofStream s, false, [], 0, -1, [], 0, true, [], []⟩

/-- The number of the next token. -/
def next (lexer : Lexer) : Nat := lexer.taken + lexer.queue.length

def push (lexer : Lexer) (token : Token) (start : Mark) : Lexer :=
  { lexer with queue := lexer.queue ++ [⟨token, start, lexer.cursor.mark⟩] }

/-- Puts a token without characters in front of the token of a number; behind all tokens if
that one is taken. -/
def insert (lexer : Lexer) (number : Nat) (token : Token) (mark : Mark) : Lexer :=
  let place := if number < lexer.taken then lexer.queue.length else number - lexer.taken
  { lexer with queue := lexer.queue.take place ++ ⟨token, mark, mark⟩ :: lexer.queue.drop place }

/-- Deepest nesting of flow collections and of indentation. -/
def depthLimit : Nat := 10000

/-- A key has to end on its line and within this many characters. -/
def keyLimit : Nat := 1024

def isStale (lexer : Lexer) (key : SimpleKey) : Bool :=
  key.mark.line < lexer.cursor.mark.line || key.mark.index + keyLimit < lexer.cursor.mark.index

/-- The token of a number waits no longer. -/
def release (lexer : Lexer) (number : Nat) : Lexer :=
  { lexer with waiting := lexer.waiting.filter (·.1 != number) }

/-- Gives up the possible key of the innermost level; a required one is missed. -/
def dropKey (lexer : Lexer) : Option Lexer :=
  match lexer.keys with
  | [] => some lexer
  | key :: rest =>
      if !key.possible then some lexer
      else if key.required then none
      else some { (lexer.release key.number) with keys := { key with possible := false } :: rest }

/-- Remembers that the next token may be a key. -/
def saveKey (lexer : Lexer) : Option Lexer :=
  if lexer.keyAllowed then do
    let mark := lexer.cursor.mark
    let required := lexer.flow == 0 && lexer.indent == (mark.column : Int)
    let number := lexer.next
    let lexer ← lexer.dropKey
    return { lexer with
      keys := ⟨true, required, number, mark⟩ :: lexer.keys.drop 1
      waiting := (number, lexer.flow) :: lexer.waiting.filter (lexer.taken ≤ ·.1) }
  else some lexer

/-- Opens a block collection if the column is deeper than the present level; its token goes in
front of the token of a number. -/
def openBlock (lexer : Lexer) (column : Nat) (number : Nat) (token : Token) (mark : Mark) :
    Option Lexer :=
  if lexer.flow = 0 ∧ lexer.indent < (column : Int) then
    if depthLimit ≤ lexer.outer.length then none
    else some
      { (lexer.insert number token mark) with
        indent := column
        outer := lexer.indent :: lexer.outer }
  else some lexer

/-- Closes the block collections that are deeper than a column. -/
def closeBlocks (column : Int) : List Int → Lexer → Lexer
  | [], lexer => lexer
  | level :: outer, lexer =>
      if column < lexer.indent then
        closeBlocks column outer
          { (lexer.push .blockEnd lexer.cursor.mark) with indent := level, outer }
      else lexer

def unroll (lexer : Lexer) (column : Int) : Lexer :=
  if lexer.flow = 0 then closeBlocks column lexer.outer lexer else lexer

/-- How far comments are looked for, in bytes. -/
def commentWindow : Nat := 512

/-- How many blanks and, if `breaks`, line breaks stand before a comment sign, from place `n` on
and in no more than `fuel` places; nothing if something else does. A line break of several bytes
ends the search at its second one. -/
def findComment (breaks : Bool) : Nat → Nat → Cursor → Option (Option Nat × Cursor)
  | 0, _, cursor => some (none, cursor)
  | fuel + 1, n, cursor => do
      let cursor ← cursor.need (n + 1)
      let c := cursor.peek n
      if isBlank c || (breaks && (c == '\r' || c == '\n')) then
        findComment breaks fuel (n + 1) cursor
      else if c == '#' then return (some n, cursor)
      else if breaks && isBreak c && fuel != 0 then return (none, ← cursor.need (n + 2))
      else return (none, cursor)

/-- Passes characters and line breaks up to an index in the text. -/
def passTo (index : Nat) : Nat → Cursor → Option Cursor
  | 0, _ => none
  | fuel + 1, cursor => do
      let cursor ← cursor.need 1
      if index ≤ cursor.mark.index then return cursor
      else if isBreak (cursor.peek 0) then passTo index fuel (← cursor.passBreak)
      else passTo index fuel cursor.skip

/-- Passes a comment, and further ones that only blanks and line breaks separate from it. The
last line break stays. -/
def passComments : Nat → Cursor → Option Cursor
  | 0, _ => none
  | fuel + 1, cursor => do
      let cursor ← cursor.passWhile (!isBreakOrEnd ·)
      match ← findComment true commentWindow 0 cursor with
      | (some n, cursor) => passComments fuel (← passTo (cursor.mark.index + n) (n + 1) cursor)
      | (none, cursor) => return cursor

/-- Passes a comment behind a token on the same line. -/
def passLineComment (cursor : Cursor) : Option Cursor :=
  if cursor.fresh then some cursor
  else do
    match ← findComment false commentWindow 0 cursor with
    | (some n, cursor) => (cursor.skipMany n).passWhile (!isBreakOrEnd ·)
    | (none, cursor) => return cursor

def orderMark : Char := Char.ofNat 0xFEFF

/-- Passes the first character of a line if the latest block was decoded at a byte order mark:
the mark itself as a rule, but also what stands first on the lines that follow it. -/
def passOrderMark (cursor : Cursor) : Cursor :=
  if cursor.mark.column == 0 && cursor.origin == orderMark then cursor.skip else cursor

/-- Passes blanks, comments and line breaks before the next token. In a block, tabs do not
count as blanks where a key may stand, and a new line may start with a key. -/
def passGaps : Nat → Lexer → Option Lexer
  | 0, _ => none
  | fuel + 1, lexer => do
      let cursor := passOrderMark (← lexer.cursor.need 1)
      let tabs := decide (0 < lexer.flow) || !lexer.keyAllowed
      let cursor ← cursor.passWhile fun c => c == ' ' || (tabs && c == '\t')
      let cursor ← if cursor.peek 0 == '#' then passComments cursor.fuel cursor else some cursor
      if isBreak (cursor.peek 0) then
        passGaps fuel
          { lexer with
            cursor := ← cursor.passBreak
            keyAllowed := lexer.flow == 0 || lexer.keyAllowed }
      else return { lexer with cursor }

/-- Reads a sign of `width` characters as a token. -/
def sign (lexer : Lexer) (width : Nat) (token : Token) : Lexer :=
  let start := lexer.cursor.mark
  { lexer with cursor := lexer.cursor.skipMany width }.push token start

/-- Ends all blocks, and with them the possible key. -/
def endBlocks (lexer : Lexer) : Option Lexer := do
  let lexer ← (lexer.unroll (-1)).dropKey
  return { lexer with keyAllowed := false }

def fetchStreamEnd (lexer : Lexer) : Option Lexer := do
  let mark := lexer.cursor.mark
  let mark := if mark.column = 0 then mark else { mark with line := mark.line + 1, column := 0 }
  let lexer := { lexer with cursor := { lexer.cursor with mark } }
  return (← lexer.endBlocks).push .streamEnd mark

def fetchDirective (lexer : Lexer) : Option Lexer := do
  let lexer ← lexer.endBlocks
  let start := lexer.cursor.mark
  let (token, cursor) ← scanDirective lexer.cursor
  return { lexer with cursor }.push token start

def fetchMarker (lexer : Lexer) (token : Token) : Option Lexer := do
  return (← lexer.endBlocks).sign 3 token

/-- Opens a flow collection, which may be a key itself. -/
def fetchFlowStart (lexer : Lexer) (token : Token) : Option Lexer := do
  let lexer ← lexer.saveKey
  if depthLimit ≤ lexer.flow then none
  else
    return { lexer with
      keys := ⟨false, false, lexer.next, lexer.cursor.mark⟩ :: lexer.keys
      flow := lexer.flow + 1
      keyAllowed := true }.sign 1 token

/-- Leaves a flow collection. If no token in it could have been a key, the collection itself is
not waited for either. -/
def leaveFlow (lexer : Lexer) : Lexer :=
  match lexer.flow, lexer.keys with
  | flow + 1, key :: keys => { (lexer.release key.number) with keys, flow }
  | _, _ => lexer

/-- Closes a flow collection. -/
def fetchFlowEnd (lexer : Lexer) (token : Token) : Option Lexer := do
  let lexer := (← lexer.dropKey).leaveFlow
  return { lexer with keyAllowed := false }.sign 1 token

def fetchFlowEntry (lexer : Lexer) : Option Lexer := do
  let lexer ← lexer.dropKey
  return { lexer with keyAllowed := true }.sign 1 .flowEntry

def fetchBlockEntry (lexer : Lexer) : Option Lexer := do
  let mark := lexer.cursor.mark
  if lexer.flow == 0 && !lexer.keyAllowed then none
  else
    let lexer ← lexer.openBlock mark.column lexer.next .blockSequenceStart mark
    let lexer ← lexer.dropKey
    return { lexer with keyAllowed := true }.sign 1 .blockEntry

def fetchKey (lexer : Lexer) : Option Lexer := do
  let mark := lexer.cursor.mark
  if lexer.flow == 0 && !lexer.keyAllowed then none
  else
    let lexer ← lexer.openBlock mark.column lexer.next .blockMappingStart mark
    let lexer ← lexer.dropKey
    return { lexer with keyAllowed := lexer.flow == 0 }.sign 1 .key

/-- Reads a colon: behind a possible key it makes that token a key, else it belongs to a key of
its own. -/
def fetchValue (lexer : Lexer) : Option Lexer := do
  let key := lexer.keys.headD ⟨false, false, 0, lexer.cursor.mark⟩
  let stale := lexer.isStale key
  if key.possible && stale && key.required then none
  else if key.possible && !stale then
    let lexer := lexer.insert key.number .key key.mark
    let lexer ← lexer.openBlock key.mark.column key.number .blockMappingStart key.mark
    return { (lexer.release key.number) with
      keys := { key with possible := false } :: lexer.keys.drop 1
      keyAllowed := false }.sign 1 .value
  else if lexer.flow == 0 && !lexer.keyAllowed then none
  else
    let mark := lexer.cursor.mark
    let lexer := { lexer with keys := { key with possible := false } :: lexer.keys.drop 1 }
    let lexer ← lexer.openBlock mark.column lexer.next .blockMappingStart mark
    return { lexer with keyAllowed := lexer.flow == 0 }.sign 1 .value

/-- Reads a token that may be a key and is no collection. -/
def fetchWord (lexer : Lexer) (scan : Cursor → Option (Token × Cursor)) : Option Lexer := do
  let lexer ← lexer.saveKey
  let start := lexer.cursor.mark
  let (token, cursor) ← scan lexer.cursor
  return { lexer with cursor, keyAllowed := false }.push token start

def fetchPlain (lexer : Lexer) : Option Lexer := do
  let lexer ← lexer.saveKey
  let start := lexer.cursor.mark
  let (text, broken, cursor) ← scanPlain (0 < lexer.flow) lexer.indent lexer.cursor
  return { lexer with cursor, keyAllowed := broken }.push (.scalar text .plain) start

def fetchBlock (lexer : Lexer) (folded : Bool) : Option Lexer := do
  let lexer ← lexer.dropKey
  let start := lexer.cursor.mark
  let (text, cursor) ← scanBlock folded lexer.indent lexer.cursor
  return { lexer with cursor, keyAllowed := true }.push
    (.scalar text (if folded then .folded else .literal)) start

/-- A plain scalar may start with a character that is no sign; with `-`, if no blank follows,
and in a block with `?` and `:`, if no gap follows. -/
def startsPlain (flow : Bool) (c following : Char) : Bool :=
  !(isGap c || ("-?:,[]\x7b\x7d#&*!|>'\"%@".toList).contains c || c == Char.ofNat 0x60)
    || (c == '-' && !isBlank following)
    || (!flow && (c == '?' || c == ':') && !isGap following)

/-- Reads the token at the cursor, which is not the end of the stream, no directive and no
document marker. -/
def fetchContent (lexer : Lexer) : Option Lexer :=
  let flow := decide (0 < lexer.flow)
  let c := lexer.cursor.peek 0
  let following := lexer.cursor.peek 1
  if c == '[' then lexer.fetchFlowStart .flowSequenceStart
  else if c == '\x7b' then lexer.fetchFlowStart .flowMappingStart
  else if c == ']' then lexer.fetchFlowEnd .flowSequenceEnd
  else if c == '\x7d' then lexer.fetchFlowEnd .flowMappingEnd
  else if c == ',' then lexer.fetchFlowEntry
  else if c == '-' && isGap following then lexer.fetchBlockEntry
  else if c == '?' && (flow || isGap following) then lexer.fetchKey
  else if c == ':' && (flow || isGap following) then lexer.fetchValue
  else if c == '*' then
    lexer.fetchWord fun cursor => (scanAnchor cursor).map fun (n, r) => (.alias n, r)
  else if c == '&' then
    lexer.fetchWord fun cursor => (scanAnchor cursor).map fun (n, r) => (.anchor n, r)
  else if c == '!' then
    lexer.fetchWord fun cursor => (scanTag cursor).map fun (h, s, r) => (.tag h s, r)
  else if c == '|' && !flow then lexer.fetchBlock false
  else if c == '>' && !flow then lexer.fetchBlock true
  else if c == '\'' then
    lexer.fetchWord fun cursor =>
      (scanQuoted true cursor).map fun (t, r) => (.scalar t .singleQuoted, r)
  else if c == '"' then
    lexer.fetchWord fun cursor =>
      (scanQuoted false cursor).map fun (t, r) => (.scalar t .doubleQuoted, r)
  else if startsPlain flow c following then lexer.fetchPlain
  else none

/-- The last token is the sign of a sequence entry, which takes no comment on its line. -/
def endsWithEntry (lexer : Lexer) : Bool :=
  match lexer.queue.getLast? with
  | some located => located.token = .blockEntry
  | none => false

/-- Reads at least one more token. -/
def fetch (lexer : Lexer) : Option Lexer := do
  let lexer := { lexer with cursor := ← lexer.cursor.need 1 }
  if !lexer.started then
    return { lexer with
      started := true
      keys := [⟨false, false, 0, lexer.cursor.mark⟩] }.push .streamStart lexer.cursor.mark
  else
    let lexer ← passGaps lexer.cursor.fuel lexer
    let lexer := lexer.unroll lexer.cursor.mark.column
    let cursor ← lexer.cursor.need 4
    let lexer := { lexer with cursor }
    if isEnd (cursor.peek 0) then lexer.fetchStreamEnd
    else if cursor.mark.column == 0 && cursor.peek 0 == '%' then lexer.fetchDirective
    else if cursor.startsWithMarker '-' then lexer.fetchMarker .documentStart
    else if cursor.startsWithMarker '.' then lexer.fetchMarker .documentEnd
    else
      let lexer ← lexer.fetchContent
      if lexer.endsWithEntry then return lexer
      else
        let cursor ← passLineComment lexer.cursor
        return { lexer with cursor }

/-- The possible key on the level where the next token to be taken waits, and the place of that
level. -/
def headKey? (lexer : Lexer) : Option (Nat × SimpleKey) := do
  let level ← lexer.waiting.lookup lexer.taken
  let place := lexer.flow - level
  let key ← lexer.keys[place]?
  if key.possible then return (place, key) else none

/-- The number of tokens that are read ahead. -/
def lookahead : Nat := 3

/-- Reads tokens until enough are queued and it is known whether the first one is a key. -/
def fill : Nat → Lexer → Option Lexer
  | 0, _ => none
  | fuel + 1, lexer =>
      if lookahead ≤ lexer.queue.length then
        match lexer.headKey? with
        | none => some lexer
        | some (place, key) =>
            if lexer.isStale key then
              if key.required then none
              else some { lexer with keys := lexer.keys.set place { key with possible := false } }
            else lexer.fetch.bind (fill fuel)
      else lexer.fetch.bind (fill fuel)

/-- The next token, and the lexer that has read it. -/
def peek (lexer : Lexer) : Option (Located × Lexer) := do
  let lexer ← fill lexer.cursor.fuel lexer
  match lexer.queue with
  | located :: _ => return (located, lexer)
  | [] => none

def skip (lexer : Lexer) : Lexer :=
  { lexer with queue := lexer.queue.drop 1, taken := lexer.taken + 1 }

end Lexer

end RegisterMachine.Markup

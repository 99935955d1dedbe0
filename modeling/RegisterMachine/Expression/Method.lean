import RegisterMachine.Expression.Comparison
import RegisterMachine.Expression.Format
import RegisterMachine.Text.LetterCase
import RegisterMachine.Text.Search

/-!
# Methods

A method is named after a dot behind its datum. Texts, lists and dictionaries have
methods, and strings of bytes have one. Positions in texts count bytes; classes and
cases of letters are those of Unicode. A call that does not fit fails.
-/
namespace RegisterMachine.Expression

open Text (byte ofString)

/-- A position in a sequence of `length` elements: negative ones count from the end, and what
lies outside is moved to the nearer end. No datum, or nothing, stands for `default`. -/
def bound? (length default : Nat) : Option Datum → Option Nat
  | none | some .nothing => some default
  | some d => do
      let n ← d.toSmall?
      let n := if n < 0 then n + length else n
      return if n < 0 then 0 else if length < n then length else n.toNat

/-- The bounds of a part of a sequence: at most two data, of which each may be missing. -/
def bounds? (length : Nat) (data : List Datum) : Option (Nat × Nat) :=
  if 2 < data.length then none
  else do return (← bound? length 0 (data[0]?), ← bound? length length (data[1]?))

/-- The part of a text between bounds, and where it starts. -/
def part? (t : Text) (data : List Datum) : Option (Nat × Text) := do
  let (first, last) ← bounds? t.length data
  return (first, (t.take last).drop first)

/-- A limit on pieces: a negative number is none. -/
def limit? : Option Datum → Option (Option Nat)
  | none => some none
  | some d => do
      let n ← d.toWord?
      return if n < 0 then none else some n.toInt.toNat

/-- The character that a unit stands for. -/
def unitCharacter : Text.Unit → Char
  | .character c => c
  | .stray _ => Char.ofNat 0xFFFD

/-- What stripping removes: blanks, or the characters of a text that is not empty. -/
def stripped? : List Datum → Option (Text.Unit → Bool)
  | [] => some Text.Unit.isBlank
  | [.string []] => some Text.Unit.isBlank
  | [.string t] =>
      let cs := t.characters
      some fun u => cs.contains (unitCharacter u)
  | _ => none

/-- All characters belong to a class, and there is one. -/
def allOf (p : Char → Bool) (t : Text) : Datum := .bool (!t.isEmpty && t.characters.all p)

/-- A text that has letters with a case and is not changed by a change of case. -/
def isInCase (f : Char → Char) (t : Text) : Bool :=
  t.characters.any Text.isCased && Text.mapCharacters f t == t

/-- Every word begins with a capital and goes on with small letters; `inside` says that a
letter came before, and `found` that there was one at all. -/
def isTitled (inside found : Bool) : List Char → Bool
  | [] => found
  | c :: cs =>
      if (65 ≤ c.toNat && c.toNat ≤ 90) || Text.isTitleLetter c then
        !inside && isTitled true true cs
      else if Text.isLowerLetter c then inside && isTitled true true cs
      else if Text.isUpperLetter c then false
      else isTitled false found cs

/-- Words with a capital and small letters; `inside` says that a letter came before. -/
def titled (inside : Bool) : List Char → List Char
  | [] => []
  | c :: cs =>
      let c := if inside then Text.toLowerChar c else Text.toTitleChar c
      c :: titled (Text.isCased c) cs

def ofCharacters (cs : List Char) : Datum := .string (cs.flatMap String.utf8EncodeChar)

/-- A test of the start or the end of a text against one text or any of several. -/
def affix? (test : Text → Bool) : Datum → Option Bool
  | .string t => some (test t)
  | .tuple items => affixes items
  | _ => none
where
  /-- Elements behind the first that fits are not looked at. -/
  affixes : List Datum → Option Bool
    | [] => some false
    | .string t :: rest => if test t then some true else affixes rest
    | _ :: _ => none

/-- The text before a separator, the separator and the text behind it. -/
def cutAt (position : Option Nat) (sep t : Text) (missing : List Text) : Datum :=
  .tuple ((match position with
    | some i => [t.take i, sep, t.drop (i + sep.length)]
    | none => missing).map .string)

/-- Texts one after another with a text between them. -/
def joinTexts (sep : Text) (d : Datum) : Run Datum := do
  let add (found : List Text) (d : Datum) : Option (List Text) := d.toText?.map (· :: found)
  let parts ← Run.of ((← sequenceOf d).foldM add [])
  return .string (Text.join sep parts.reverse)

/-- A method of a text, with positional and named arguments. -/
def TextMethod.call (m : TextMethod) (t : Text) (args : List Datum)
    (named : List (Text × Datum)) : Run Datum := do
  if m ≠ .format ∧ !named.isEmpty then failure
  match m, args with
  | .upper, [] => return .string (Text.mapCharacters Text.toUpperChar t)
  | .lower, [] => return .string (Text.mapCharacters Text.toLowerChar t)
  | .title, [] => return ofCharacters (titled false t.characters)
  | .capitalize, [] =>
      match t.characters with
      | [] => return .string []
      | c :: cs => return ofCharacters (Text.toTitleChar c :: cs.map Text.toLowerChar)
  | .isUpper, [] => return .bool (isInCase Text.toUpperChar t)
  | .isLower, [] => return .bool (isInCase Text.toLowerChar t)
  | .isTitle, [] => return .bool (isTitled false false t.characters)
  | .isDigits, [] => return allOf Text.isUnicodeDigit t
  | .isLetters, [] => return allOf Text.isUnicodeLetter t
  | .isLettersOrDigits, [] =>
      return allOf (fun c => Text.isUnicodeLetter c || Text.isUnicodeDigit c) t
  | .isBlank, [] => return allOf Text.isBlank t
  | .elements, [] => return .view .elements t
  | .elementNumbers, [] => return .view .elementNumbers t
  | .codePoints, [] => return .view .codePoints t
  | .codePointNumbers, [] => return .view .codePointNumbers t
  | .strip, args => do
      let p ← Run.of (stripped? args)
      return .string (Text.ofUnits (Text.dropEndWhile p (t.units.dropWhile p)))
  | .stripLeft, args => do
      let p ← Run.of (stripped? args)
      return .string (Text.ofUnits (t.units.dropWhile p))
  | .stripRight, args => do
      let p ← Run.of (stripped? args)
      return .string (Text.ofUnits (Text.dropEndWhile p t.units))
  | .join, [d] => joinTexts t d
  | .find, .string part :: bounds => found part bounds Text.indexOf?
  | .findLast, .string part :: bounds => found part bounds Text.lastIndexOf?
  | .position, .string part :: bounds => present (← found part bounds Text.indexOf?)
  | .positionLast, .string part :: bounds => present (← found part bounds Text.lastIndexOf?)
  | .count, .string part :: bounds => do
      let (_, inside) ← Run.of (part? t bounds)
      return .int (Text.occurrences part inside)
  | .replace, .string old :: .string new :: more => do
      let limit ← Run.of (limit? more.head?)
      if 1 < more.length then failure
      return .string (Text.replaceAll old new limit t)
  | .split, args => split args Text.fields Text.splitAt
  | .splitLast, args => split args Text.lastFields Text.splitAtLast
  | .splitLines, [] => newTexts (Text.lines false t)
  | .splitLines, [.bool keep] => newTexts (Text.lines keep t)
  | .cut, [.string sep] =>
      if sep.isEmpty then failure
      return cutAt (Text.indexOf? sep t) sep t [t, [], []]
  | .cutLast, [.string sep] =>
      if sep.isEmpty then failure
      return cutAt (Text.lastIndexOf? sep t) sep t [[], [], t]
  | .startsWith, d :: bounds => do
      let (_, inside) ← Run.of (part? t bounds)
      return .bool (← Run.of (affix? (fun start => start.isPrefixOf inside) d))
  | .endsWith, d :: bounds => do
      let (_, inside) ← Run.of (part? t bounds)
      return .bool (← Run.of (affix? (fun stop => stop.isSuffixOf inside) d))
  | .format, args => return .string (← Run.view fun s => format? s t args named)
  | .removeStart, [.string start] =>
      return .string (if start.isPrefixOf t then t.drop start.length else t)
  | .removeEnd, [.string stop] =>
      return .string (if stop.isSuffixOf t then t.take (t.length - stop.length) else t)
  | _, _ => failure
where
  /-- The position of a part between bounds; -1 if it is not there. -/
  found (part : Text) (bounds : List Datum) (search : Text → Text → Option Nat) : Run Datum := do
    let (start, inside) ← Run.of (part? t bounds)
    return .int (match search part inside with
      | some i => (start + i : Nat)
      | none => -1)
  /-- A position that has to be one. -/
  present : Datum → Run Datum
    | .int n => if n < 0 then failure else return .int n
    | _ => failure
  /-- The pieces between blanks or between separators. -/
  split (args : List Datum) (blanks : Option Nat → Text → List Text)
      (separators : Text → Option Nat → Text → List Text) : Run Datum := do
    let limit ← Run.of (limit? (args[1]?))
    if 2 < args.length then failure
    match args.head? with
    | none | some .nothing => newTexts (blanks limit t)
    | some (.string []) => failure
    | some (.string sep) => newTexts (separators sep limit t)
    | _ => failure

/-- Where an element is put in or taken out: a negative place counts from the end. -/
def placeIn (length : Nat) (n : Int64) : Int :=
  if n < 0 then n.toInt + length else n.toInt

/-- Adds the elements of a datum to the end of a list. -/
def extendList (place : Nat) (d : Datum) : Run PUnit := do
  let more ← elementsOf d
  changeList place (· ++ more.toArray)

/-- A method of a list. -/
def ListMethod.call (m : ListMethod) (place : Nat) (args : List Datum) : Run Datum := do
  let items ← Run.view (·.items? place)
  match m, args with
  | .append, [d] => changed (·.push d)
  | .clear, [] => changed fun _ => #[]
  | .extend, [d] => do
      extendList place d
      return .nothing
  | .position, d :: bounds => do
      let (first, last) ← Run.of (bounds? items.size bounds)
      match ← positionOf d ((items.toList.take last).drop first) with
      | some i => return .int (first + i : Nat)
      | none => failure
  | .insert, [at_, d] => do
      let n := placeIn items.size (← Run.of at_.toWord?)
      changed fun items => items.insertIdxIfInBounds
        (if n < 0 then 0 else if (items.size : Int) < n then items.size else n.toNat) d
  | .pop, [] => taken items ((items.size : Int) - 1)
  | .pop, [at_] => do taken items (placeIn items.size (← Run.of at_.toWord?))
  | .remove, [d] =>
      match ← positionOf d items.toList with
      | some i => changed (·.eraseIdxIfInBounds i)
      | none => failure
  | _, _ => failure
where
  changed (f : Array Datum → Array Datum) : Run Datum := do
    changeList place f
    return .nothing
  /-- Takes out the element at a place. -/
  taken (items : Array Datum) (n : Int) : Run Datum := do
    if n < 0 then failure
    let d ← Run.of (items[n.toNat]?)
    changeList place (·.eraseIdxIfInBounds n.toNat)
    return d

/-- Key and value from a datum of two elements whose length is known. -/
def pairOf (d : Datum) : Run (Datum × Datum) := do
  match ← Run.view (·.length? d), (← sequenceOf d).toList with
  | 2, [key, value] => return (key, value)
  | _, _ => failure

/-- Puts pairs into a dictionary; no pair may change while the others follow. -/
def putPairs (place : Nat) : List Datum → Run PUnit
  | [] => pure ⟨⟩
  | pair :: rest => do
      let (key, value) ← pairOf pair
      countReaders (· + 1) pair
      putKey place key value
      putPairs place rest
      countReaders (· - 1) pair

/-- No name comes twice. -/
def distinct : List Text → Bool
  | [] => true
  | n :: rest => !rest.contains n && distinct rest

/-- Puts into a dictionary the entries of another one, or pairs, and then named values, of
which no name may come twice. -/
def updateDict (place : Nat) (args : List Datum) (named : List (Text × Datum)) : Run PUnit := do
  match args with
  | [] => pure ⟨⟩
  | [.dict other] => putKeys place (← Run.view (·.dict? other)).entries.toList
  | [d] => do
      let pairs ← elementsOf d
      countReaders (· + 1) d
      putPairs place pairs
      countReaders (· - 1) d
  | _ => failure
  putKeys place (named.map fun (n, d) => (.string n, d))
  if !distinct (named.map (·.1)) then failure

/-- A method of a dictionary, with positional and named arguments. -/
def DictMethod.call (m : DictMethod) (place : Nat) (args : List Datum)
    (named : List (Text × Datum)) : Run Datum := do
  if m ≠ .update ∧ !named.isEmpty then failure
  let cell ← Run.view (·.dict? place)
  match m, args with
  | .clear, [] => changeDict place fun cell => some (.nothing, { cell with entries := #[] })
  | .get, [key] => return (← Run.of (cell.get? key)).getD .nothing
  | .get, [key, default] => return (← Run.of (cell.get? key)).getD default
  | .items, [] => newList (cell.entries.map fun (key, value) => .tuple [key, value])
  | .keys, [] => newList (cell.entries.map (·.1))
  | .values, [] => newList (cell.entries.map (·.2))
  | .pop, [key] => do Run.of (← changeDict place (·.take? key))
  | .pop, [key, default] => return (← changeDict place (·.take? key)).getD default
  | .popItem, [] => do
      let (key, value) ← Run.of (cell.entries[0]?)
      let _ ← changeDict place (·.take? key)
      return .tuple [key, value]
  | .setDefault, [key] => setDefault cell key .nothing
  | .setDefault, [key, default] => setDefault cell key default
  | .update, args => do
      updateDict place args named
      return .nothing
  | _, _ => failure
where
  setDefault (cell : DictCell) (key default : Datum) : Run Datum := do
    match ← Run.of (cell.get? key) with
    | some d => return d
    | none =>
        putKey place key default
        return default

/-- A method called. -/
def Method.call (m : Method) (args : List Datum) (named : List (Text × Datum)) : Run Datum :=
  match m with
  | .ofText m t => m.call t args named
  | .ofBytes t => if args.isEmpty && named.isEmpty then return .view .byteNumbers t else failure
  | .ofList m place => if named.isEmpty then m.call place args else failure
  | .ofDict m place => m.call place args named

end RegisterMachine.Expression

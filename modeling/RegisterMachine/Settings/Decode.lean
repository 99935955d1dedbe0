import RegisterMachine.Markup.Node
import RegisterMachine.Settings.Basic
import RegisterMachine.Text.Base64

/-!
# Settings from markup

A mapping with the names of settings as keys sets some of them; the others keep what
they are. Everything that does not fit is reported, not only the first thing. A key
`<<` merges other mappings, whose entries count only where there are none.
-/
namespace RegisterMachine.Settings

open Text (ofString)
open Markup (Node Document Mark Implicit)

/-- What decoding has come to. -/
structure Progress where
  /-- The issues, the latest first. -/
  issues : List Text
  /-- The number of nodes that were decoded, repeated ones included. -/
  decoded : Nat
  /-- The number of those that were reached through a reference. -/
  referred : Nat
  deriving DecidableEq, Repr

namespace Progress

def start : Progress := ⟨[], 0, 0⟩

/-- The part of the decoded nodes that may be reached through references: nearly all of a small
number, a tenth of a large one, and a part between these in between. -/
def allowedPart (decoded : Nat) : Float :=
  if decoded ≤ 400000 then 0.99
  else if 4000000 ≤ decoded then 0.10
  else 0.99 - 0.89 * (Float.ofNat (decoded - 400000) / 3600000.0)

/-- References repeat so much that a short document would stand for a huge one. -/
def isExcessive (p : Progress) : Bool :=
  decide (100 < p.referred) && decide (1000 < p.decoded)
    && decide (allowedPart p.decoded < Float.ofNat p.referred / Float.ofNat p.decoded)

/-- One more node. -/
def count (referred : Bool) (p : Progress) : Progress :=
  { p with
    decoded := p.decoded + 1
    referred := if referred then p.referred + 1 else p.referred }

end Progress

/-- Decoding collects issues; some errors end it. -/
abbrev Decode := StateT Progress Option

namespace Decode

def fail {α : Type} : Decode α := fun _ => none

def report (issue : Text) : Decode PUnit := modify fun p => { p with issues := issue :: p.issues }

/-- Counts a node, and fails if references repeat too much. -/
def count (referred : Bool) : Decode PUnit := fun p =>
  let p := p.count referred
  if p.isExcessive then none else some (⟨⟩, p)

end Decode

/-- The types that parts of settings have. -/
inductive Kind where
  | settings
  | int
  | bool
  | string
  | constants
  deriving DecidableEq, Repr

def Kind.name : Kind → Text
  | .settings => ofString "config.Config"
  | .int => ofString "int"
  | .bool => ofString "bool"
  | .string => ofString "string"
  | .constants => ofString "map[string]int"

/-- The beginning of an issue. -/
def atLine (n : Nat) : Text := ofString "line " ++ Text.decimal n ++ ofString ": "

/-- A value for a message; only the beginning of a long one. -/
def excerpt (value : Text) : Text :=
  let shown := if 10 < value.length then value.take 7 ++ ofString "..." else value
  [32, 0x60] ++ shown ++ [0x60]

/-- The issue of a node that does not fit a type. -/
def misfit (line : Nat) (tag value : Text) (kind : Kind) : Text :=
  let shown := if tag == Markup.sequenceTag || tag == Markup.mappingTag then value
    else excerpt value
  atLine line ++ ofString "cannot unmarshal " ++ tag ++ shown ++ ofString " into " ++ kind.name

/-- The value of a scalar. -/
inductive Scalar where
  | null
  | bool (b : Bool)
  | int (n : Int)
  | float (x : Float)
  | date
  | text (t : Text)
  /-- Bytes that are written in base 64. -/
  | binary (t : Text)

def Scalar.ofImplicit (value : Text) : Implicit → Scalar
  | .null => .null
  | .bool b => .bool b
  | .int n => .int n
  | .float x => .float x
  | .timestamp => .date
  | .text => .text value

/-- The tags of values that are known by their looks. -/
def isImplicitTag (tag : Text) : Bool :=
  (["!!null", "!!bool", "!!int", "!!float", "!!timestamp"].map ofString).contains tag

/-- The value of a scalar under its tag; nothing if it does not suit the tag. A tag for floating
point takes integers too, and under a tag without a meaning every scalar is a text. -/
def scalar? (tag value : Text) : Option Scalar :=
  if tag == ofString "!!binary" then (Text.decodeBase64? value).map .binary
  else if !isImplicitTag tag then some (.text value)
  else
    let implicit := Implicit.ofText (tag == ofString "!!timestamp") value
    if implicit.tag == tag then some (.ofImplicit value implicit)
    else match implicit with
      | .int n =>
          if tag == ofString "!!float" ∧ n < 9223372036854775808 then
            (Floating.ofInt? n).map .float
          else none
      | _ => none

/-- The integer that a number gives, rounded toward zero. Numbers beyond the least integer, and
the one just above the greatest, give the least integer; larger ones do not fit. -/
def integerOf? : Scalar → Option Int64
  | .int n => if n < 9223372036854775808 then some (Int64.ofInt n) else none
  | .float x =>
      match Floating.parts? x with
      | some p =>
          let n := p.truncated
          if n ≤ -9223372036854775808 ∨ n = 9223372036854775808 then some Int64.minValue
          else if n < 9223372036854775808 then some (Int64.ofInt n)
          else none
      | none => if x < 0 then some Int64.minValue else none
  | _ => none

/-- The words that stand for truth values where one is wanted. -/
def truth? (t : Text) : Option Bool :=
  if (["y", "Y", "yes", "Yes", "YES", "on", "On", "ON"].map ofString).contains t then some true
  else if (["n", "N", "no", "No", "NO", "off", "Off", "OFF"].map ofString).contains t then
    some false
  else none

def boolOf? : Scalar → Option Bool
  | .bool b => some b
  | .text t | .binary t => truth? t
  | _ => none

/-- Comes to a node that is to be decoded: the node that a reference stands for, and the
references that led to it. A reference inside the node that it stands for is an error. -/
def follow (document : Document) (visiting : List Mark) (node : Node) :
    Decode (List Mark × Node) := do
  Decode.count !visiting.isEmpty
  match node with
  | .reference mark _ number =>
      if visiting.contains mark then Decode.fail
      else match document.find? number with
        | some target =>
            Decode.count true
            return (mark :: visiting, target)
        | none => Decode.fail
  | node => return (visiting, node)

/-- Reports keys that stand twice in a mapping, and tells whether there are any. -/
def reportRepeated : List (Node × Node) → Decode Bool
  | [] => pure false
  | (key, _) :: rest => do
      let again := rest.filter fun (other, _) =>
        other.kind == key.kind && other.value == key.value
      let _ ← again.mapM fun (other, _) => Decode.report (atLine other.line
        ++ ofString "mapping key " ++ Text.quote Text.isPrintable other.value
        ++ ofString " already defined at line " ++ Text.decimal key.line)
      let more ← reportRepeated rest
      return more || !again.isEmpty

/-- A scalar decoded as a type: nothing if it is null or if it does not fit. -/
def decodeScalar {α : Type} (kind : Kind) (convert : Text → Scalar → Option α)
    (line : Nat) (tag value : Text) : Decode (Option α) :=
  match scalar? tag value with
  | none => Decode.fail
  | some .null => pure none
  | some s =>
      match convert value s with
      | some a => pure (some a)
      | none => do
          Decode.report (misfit line tag value kind)
          return none

/-- A node decoded as a type that only scalars have. -/
def decodeValue {α : Type} (document : Document) (kind : Kind)
    (convert : Text → Scalar → Option α) (visiting : List Mark) (node : Node) :
    Decode (Option α) := do
  let (_, node) ← follow document visiting node
  match node with
  | .scalar line tag value => decodeScalar kind convert line tag value
  | .mapping line tag pairs =>
      if !(← reportRepeated pairs) then Decode.report (misfit line tag [] kind)
      return none
  | .sequence line tag _ =>
      Decode.report (misfit line tag [] kind)
      return none
  | .reference _ _ _ => Decode.fail

def decodeInt (document : Document) : List Mark → Node → Decode (Option Int64) :=
  decodeValue document .int fun _ s => integerOf? s

def decodeBool (document : Document) : List Mark → Node → Decode (Option Bool) :=
  decodeValue document .bool fun _ s => boolOf? s

/-- Any scalar is a text as it is written. -/
def decodeText (document : Document) : List Mark → Node → Decode (Option Text) :=
  decodeValue document .string fun value s =>
    match s with
    | .binary t => some t
    | _ => some value

/-- A node that stands for nothing. -/
def isNull (document : Document) (node : Node) : Bool :=
  let tag := match node with
    | .scalar _ tag _ => tag
    | .reference _ _ number =>
        match document.find? number with
        | some (.scalar _ tag _) => tag
        | _ => []
    | _ => []
  tag == Implicit.null.tag

/-- The key that merges mappings. -/
def isMerge : Node → Bool
  | .scalar _ tag value => tag == Markup.mergeTag && value == ofString "<<"
  | _ => false

/-- Stores an entry of a mapping: the references that are followed, the names stored from this
mapping already, the key, its name, and the value. -/
abbrev Store (σ : Type) := List Mark → List Text → Node → Text → Node → σ → Decode σ

/-- What the entries of a mapping leave behind. -/
structure Entries (σ : Type) where
  state : σ
  /-- While mappings are merged, the names that are taken. -/
  taken : Option (List Text)
  /-- What the mapping merges. -/
  merged : Option Node

/-- Stores the entries of a mapping in order. -/
def decodeEntries {σ : Type} (document : Document) (store : Store σ) (visiting : List Mark) :
    List Text → List (Node × Node) → Entries σ → Decode (Entries σ)
  | _, [], e => pure e
  | seen, (key, value) :: rest, e => do
      if isMerge key then
        decodeEntries document store visiting seen rest { e with merged := some value }
      else
        match ← decodeText document visiting key with
        | none => decodeEntries document store visiting seen rest e
        | some name =>
            if (e.taken.getD []).contains name then
              decodeEntries document store visiting seen rest e
            else
              let state ← store visiting seen key name value e.state
              decodeEntries document store visiting (name :: seen) rest
                { e with state, taken := e.taken.map (name :: ·) }

/-- The names of a mapping's keys that are texts. -/
def textKeys (document : Document) (visiting : List Mark) (pairs : List (Node × Node)) :
    Decode (List Text) := do
  let names ← pairs.mapM fun (key, _) => do
    let (_, key) ← follow document visiting key
    match key with
    | .scalar _ tag value =>
        match scalar? tag value with
        | some (.text t) | some (.binary t) => pure (some t)
        | some _ => pure none
        | none => Decode.fail
    | _ => pure none
  return names.filterMap id

/-- A mapping, or a reference to one. -/
def isMapping (document : Document) : Node → Bool
  | .mapping _ _ _ => true
  | .reference _ _ number =>
      match document.find? number with
      | some (.mapping _ _ _) => true
      | _ => false
  | _ => false

/-- Merges mappings in order, so that earlier ones win. `merge` stores the entries of one of them
under the names that are taken. -/
def mergeAll {σ : Type} (document : Document)
    (merge : List Mark → List Text → List (Node × Node) → σ → Decode (σ × List Text))
    (visiting : List Mark) : List Text → List Node → σ → Decode (σ × List Text)
  | names, [], state => pure (state, names)
  | names, node :: rest, state => do
      if !isMapping document node then Decode.fail
      else
        let (inside, node) ← follow document visiting node
        match node with
        | .mapping _ _ pairs =>
            let (state, names) ← merge inside names pairs state
            mergeAll document merge visiting names rest state
        | _ => Decode.fail

/-- Stores the entries of a mapping, then those of the mappings that it merges. -/
def decodeMapping {σ : Type} (document : Document) (store : Store σ) :
    Nat → List Mark → Option (List Text) → List (Node × Node) → σ →
      Decode (σ × Option (List Text))
  | 0, _, _, _, _ => Decode.fail
  | fuel + 1, visiting, taken, pairs, state => do
      if ← reportRepeated pairs then return (state, taken)
      else
        let e ← decodeEntries document store visiting [] pairs ⟨state, taken, none⟩
        match e.merged with
        | none => return (e.state, e.taken)
        | some node =>
            let names ← match e.taken with
              | some names => pure names
              | none => textKeys document visiting pairs
            let nodes := match node with
              | .sequence _ _ items => items
              | node => [node]
            let merge inside names pairs state := do
              let (state, taken) ← decodeMapping document store fuel inside (some names) pairs state
              return (state, taken.getD names)
            let (state, names) ← mergeAll document merge visiting names nodes e.state
            return (state, e.taken.map fun _ => names)

/-- Stores a constant. One that is null is zero, unless it is there already. -/
def storeConstant (document : Document) : Store NameTable :=
  fun visiting _ _ name value table => do
    match ← decodeInt document visiting value with
    | some n => return table.insert name n
    | none =>
        if isNull document value && !table.contains name then return table.insert name 0
        else return table

/-- A table of constants; null is the empty one. -/
def decodeConstants (document : Document) (visiting : List Mark) (table : NameTable)
    (node : Node) : Decode NameTable := do
  let (visiting, node) ← follow document visiting node
  match node with
  | .mapping _ _ pairs =>
      let (table, _) ← decodeMapping document (storeConstant document) document.bound
        visiting none pairs table
      return table
  | .sequence line tag _ =>
      Decode.report (misfit line tag [] .constants)
      return table
  | .scalar line tag value =>
      match scalar? tag value with
      | none => Decode.fail
      | some .null => return .empty
      | some _ =>
          Decode.report (misfit line tag value .constants)
          return table
  | .reference _ _ _ => Decode.fail

/-- Stores one of the settings by name. -/
def storeField (document : Document) : Store Settings :=
  fun visiting seen key name value s => do
    let named (n : String) : Bool := name == ofString n
    if !(named "speed" || named "stack_cells" || named "entry_label" || named "language"
        || named "line_edit" || named "verbose" || named "defines") then
      Decode.report (atLine key.line ++ ofString "field " ++ name
        ++ ofString " not found in type " ++ Kind.settings.name)
      return s
    else if seen.contains name then
      Decode.report (atLine key.line ++ ofString "field " ++ name
        ++ ofString " already set in type " ++ Kind.settings.name)
      return s
    else if named "speed" then
      return { s with speed := (← decodeInt document visiting value).getD s.speed }
    else if named "stack_cells" then
      return { s with stackCells := (← decodeInt document visiting value).getD s.stackCells }
    else if named "entry_label" then
      return { s with entryLabel := (← decodeText document visiting value).getD s.entryLabel }
    else if named "language" then
      return { s with language := (← decodeText document visiting value).getD s.language }
    else if named "line_edit" then
      return { s with lineEdit := (← decodeBool document visiting value).getD s.lineEdit }
    else if named "verbose" then
      return { s with verbose := (← decodeBool document visiting value).getD s.verbose }
    else return { s with defines := ← decodeConstants document visiting s.defines value }

/-- The settings of a document: null changes nothing. The document counts as a node, and its
root as another. -/
def decodeDocument (document : Document) (s : Settings) : Decode Settings := do
  Decode.count false
  let (visiting, root) ← follow document [] document.root
  match root with
  | .mapping _ _ pairs =>
      let (s, _) ← decodeMapping document (storeField document) document.bound visiting none pairs s
      return s
  | .sequence line tag _ =>
      Decode.report (misfit line tag [] .settings)
      return s
  | .scalar line tag value =>
      match scalar? tag value with
      | none => Decode.fail
      | some .null => return s
      | some _ =>
          Decode.report (misfit line tag value .settings)
          return s
  | .reference _ _ _ => Decode.fail

/-- What is wrong with text that is not well-formed: a reader that fails at once is to blame
itself. -/
def unreadFault (reader : Reader) : Fault :=
  match reader.pending, reader.ending with
  | [], .failure message => .unreadable message
  | _, _ => .malformed

/-- Reads and validates settings. Without a document they are the initial ones. -/
def parse (reader : Reader) : Except Fault Settings :=
  match Markup.Reading.ofStream (.ofReader reader) with
  | .malformed => .error (unreadFault reader)
  | .nothing => initial.validate
  | .document d =>
      match decodeDocument d initial .start with
      | none => .error .malformed
      | some (s, progress) =>
          if progress.issues.isEmpty then s.validate
          else .error (.misfit progress.issues.reverse)

/-- Settings from a file, given by its path and what opening it gives. -/
def load (path : Text) (content : Except Refusal Reader) : Except Failure Settings :=
  match content with
  | .error refusal => .error ⟨none, .refused path refusal⟩
  | .ok content =>
      match parse content with
      | .ok s => .ok s
      | .error fault => .error ⟨some path, fault⟩

end RegisterMachine.Settings

import RegisterMachine.Markup.Implicit
import RegisterMachine.Markup.Lexer

/-!
# Documents

The first document of a stream is a tree of nodes: scalars, sequences, mappings and
references to nodes that were given a name before. Only the tokens of that document,
and those that the lexer reads ahead, have to be well-formed.
-/
namespace RegisterMachine.Markup

open Text (byte ofString)

/-- A part of a document. -/
inductive Node where
  | scalar (line : Nat) (tag value : Text)
  | sequence (line : Nat) (tag : Text) (items : List Node)
  | mapping (line : Nat) (tag : Text) (pairs : List (Node × Node))
  /-- A reference to a named node, by the number of its name. The mark tells references
  apart. -/
  | reference (mark : Mark) (anchor : Text) (target : Nat)

namespace Node

instance : Inhabited Node := ⟨.scalar 0 [] []⟩

/-- The line on which a node starts, counted from one. -/
def line : Node → Nat
  | .scalar line _ _ | .sequence line _ _ | .mapping line _ _ => line
  | .reference mark _ _ => mark.line + 1

/-- The kind of a node as a number. -/
def kind : Node → Nat
  | .scalar _ _ _ => 0
  | .sequence _ _ _ => 1
  | .mapping _ _ _ => 2
  | .reference _ _ _ => 3

/-- What stands for a node where only texts can: the text of a scalar, the name of a
reference. -/
def value : Node → Text
  | .scalar _ _ value => value
  | .reference _ anchor _ => anchor
  | _ => []

end Node

/-- A document: its root and the named nodes by number. -/
structure Document where
  root : Node
  named : List (Nat × Node)
  /-- More than there are mappings: on no path that follows references but never inside what they
  stand for are there as many. -/
  bound : Nat

def Document.find? (document : Document) (number : Nat) : Option Node :=
  (document.named.find? (·.1 == number)).map (·.2)

def standardStart : Text := ofString "tag:yaml.org,2002:"

/-- Tags of the standard are written with two exclamation marks. -/
def shortTag (tag : Text) : Text :=
  if standardStart.isPrefixOf tag then ofString "!!" ++ tag.drop standardStart.length else tag

def textTag : Text := ofString "!!str"

def mergeTag : Text := ofString "!!merge"

def sequenceTag : Text := ofString "!!seq"

def mappingTag : Text := ofString "!!map"

/-- The tag of a node: the one it is given, or else a default. -/
def nodeTag (given default : Text) : Text :=
  if given.isEmpty || given == [byte '!'] then default else shortTag given

/-- The tag of a scalar. -/
def scalarTag (given : Text) (style : Style) (value : Text) : Text :=
  nodeTag given (match style with
    | .plain => if value == ofString "<<" then mergeTag else (Implicit.ofText true value).tag
    | _ => textTag)

/-- The state of reading a document. -/
structure Builder where
  lexer : Lexer
  /-- What the handles of tags stand for. -/
  handles : List (Text × Text)
  /-- The names so far, the latest first. -/
  anchors : List (Text × Nat)
  named : List (Nat × Node)

/-- Reading may fail. -/
abbrev Build := StateT Builder Option

namespace Build

def fail {α : Type} : Build α := fun _ => none

def peek : Build Located := fun b =>
  (b.lexer.peek).map fun (located, lexer) => (located, { b with lexer })

def skip : Build PUnit := fun b => some (⟨⟩, { b with lexer := b.lexer.skip })

/-- Takes the next token if it is a given one. -/
def accept (token : Token) : Build Bool := do
  let next ← peek
  if next.token = token then
    skip
    return true
  else return false

/-- Names the node that is about to be read. -/
def name (anchor : Text) : Build Nat := fun b =>
  let number := b.anchors.length
  some (number, { b with anchors := (anchor, number) :: b.anchors })

/-- Keeps a node under its number. -/
def keep (number : Option Nat) (node : Node) : Build Node := fun b =>
  match number with
  | some n => some (node, { b with named := (n, node) :: b.named })
  | none => some (node, b)

end Build

def emptyScalar (mark : Mark) : Node :=
  .scalar (mark.line + 1) (scalarTag [] .plain []) []

/-- The full tag of a handle and a suffix. -/
def fullTag? (handles : List (Text × Text)) (handle suffix : Text) : Option Text :=
  if handle.isEmpty then some suffix
  else match handles.find? (·.1 == handle) with
    | some (_, start) => if (start ++ suffix).isEmpty then none else some (start ++ suffix)
    | none => none

/-- The name and the tag of a node. -/
structure Properties where
  anchor : Option Text
  tag : Option Text

/-- Reads the name and the tag before a node, in either order. -/
def properties (start : Located) : Build Properties := do
  match start.token with
  | .anchor anchor =>
      Build.skip
      let next ← Build.peek
      match next.token with
      | .tag handle suffix =>
          Build.skip
          return ⟨some anchor, ← full handle suffix⟩
      | _ => return ⟨some anchor, none⟩
  | .tag handle suffix =>
      Build.skip
      let tag ← full handle suffix
      let next ← Build.peek
      match next.token with
      | .anchor anchor =>
          Build.skip
          return ⟨some anchor, tag⟩
      | _ => return ⟨none, tag⟩
  | _ => return ⟨none, none⟩
where
  full (handle suffix : Text) : Build (Option Text) := fun b =>
    (fullTag? b.handles handle suffix).map fun tag => (some tag, b)

/-- A reference to the latest node of a name. -/
def reference (mark : Mark) (anchor : Text) : Build Node := fun b =>
  (b.anchors.find? (·.1 == anchor)).map fun (_, number) => (.reference mark anchor number, b)

mutual

/-- Reads a node. Block collections are read if `block`, and a sequence without indentation of
its own if `indentless`. -/
def buildNode : Nat → Bool → Bool → Build Node
  | 0, _, _ => Build.fail
  | fuel + 1, block, indentless => do
      let start ← Build.peek
      match start.token with
      | .alias anchor =>
          Build.skip
          reference start.start anchor
      | _ =>
          let given ← properties start
          let next ← Build.peek
          let line := start.start.line + 1
          let tag := given.tag.getD []
          let number ← match given.anchor with
            | some anchor => some <$> Build.name anchor
            | none => pure none
          match next.token with
          | .scalar value style =>
              Build.skip
              Build.keep number (.scalar line (scalarTag tag style value) value)
          | .flowSequenceStart =>
              Build.skip
              let items ← buildFlowItems fuel true []
              Build.keep number (.sequence line (nodeTag tag sequenceTag) items)
          | .flowMappingStart =>
              Build.skip
              let pairs ← buildFlowPairs fuel true []
              Build.keep number (.mapping line (nodeTag tag mappingTag) pairs)
          | token =>
              if indentless && token = .blockEntry then
                let items ← buildIndentless fuel []
                Build.keep number (.sequence line (nodeTag tag sequenceTag) items)
              else if block && token = .blockSequenceStart then
                Build.skip
                let items ← buildItems fuel []
                Build.keep number (.sequence line (nodeTag tag sequenceTag) items)
              else if block && token = .blockMappingStart then
                Build.skip
                let pairs ← buildPairs fuel []
                Build.keep number (.mapping line (nodeTag tag mappingTag) pairs)
              else if given.anchor.isSome || given.tag.isSome then
                Build.keep number (.scalar line (scalarTag tag .plain []) [])
              else Build.fail

/-- Reads the entries of a block sequence up to its end, with those so far in reverse. -/
def buildItems : Nat → List Node → Build (List Node)
  | 0, _ => Build.fail
  | fuel + 1, done => do
      let entry ← Build.peek
      match entry.token with
      | .blockEnd =>
          Build.skip
          return done.reverse
      | .blockEntry =>
          Build.skip
          let next ← Build.peek
          if next.token = .blockEntry ∨ next.token = .blockEnd then
            buildItems fuel (emptyScalar entry.stop :: done)
          else
            let node ← buildNode fuel true false
            buildItems fuel (node :: done)
      | _ => Build.fail

/-- Reads the entries of a sequence that is no deeper than its mapping. -/
def buildIndentless : Nat → List Node → Build (List Node)
  | 0, _ => Build.fail
  | fuel + 1, done => do
      let entry ← Build.peek
      if entry.token = .blockEntry then
        Build.skip
        let next ← Build.peek
        if next.token = .blockEntry ∨ next.token = .key ∨ next.token = .value
            ∨ next.token = .blockEnd then
          buildIndentless fuel (emptyScalar entry.stop :: done)
        else
          let node ← buildNode fuel true false
          buildIndentless fuel (node :: done)
      else return done.reverse

/-- Reads the pairs of a block mapping up to its end, with those so far in reverse. -/
def buildPairs : Nat → List (Node × Node) → Build (List (Node × Node))
  | 0, _ => Build.fail
  | fuel + 1, done => do
      let sign ← Build.peek
      match sign.token with
      | .blockEnd =>
          Build.skip
          return done.reverse
      | .key =>
          Build.skip
          let key ← buildPart fuel sign.stop
          let sign ← Build.peek
          if sign.token = .value then
            Build.skip
            let value ← buildPart fuel sign.stop
            buildPairs fuel ((key, value) :: done)
          else buildPairs fuel ((key, emptyScalar sign.start) :: done)
      | _ => Build.fail

/-- Reads a key or a value of a block mapping, which may be missing. -/
def buildPart : Nat → Mark → Build Node
  | 0, _ => Build.fail
  | fuel + 1, mark => do
      let next ← Build.peek
      if next.token = .key ∨ next.token = .value ∨ next.token = .blockEnd then
        return emptyScalar mark
      else buildNode fuel true true

/-- Reads the entries of a flow sequence up to its end, with those so far in reverse. A pair
among them is a mapping of its own. -/
def buildFlowItems : Nat → Bool → List Node → Build (List Node)
  | 0, _, _ => Build.fail
  | fuel + 1, first, done => do
      let next ← Build.peek
      if next.token = .flowSequenceEnd then
        Build.skip
        return done.reverse
      else
        if !first then
          if !(← Build.accept .flowEntry) then Build.fail
        let next ← Build.peek
        match next.token with
        | .flowSequenceEnd =>
            Build.skip
            return done.reverse
        | .key =>
            Build.skip
            let pair ← buildFlowPair fuel
            let node := Node.mapping (next.start.line + 1) mappingTag [pair]
            buildFlowItems fuel false (node :: done)
        | _ =>
            let node ← buildNode fuel false false
            buildFlowItems fuel false (node :: done)

/-- Reads a pair inside a flow sequence, behind the key sign. A sign in place of the key is
passed over. -/
def buildFlowPair : Nat → Build (Node × Node)
  | 0 => Build.fail
  | fuel + 1 => do
      let next ← Build.peek
      let key ←
        if next.token = .value ∨ next.token = .flowEntry ∨ next.token = .flowSequenceEnd then do
          Build.skip
          pure (emptyScalar next.stop)
        else buildNode fuel false false
      let colon ← Build.accept .value
      let next ← Build.peek
      if colon ∧ next.token ≠ .flowEntry ∧ next.token ≠ .flowSequenceEnd then
        let value ← buildNode fuel false false
        return (key, value)
      else return (key, emptyScalar next.start)

/-- Reads the pairs of a flow mapping up to its end, with those so far in reverse. -/
def buildFlowPairs : Nat → Bool → List (Node × Node) → Build (List (Node × Node))
  | 0, _, _ => Build.fail
  | fuel + 1, first, done => do
      let next ← Build.peek
      if next.token = .flowMappingEnd then
        Build.skip
        return done.reverse
      else
        if !first then
          if !(← Build.accept .flowEntry) then Build.fail
        let next ← Build.peek
        match next.token with
        | .flowMappingEnd =>
            Build.skip
            return done.reverse
        | .key =>
            Build.skip
            let next ← Build.peek
            let key ←
              if next.token = .value ∨ next.token = .flowEntry ∨ next.token = .flowMappingEnd then
                pure (emptyScalar next.start)
              else buildNode fuel false false
            let colon ← Build.accept .value
            let next ← Build.peek
            let value ←
              if colon ∧ next.token ≠ .flowEntry ∧ next.token ≠ .flowMappingEnd then
                buildNode fuel false false
              else pure (emptyScalar next.start)
            buildFlowPairs fuel false ((key, value) :: done)
        | _ =>
            let key ← buildNode fuel false false
            let next ← Build.peek
            buildFlowPairs fuel false ((key, emptyScalar next.start) :: done)

end

/-- The handles that every document knows. -/
def standardHandles : List (Text × Text) :=
  [(ofString "!", ofString "!"), (ofString "!!", standardStart)]

/-- Reads the directives before a document: at most one version, which has to be 1.1, and
handles, each at most once. -/
def directives : Nat → Bool → List (Text × Text) → Build (List (Text × Text))
  | 0, _, _ => Build.fail
  | fuel + 1, versioned, handles => do
      let next ← Build.peek
      match next.token with
      | .version major minor =>
          if versioned ∨ major ≠ 1 ∨ minor ≠ 1 then Build.fail
          else
            Build.skip
            directives fuel true handles
      | .tagDirective handle start =>
          if handles.any (·.1 == handle) then Build.fail
          else
            Build.skip
            directives fuel versioned (handles ++ [(handle, start)])
      | _ => return handles

/-- A token that a document cannot start with, unless it is an empty one. -/
def endsDocument : Token → Bool
  | .version _ _ | .tagDirective _ _ | .documentStart | .documentEnd | .streamEnd => true
  | _ => false

/-- Reads the root of the first document; nothing if there is no document. The token behind the
root has to be well-formed, whatever it is. -/
def buildRoot (fuel : Nat) : Build (Option Node) := do
  Build.skip
  let first ← Build.peek
  match first.token with
  | .streamEnd => return none
  | .version _ _ | .tagDirective _ _ | .documentStart =>
      let handles ← directives fuel false []
      modify fun b => { b with handles := handles ++ standardHandles }
      if !(← Build.accept .documentStart) then Build.fail
      let next ← Build.peek
      let root ← if endsDocument next.token then pure (emptyScalar next.start)
        else buildNode fuel true false
      let _ ← Build.peek
      return some root
  | _ =>
      let root ← buildNode fuel true false
      let _ ← Build.peek
      return some root

/-- What reading markup gives. -/
inductive Reading where
  | malformed
  /-- There is no document. -/
  | nothing
  | document (d : Document)

/-- Reads the first document of a stream. No tree is deeper than the stream is long. -/
def Reading.ofStream (s : Stream) : Reading :=
  let builder : Builder := ⟨.ofStream s, standardHandles, [], []⟩
  let result := (do
    let _ ← Build.peek
    buildRoot (8 * (s.size + 8)) : Build (Option Node)) builder
  match result with
  | none => .malformed
  | some (none, _) => .nothing
  | some (some root, b) => .document ⟨root, b.named, s.size + 1⟩

end RegisterMachine.Markup

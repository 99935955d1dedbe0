import RegisterMachine.Assembler.Basic
import RegisterMachine.Folder
import RegisterMachine.Machine
import RegisterMachine.Text.Blank
import RegisterMachine.Text.Printable
import RegisterMachine.Text.Quoted

/-!
# Settings of a machine

Settings say how fast a machine runs, how large its stack is, where programs start,
and which constants expressions know. Valid settings have a positive speed, at least
one stack cell, an entry label that is not blank, and constants with the names of
identifiers.
-/
namespace RegisterMachine

open Text (ofString)

structure Settings where
  /-- Steps per second. -/
  speed : Int64
  stackCells : Int64
  entryLabel : Text
  /-- The language of messages. -/
  language : Text
  /-- Read lines from the terminal. -/
  lineEdit : Bool
  verbose : Bool
  /-- Constants for expressions. -/
  defines : NameTable
  deriving DecidableEq, Repr

namespace Settings

def initial : Settings where
  speed := Machine.defaultSpeed
  stackCells := Machine.defaultCells
  entryLabel := Assembler.defaultEntryLabel
  language := []
  lineEdit := false
  verbose := false
  defines := .empty

/-- What is wrong with settings. -/
inductive Issue where
  | speed (n : Int64)
  | stackCells (n : Int64)
  | entryLabel
  /-- A constant whose name is no identifier. -/
  | constantName (name : Text)
  deriving DecidableEq, Repr

def Issue.message : Issue → Text
  | .speed n => ofString "speed must be positive, not " ++ Text.groupedDecimal 0 n.toInt
  | .stackCells n => ofString "stack_cells must be positive, not " ++ Text.groupedDecimal 0 n.toInt
  | .entryLabel => ofString "entry_label must be provided"
  | .constantName name =>
      ofString "defines: " ++ Text.quote Text.isPrintable name ++ ofString " is not an identifier"

/-- The names of constants that are no identifiers, in the order of their messages. -/
def nameIssues (s : Settings) : List Issue :=
  let found := (s.defines.entries.filter fun (name, _) => !Text.isIdentifier name).map
    fun (name, _) => Issue.constantName name
  found.mergeSort fun a b => !(b.message.before a.message)

/-- All that is wrong with settings. -/
def issues (s : Settings) : List Issue :=
  (if s.speed.toInt ≤ 0 then [.speed s.speed] else [])
    ++ (if s.stackCells.toInt ≤ 0 then [.stackCells s.stackCells] else [])
    ++ (if (Text.trim s.entryLabel).isEmpty then [.entryLabel] else [])
    ++ s.nameIssues

/-- Why there are no settings. -/
inductive Fault where
  /-- The text is not well-formed. -/
  | malformed
  /-- The text is well-formed, but does not describe settings. -/
  | misfit (issues : List Text)
  | invalid (issues : List Issue)
  /-- The file cannot be opened. -/
  | refused (path : Text) (refusal : Refusal)
  /-- Nothing can be read. -/
  | unreadable (message : Text)
  deriving DecidableEq, Repr

def Fault.message : Fault → Text
  | .malformed => ofString "yaml: malformed"
  | .misfit issues =>
      ofString "yaml: unmarshal errors:\n  " ++ Text.join (ofString "\n  ") issues
  | .invalid issues =>
      ofString "invalid configuration: " ++ Text.join (ofString "; ") (issues.map Issue.message)
  | .refused path refusal => refusal.message path
  | .unreadable message => ofString "yaml: input error: " ++ message

/-- A fault and the file that it was found in. -/
structure Failure where
  file : Option Text
  fault : Fault
  deriving DecidableEq, Repr

def Failure.message (failure : Failure) : Text :=
  match failure.file with
  | some path => path ++ ofString ": " ++ failure.fault.message
  | none => failure.fault.message

/-- The settings themselves, if they are valid. -/
def validate (s : Settings) : Except Fault Settings :=
  if s.issues.isEmpty then .ok s else .error (.invalid s.issues)

end Settings

end RegisterMachine

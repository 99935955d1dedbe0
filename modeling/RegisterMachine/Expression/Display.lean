import RegisterMachine.Expression.Store
import RegisterMachine.Text.Printable
import RegisterMachine.Text.Quoted

/-!
# Text forms of data

Every datum has a text that shows what it is, and one for output, in which a text is
itself. A list or dictionary that contains itself is shown by dots where it comes
again.
-/
namespace RegisterMachine.Expression

open Text (byte ofString)

def quoted (t : Text) : Text := Text.quote Text.isPrintable t

/-- What can contain itself. -/
inductive Container where
  | list (place : Nat)
  | dict (place : Nat)
  deriving DecidableEq, Repr

def View.text (t : Text) : View → Text
  | .elements => quoted t ++ ofString ".elems()"
  | .elementNumbers => quoted t ++ ofString ".elem_ords()"
  | .codePoints => quoted t ++ ofString ".codepoints()"
  | .codePointNumbers => quoted t ++ ofString ".codepoint_ords()"
  | .byteNumbers => byte 'b' :: quoted t ++ ofString ".elems()"

def Builtin.text (f : Builtin) : Text :=
  let name := ((Builtin.names.find? (·.2 == f)).map (·.1)).getD []
  ofString "<built-in function " ++ name ++ ofString ">"

def Method.text (m : Method) : Text :=
  let (name, receiver) := m.title
  ofString "<built-in method " ++ name ++ ofString " of " ++ receiver ++ ofString " value>"

namespace Datum

mutual

/-- The text form of a datum, given that of containers. -/
def repr (inside : Container → Text) : Datum → Text
  | .nothing => ofString "None"
  | .bool b => ofString (if b then "True" else "False")
  | .int n => Text.signedDecimal n
  | .float x => Floating.text x
  | .string t => quoted t
  | .bytes t => byte 'b' :: quoted t
  | .tuple [x] => ofString "(" ++ repr inside x ++ ofString ",)"
  | .tuple items => ofString "(" ++ Text.join (ofString ", ") (reprItems inside items) ++ ofString ")"
  | .list place => ofString "[" ++ inside (.list place) ++ ofString "]"
  | .dict place => ofString "\x7b" ++ inside (.dict place) ++ ofString "\x7d"
  | .range r => r.text
  | .view v t => v.text t
  | .builtin f => f.text
  | .method _ m => m.text

/-- The text forms of several data. -/
def reprItems (inside : Container → Text) : List Datum → List Text
  | [] => []
  | x :: rest => repr inside x :: reprItems inside rest

end

end Datum

namespace Store

/-- What stands between the brackets of a container; `path` leads to it from outside. Each
level adds another container to the path, so as many levels as there are containers are
enough. -/
def inside (s : Store) : Nat → List Container → Container → Text
  | 0, _, _ => []
  | fuel + 1, path, c =>
      if path.contains c then ofString "..."
      else
        let shown (d : Datum) : Text := d.repr (s.inside fuel (c :: path))
        match c with
        | .list place =>
            Text.join (ofString ", ") (((s.items? place).getD #[]).toList.map shown)
        | .dict place =>
            let entries := ((s.dict? place).map (·.entries)).getD #[]
            Text.join (ofString ", ")
              (entries.toList.map fun (key, value) => shown key ++ ofString ": " ++ shown value)

/-- The text form that shows what a datum is. -/
def repr (s : Store) (d : Datum) : Text :=
  d.repr (s.inside (s.lists.size + s.dicts.size + 1) [])

/-- The text form for output: a text is itself. -/
def text (s : Store) : Datum → Text
  | .string t => t
  | d => s.repr d

end Store

end RegisterMachine.Expression

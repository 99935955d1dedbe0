import RegisterMachine.Value

/-!
# Message formats

Messages for people are made from a format with verbs: `%d` and `%v` for a value,
`%s` for a text, `%q` for a quoted text or character, `%%` for a percent sign, and a width such
as `%03d`. Integers are grouped in threes, whatever the language of the reader.
-/
namespace RegisterMachine.Message

open Text (ofString byte)

/-- The name of a value's type in a complaint about a verb. -/
def typeName : Value → Text
  | .integer _ => ofString "int"
  | .text _ => ofString "string"

/-- A value as a verb that does not name its form shows it. -/
def plain : Value → Text
  | .integer n => Text.groupedDecimal 0 n.toInt
  | .text t => t

/-- The complaint about a value that does not fit a verb. -/
def misfit (verb : UInt8) (v : Value) : Text :=
  ofString "%!" ++ [verb] ++ ofString "(" ++ typeName v ++ ofString "=" ++ plain v ++ ofString ")"

/-- The character with a code, or the replacement character if there is none. -/
def character (code : Nat) : Char :=
  if Text.isScalar code then Char.ofNat code else Char.ofNat 0xFFFD

/-- A value under a verb, with a minimum number of digits. -/
def directive (width : Nat) (verb : UInt8) (v : Value) : Text :=
  if verb == byte 'v' then
    match v with
    | .integer n => Text.groupedDecimal width n.toInt
    | .text t => t
  else if verb == byte 'd' then
    match v with
    | .integer n => Text.groupedDecimal width n.toInt
    | .text _ => misfit verb v
  else if verb == byte 's' then
    match v with
    | .integer _ => misfit verb v
    | .text t => t
  else if verb == byte 'q' then
    match v with
    | .integer n =>
        if n < 0 || 0x10FFFF < n then misfit verb v
        else Text.quoteCharacter Text.isPrintable (character n.toNatClampNeg)
    | .text t => Text.quote Text.isPrintable t
  else misfit verb v

/-- The complaint about values that no verb used. -/
def surplus (values : List Value) : Text :=
  ofString "%!(EXTRA "
    ++ Text.join (ofString ", ") (values.map fun v => typeName v ++ ofString "=" ++ plain v)
    ++ ofString ")"

/-- Where a format is read: in plain text, or after a percent sign and a width so far. -/
inductive Place where
  | plain
  | verb (width : Nat)

/-- Fills the verbs of a format with the values in order. -/
def fill (used : Bool) : Place → Text → List Value → Text
  | .plain, [], values => if used && !values.isEmpty then surplus values else []
  | .verb _, [], _ => ofString "%!(NOVERB)"
  | .plain, b :: rest, values =>
      if b == byte '%' then fill used (.verb 0) rest values
      else b :: fill used .plain rest values
  | .verb width, b :: rest, values =>
      if b == byte '%' then byte '%' :: fill used .plain rest values
      else if Text.isDigit b then fill used (.verb (width * 10 + (b.toNat - 48))) rest values
      else match values with
        | [] =>
            ofString "%!" ++ [b] ++ ofString "(MISSING)" ++ fill used .plain rest []
        | v :: values => directive width b v ++ fill true .plain rest values

/-- The message that a format makes of some values. -/
def format (pattern : Text) (values : List Value) : Text := fill false .plain pattern values

end RegisterMachine.Message

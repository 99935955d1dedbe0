import RegisterMachine.Device.Reader

/-!
# Source lines

Program text is read line by line. A line break ends a line, one carriage return
before it is dropped, and a last line without a line break counts unless it is
empty. Lines have to be shorter than 65536 bytes.
-/
namespace RegisterMachine.Source

/-- The least number of bytes that is too long for a line. -/
def lineLimit : Nat := 65536

/-- The lines of a text, and the fault that ended them if there was one. -/
structure Lines where
  lines : List Text
  fault : Option Fault
  deriving DecidableEq, Repr

/-- Lines up to the first one that is too long; `done` holds those so far in reverse. -/
def withinLimit (ending : Option Fault) (done : List Text) : List Text → Lines
  | [] => ⟨done.reverse, ending⟩
  | line :: rest =>
      if lineLimit ≤ line.length then ⟨done.reverse, some .lineTooLong⟩
      else withinLimit ending (line.dropTrailing Text.carriageReturn :: done) rest

/-- The pieces between line breaks; nothing behind the last one is no line. -/
def pieces (t : Text) : List Text :=
  match (Text.splitOn Text.newline t).reverse with
  | [] :: rest => rest.reverse
  | all => all.reverse

/-- The lines that a reader delivers. -/
def ofReader (reader : Reader) : Lines :=
  let ending := match reader.ending with
    | .endOfFile => none
    | .failure message => some (.device message)
  withinLimit ending [] (pieces reader.pending)

end RegisterMachine.Source

import RegisterMachine.Device.Reader

/-!
# Buffered line reading

Lines are cut out of a buffer of fixed capacity that is refilled from a reader. A
piece ends at a line break, at the end of the reader, or where the buffer is full.
-/
namespace RegisterMachine.LineBuffer

/-- The capacity of an input buffer in bytes. -/
def capacity : Nat := 4096

/-- A piece of input. -/
inductive Piece where
  /-- Up to and including a line break. -/
  | line (bytes : Text)
  /-- A full buffer without a line break. -/
  | full (bytes : Text)
  /-- What was left at the end of the reader. -/
  | last (bytes : Text) (ending : Ending)
  deriving DecidableEq, Repr

/-- Looks for a line break, with the bytes before it in reverse. -/
def breakLoop (passed : Text) : Text → Option (Text × Text)
  | [] => none
  | b :: rest =>
      if b = Text.newline then some ((b :: passed).reverse, rest) else breakLoop (b :: passed) rest

/-- Splits a text behind its first line break. -/
def breakLine? (t : Text) : Option (Text × Text) := breakLoop [] t

theorem append_of_breakLoop {passed t line rest : Text}
    (h : breakLoop passed t = some (line, rest)) : line ++ rest = passed.reverse ++ t := by
  induction t generalizing passed with
  | nil => simp [breakLoop] at h
  | cons b t ih =>
      simp only [breakLoop] at h
      split at h
      · grind
      · simpa using ih h

/-- Takes the next piece out of the buffer, refilling it from the reader as needed. Gives the
piece, the buffer and the reader afterwards. -/
def nextPiece (buffer : Text) (reader : Reader) : Piece × Text × Reader :=
  match breakLine? buffer with
  | some (line, rest) => (.line line, rest, reader)
  | none =>
      if hfull : capacity ≤ buffer.length then (.full buffer, [], reader)
      else
        match h : reader.read? (capacity - buffer.length) with
        | none => (.last buffer reader.ending, [], reader)
        | some (bytes, reader') =>
            have := Reader.length_pending_lt (by omega) h
            nextPiece (buffer ++ bytes) reader'
termination_by reader.pending.length

def Piece.bytes : Piece → Text
  | .line bytes => bytes
  | .full bytes => bytes
  | .last bytes _ => bytes

/-- Splitting behind a line break loses nothing. -/
theorem append_of_breakLine? {t line rest : Text} (h : breakLine? t = some (line, rest)) :
    line ++ rest = t := by
  simpa using append_of_breakLoop h

/-- No byte is lost or made up: a piece, the buffer and the reader afterwards hold what the
buffer and the reader held before. -/
theorem bytes_nextPiece {buffer buffer' : Text} {reader reader' : Reader} {piece : Piece}
    (h : nextPiece buffer reader = (piece, buffer', reader')) :
    piece.bytes ++ (buffer' ++ reader'.pending) = buffer ++ reader.pending := by
  fun_induction nextPiece buffer reader with
  | case1 buffer reader line rest hb =>
      cases h
      rw [← append_of_breakLine? hb, Piece.bytes, List.append_assoc]
  | case2 buffer reader hb hfull => cases h; rfl
  | case3 buffer reader hb hfull hread => cases h; rfl
  | case4 buffer reader hb hfull bytes next hread hlt ih =>
      rw [ih h, Reader.pending_of_read? hread, List.append_assoc]

/-- A piece that fills the buffer is not empty. -/
theorem length_of_full {buffer buffer' bytes : Text} {reader reader' : Reader}
    (h : nextPiece buffer reader = (.full bytes, buffer', reader')) :
    capacity ≤ bytes.length := by
  fun_induction nextPiece buffer reader with
  | case1 => cases h
  | case2 buffer reader hb hfull => cases h; exact hfull
  | case3 => cases h
  | case4 buffer reader hb hfull bytes next hread hlt ih => exact ih h

/-- Reads on until a line break or the end: all pieces of one line, whether it ended with the
reader, and the buffer and the reader afterwards. -/
def wholeLine (buffer : Text) (reader : Reader) : Text × Option Ending × Text × Reader :=
  match h : nextPiece buffer reader with
  | (.line bytes, buffer', reader') => (bytes, none, buffer', reader')
  | (.last bytes ending, buffer', reader') => (bytes, some ending, buffer', reader')
  | (.full bytes, buffer', reader') =>
      have : buffer'.length + reader'.pending.length < buffer.length + reader.pending.length := by
        have hb := congrArg List.length (bytes_nextPiece h)
        have hc : 0 < capacity := by decide
        have := length_of_full h
        simp only [Piece.bytes, List.length_append] at hb
        omega
      let (more, ending, rest) := wholeLine buffer' reader'
      (bytes ++ more, ending, rest)
termination_by buffer.length + reader.pending.length

end RegisterMachine.LineBuffer

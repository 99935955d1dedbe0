import RegisterMachine.Device.Reader
import RegisterMachine.Text.Utf8

/-!
# Character streams

Markup is read in blocks of bytes, and a block is decoded as a whole. A byte order
mark tells the encoding, which is UTF-8 without one. A block that holds a byte that
does not decode, or a character that is not allowed, ends the stream early; so does
a reader that fails.
-/
namespace RegisterMachine.Markup

/-- How characters are written in bytes. -/
inductive Encoding where
  | utf8
  | utf16 (littleEndian : Bool)
  deriving DecidableEq, Repr

/-- What stands at the beginning of some bytes. -/
inductive Decoded where
  | character (c : Char) (rest : Text)
  /-- There are not enough bytes for a character. -/
  | incomplete
  | malformed

/-- The characters that markup may hold. -/
def isAllowed (c : Char) : Bool :=
  let n := c.toNat
  n == 0x09 || n == 0x0A || n == 0x0D || (0x20 ≤ n && n ≤ 0x7E) || n == 0x85
    || (0xA0 ≤ n && n ≤ 0xD7FF) || (0xE000 ≤ n && n ≤ 0xFFFD) || 0x10000 ≤ n

/-- The number of bytes of a UTF-8 sequence, by its first byte; zero if there is none. -/
def sequenceLength (b : UInt8) : Nat :=
  let n := b.toNat
  if n < 0x80 then 1 else if n < 0xC0 then 0 else if n < 0xE0 then 2 else if n < 0xF0 then 3
  else if n < 0xF8 then 4 else 0

/-- Decodes the first character in UTF-8. -/
def decodeUtf8 : Text → Decoded
  | [] => .incomplete
  | b :: rest =>
      let width := sequenceLength b
      if width = 0 then .malformed
      else if ((b :: rest).take width).length < width then .incomplete
      else match Text.decode? (b :: rest) with
        | some (c, rest) => .character c rest
        | none => .malformed

/-- Decodes the first character in UTF-16. -/
def decodeUtf16 (littleEndian : Bool) (t : Text) : Decoded :=
  let unit (a b : UInt8) : Nat :=
    if littleEndian then a.toNat + 256 * b.toNat else 256 * a.toNat + b.toNat
  match t with
  | a :: b :: rest =>
      let n := unit a b
      if 0xDC00 ≤ n && n ≤ 0xDFFF then .malformed
      else if 0xD800 ≤ n && n ≤ 0xDBFF then
        match rest with
        | c :: d :: rest =>
            let m := unit c d
            if 0xDC00 ≤ m && m ≤ 0xDFFF then
              .character (Char.ofNat (0x10000 + (n - 0xD800) * 1024 + (m - 0xDC00))) rest
            else .malformed
        | _ => .incomplete
      else .character (Char.ofNat n) rest
  | _ => .incomplete

def Encoding.decode : Encoding → Text → Decoded
  | .utf8 => decodeUtf8
  | .utf16 littleEndian => decodeUtf16 littleEndian

/-- The encoding that the first bytes tell, and the bytes behind the mark. -/
def Encoding.detect : Text → Encoding × Text
  | 0xFF :: 0xFE :: rest => (.utf16 true, rest)
  | 0xFE :: 0xFF :: rest => (.utf16 false, rest)
  | 0xEF :: 0xBB :: 0xBF :: rest => (.utf8, rest)
  | t => (.utf8, t)

/-- The characters of a block and the bytes of a last character that is not complete, with the
characters so far in reverse. Nothing if the block does not decode. -/
def decodeBlock (encoding : Encoding) : Nat → List Char → Text → Option (List Char × Text)
  | 0, _, _ => none
  | _ + 1, done, [] => some (done.reverse, [])
  | fuel + 1, done, t =>
      match encoding.decode t with
      | .character c rest =>
          if isAllowed c then decodeBlock encoding fuel (c :: done) rest else none
      | .incomplete => some (done.reverse, t)
      | .malformed => none

/-- The characters that can be read, block by block, and whether the text ends behind them. A
stream that is not complete fails when more characters are asked for. -/
structure Stream where
  blocks : List (List Char)
  complete : Bool
  deriving DecidableEq, Repr

namespace Stream

def size (s : Stream) : Nat := s.blocks.flatten.length

def blockSize : Nat := 512

/-- Reads until there are three bytes or the end, with the bytes so far. -/
def opening : Nat → Text → Reader → Option (Text × Reader)
  | 0, t, reader => some (t, reader)
  | fuel + 1, t, reader =>
      if 3 ≤ t.length then some (t, reader)
      else match reader.read? (blockSize - t.length) with
        | some (bytes, reader) => opening fuel (t ++ bytes) reader
        | none => if reader.ending = .endOfFile then some (t, reader) else none

/-- Decodes blocks, with the characters of the blocks so far in reverse. `held` are bytes that
were read and not decoded. -/
def decodeBlocks (encoding : Encoding) : Nat → List (List Char) → Text → Reader → Stream
  | 0, done, _, _ => ⟨done.reverse, false⟩
  | fuel + 1, done, held, reader =>
      match decodeBlock encoding (held.length + 1) [] held with
      | none => ⟨done.reverse, false⟩
      | some (characters, held) =>
          let done := characters :: done
          match reader.read? (blockSize - held.length) with
          | some (bytes, reader) => decodeBlocks encoding fuel done (held ++ bytes) reader
          | none => ⟨done.reverse, decide (reader.ending = .endOfFile) && held.isEmpty⟩

/-- The characters that a reader delivers. -/
def ofReader (reader : Reader) : Stream :=
  match opening 3 [] reader with
  | none => ⟨[], false⟩
  | some (bytes, rest) =>
      let (encoding, bytes) := Encoding.detect bytes
      decodeBlocks encoding (rest.pending.length + 2) [] bytes rest

end Stream

end RegisterMachine.Markup

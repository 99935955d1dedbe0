import RegisterMachine.Text.Blank

/-!
# Searching and splitting texts

Positions of a part in a text, counts of its occurrences, and the pieces between
separators or blanks. Positions count bytes. Pieces put together again with what
separated them give the text back.
-/
namespace RegisterMachine.Text

/-- The first position of a text in another one, from position `n` on. -/
def indexLoop (part : Text) (n : Nat) : Text → Option Nat
  | [] => if part.isEmpty then some n else none
  | b :: rest =>
      if part.isPrefixOf (b :: rest) then some n else indexLoop part (n + 1) rest

/-- The first position of a text in another one. -/
def indexOf? (part whole : Text) : Option Nat := indexLoop part 0 whole

/-- The last position of a text in another one. -/
def lastIndexOf? (part whole : Text) : Option Nat :=
  (indexOf? part.reverse whole.reverse).map fun i => whole.length - part.length - i

/-- The number of places at which a text occurs, without overlaps; in at most `fuel` steps. -/
def countLoop (part : Text) : Nat → Nat → Text → Nat
  | 0, n, _ => n
  | _ + 1, n, [] => n
  | fuel + 1, n, b :: rest =>
      if part.isPrefixOf (b :: rest) then
        countLoop part fuel (n + 1) ((b :: rest).drop part.length)
      else countLoop part fuel n rest

/-- How often a text occurs; the empty one occurs around each character. -/
def occurrences (part whole : Text) : Nat :=
  if part.isEmpty then whole.units.length + 1 else countLoop part (whole.length + 1) 0 whole

/-- The pieces between at most `limit` occurrences of a separator, with the bytes of the piece
so far and the pieces before it in reverse. -/
def splitAtLoop (sep : Text) : Nat → Option Nat → Text → List Text → Text → List Text
  | 0, _, piece, pieces, _ => (piece.reverse :: pieces).reverse
  | _ + 1, _, piece, pieces, [] => (piece.reverse :: pieces).reverse
  | fuel + 1, limit, piece, pieces, b :: rest =>
      if limit = some 0 then ((piece.reverse ++ b :: rest) :: pieces).reverse
      else if sep.isPrefixOf (b :: rest) then
        splitAtLoop sep fuel (limit.map (· - 1)) [] (piece.reverse :: pieces)
          ((b :: rest).drop sep.length)
      else splitAtLoop sep fuel limit (b :: piece) pieces rest

/-- The pieces between at most `limit` occurrences of a separator that is not empty. -/
def splitAt (sep : Text) (limit : Option Nat) (t : Text) : List Text :=
  splitAtLoop sep (t.length + 1) limit [] [] t

/-- The pieces between the last `limit` occurrences of a separator, found from the left: what
is too many is put together again in front. -/
def splitAtLast (sep : Text) (limit : Option Nat) (t : Text) : List Text :=
  let pieces := splitAt sep none t
  match limit with
  | none => pieces
  | some limit =>
      let excess := pieces.length - limit
      if excess = 0 then pieces else join sep (pieces.take excess) :: pieces.drop excess

/-- The runs between blanks; after `limit` of them the rest is one run. -/
def fieldLoop : Nat → Option Nat → List Text → List Unit → List Text
  | 0, _, done, _ => done.reverse
  | fuel + 1, limit, done, us =>
      match us.dropWhile Unit.isBlank with
      | [] => done.reverse
      | us =>
          let run := us.takeWhile (!·.isBlank)
          if limit = some 0 then (ofUnits us :: done).reverse
          else fieldLoop fuel (limit.map (· - 1)) (ofUnits run :: done) (us.drop run.length)

/-- The runs of a text between blanks. -/
def fields (limit : Option Nat) (t : Text) : List Text :=
  fieldLoop (t.length + 1) limit [] t.units

/-- The runs between blanks from the end, given and found in reverse. -/
def lastFieldLoop : Nat → Option Nat → List Text → List Unit → List Text
  | 0, _, done, _ => done
  | fuel + 1, limit, done, us =>
      match us.dropWhile Unit.isBlank with
      | [] => done
      | us =>
          let run := us.takeWhile (!·.isBlank)
          if limit = some 0 then ofUnits us.reverse :: done
          else
            lastFieldLoop fuel (limit.map (· - 1)) (ofUnits run.reverse :: done)
              (us.drop run.length)

/-- The runs of a text between blanks; what is before the last `limit` of them is one run. -/
def lastFields (limit : Option Nat) (t : Text) : List Text :=
  lastFieldLoop (t.length + 1) limit [] t.units.reverse

/-- Puts `new` before each of the first units, at most `limit` times, and at the end. -/
def interleave (new : Text) : Option Nat → List Unit → Text → Text
  | limit, [], done => if limit = some 0 then done else done ++ new
  | limit, u :: us, done =>
      if limit = some 0 then done ++ ofUnits (u :: us)
      else interleave new (limit.map (· - 1)) us (done ++ new ++ u.bytes)

def replaceAll (old new : Text) (limit : Option Nat) (t : Text) : Text :=
  if old.isEmpty then interleave new limit t.units []
  else join new (splitAt old limit t)

/-- The lines of a text, with their line breaks if `keep`; a break at the end starts none. -/
def lines (keep : Bool) (t : Text) : List Text :=
  let pieces := splitOn newline t
  let pieces := if pieces.getLast? = some [] then pieces.dropLast else pieces
  if keep then
    match pieces.getLast? with
    | none => []
    | some last =>
        pieces.dropLast.map (· ++ [newline])
          ++ [if t.getLast? = some newline then last ++ [newline] else last]
  else pieces

end RegisterMachine.Text

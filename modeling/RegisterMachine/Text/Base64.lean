import RegisterMachine.Text.Basic

/-!
# Base 64

Four characters carry three bytes; the last group is filled up with equals signs.
Line breaks do not count.
-/
namespace RegisterMachine.Text

/-- The six bits of a character. -/
def base64Value? (b : UInt8) : Option Nat :=
  let n := b.toNat
  if 65 ≤ n && n ≤ 90 then some (n - 65)
  else if 97 ≤ n && n ≤ 122 then some (n - 71)
  else if isDigit b then some (n + 4)
  else if b = byte '+' then some 62
  else if b = byte '/' then some 63
  else none

/-- Decodes groups, with the bytes so far in reverse. -/
def base64Loop (done : Text) : Text → Option Text
  | [] => some done.reverse
  | a :: b :: c :: d :: rest => do
      let high := (← base64Value? a) * 64 + (← base64Value? b)
      if d = byte '=' then
        if !rest.isEmpty then none
        else if c = byte '=' then return ((high / 16).toUInt8 :: done).reverse
        else
          let bits := high * 64 + (← base64Value? c)
          return ((bits / 4 % 256).toUInt8 :: (bits / 1024).toUInt8 :: done).reverse
      else
        let bits := (high * 64 + (← base64Value? c)) * 64 + (← base64Value? d)
        base64Loop
          ((bits % 256).toUInt8 :: (bits / 256 % 256).toUInt8 :: (bits / 65536).toUInt8 :: done)
          rest
  | _ => none

def decodeBase64? (t : Text) : Option Text :=
  base64Loop [] (t.filter fun b => b != newline && b != carriageReturn)

end RegisterMachine.Text

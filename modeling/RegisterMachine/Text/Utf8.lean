import RegisterMachine.Text.Basic

/-!
# Characters in a byte text

A byte text is read as a sequence of units: a well-formed UTF-8 sequence is one
character, and a byte that starts none stands for itself. Writing the units out
gives the text back, so working on units never changes bytes that were not
well-formed.
-/
namespace RegisterMachine.Text

/-- A continuation byte of a UTF-8 sequence. -/
def isContinuation (b : UInt8) : Bool := 0x80 ≤ b.toNat && b.toNat ≤ 0xBF

/-- The six low bits that a continuation byte carries. -/
def payload (b : UInt8) : Nat := b.toNat - 0x80

/-- Splits off the leading character, if the text starts with a well-formed sequence:
the shortest form only, no surrogates, at most `U+10FFFF`. -/
def decode? : Text → Option (Char × Text)
  | [] => none
  | a :: rest =>
      let n := a.toNat
      if n < 0x80 then some (Char.ofNat n, rest)
      else if n < 0xC2 then none
      else if n < 0xE0 then
        match rest with
        | b :: rest =>
            if isContinuation b then some (Char.ofNat ((n - 0xC0) * 64 + payload b), rest) else none
        | _ => none
      else if n < 0xF0 then
        match rest with
        | b :: c :: rest =>
            let code := (n - 0xE0) * 4096 + payload b * 64 + payload c
            if isContinuation b && isContinuation c && 0x800 ≤ code
                && !(0xD800 ≤ code && code ≤ 0xDFFF) then
              some (Char.ofNat code, rest)
            else none
        | _ => none
      else if n < 0xF5 then
        match rest with
        | b :: c :: d :: rest =>
            let code := (n - 0xF0) * 262144 + payload b * 4096 + payload c * 64 + payload d
            if isContinuation b && isContinuation c && isContinuation d && 0x10000 ≤ code
                && code ≤ 0x10FFFF then
              some (Char.ofNat code, rest)
            else none
        | _ => none
      else none

/-- Decoding a character consumes at least one byte. -/
theorem length_lt_of_decode? {t rest : Text} {c : Char} (h : decode? t = some (c, rest)) :
    rest.length < t.length := by
  unfold decode? at h
  split at h
  · cases h
  · simp only at h
    repeat' split at h
    all_goals simp only [Option.some.injEq, Prod.mk.injEq, reduceCtorEq] at h
    all_goals obtain ⟨-, rfl⟩ := h
    all_goals simp only [List.length_cons]
    all_goals omega

/-- A character of a byte text, or a byte that belongs to none. -/
inductive Unit where
  | character (c : Char)
  | stray (b : UInt8)
  deriving DecidableEq, Repr

def Unit.bytes : Unit → Text
  | .character c => String.utf8EncodeChar c
  | .stray b => [b]

/-- Reads units, with those found so far in reverse. -/
def unitLoop (found : List Unit) (t : Text) : List Unit :=
  match h : decode? t with
  | some (c, rest) =>
      have := length_lt_of_decode? h
      unitLoop (.character c :: found) rest
  | none =>
      match t with
      | [] => found.reverse
      | b :: rest => unitLoop (.stray b :: found) rest
termination_by t.length

/-- The text as a sequence of characters and stray bytes. -/
def units (t : Text) : List Unit := unitLoop [] t

theorem unitLoop_eq (found : List Unit) (t : Text) :
    unitLoop found t = found.reverse ++ units t := by
  suffices ∀ n, ∀ t : Text, t.length = n → ∀ found, unitLoop found t = found.reverse ++ units t from
    this _ t rfl found
  intro n
  induction n using Nat.strongRecOn with
  | ind n ih =>
      intro t ht found
      rw [units, unitLoop, unitLoop]
      split
      · rename_i c rest h
        have := length_lt_of_decode? h
        rw [ih _ (by omega) rest rfl, ih _ (by omega) rest rfl [_]]
        simp
      · cases t with
        | nil => simp
        | cons b rest =>
            simp only [List.length_cons] at ht
            simp only
            rw [ih _ (by omega) rest rfl, ih _ (by omega) rest rfl [_]]
            simp

@[simp] theorem units_nil : units [] = [] := by
  rw [units, unitLoop]; rfl

/-- A well-formed sequence in front is one character. -/
theorem units_of_decode? {t rest : Text} {c : Char} (h : decode? t = some (c, rest)) :
    units t = .character c :: units rest := by
  rw [units, unitLoop]
  split
  · rename_i heq
    rw [h] at heq
    cases heq
    rw [unitLoop_eq]; rfl
  · rename_i heq; rw [h] at heq; cases heq

/-- A byte that starts no well-formed sequence stands for itself. -/
theorem units_of_stray {b : UInt8} {t : Text} (h : decode? (b :: t) = none) :
    units (b :: t) = .stray b :: units t := by
  rw [units, unitLoop]
  split
  · rename_i heq; rw [h] at heq; cases heq
  · show unitLoop [.stray b] t = .stray b :: units t
    rw [unitLoop_eq]; rfl

def ofUnits (us : List Unit) : Text := us.flatMap Unit.bytes

/-- The characters of the text; each stray byte counts as the replacement character. -/
def characters (t : Text) : List Char :=
  (units t).map fun
    | .character c => c
    | .stray _ => Char.ofNat 0xFFFD

/-- The text with the replacement character in place of each stray byte. -/
def repaired (t : Text) : Text := (characters t).flatMap String.utf8EncodeChar

def isUtf8 (t : Text) : Bool :=
  (units t).all fun
    | .character _ => true
    | .stray _ => false

/-- A Unicode scalar value: a code point that is no surrogate. -/
def isScalar (n : Nat) : Bool := n < 0xD800 || (0xDFFF < n && n ≤ 0x10FFFF)

end RegisterMachine.Text

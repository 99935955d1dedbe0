/-!
# Byte texts

Program text, operands, labels, lines of input and every message are byte
strings: no encoding is assumed, and nothing is normalised. A text is a list of
bytes, so the list library speaks about it directly; this module adds the few
operations that the rest of the library shares.
-/
namespace RegisterMachine

/-- A text is a byte string, which need not be valid UTF-8. -/
abbrev Text := List UInt8

namespace Text

/-- The UTF-8 bytes of a string. -/
def ofString (s : String) : Text := s.toList.flatMap String.utf8EncodeChar

/-- The byte of an ASCII character. -/
def byte (c : Char) : UInt8 := c.toNat.toUInt8

def newline : UInt8 := 10

def carriageReturn : UInt8 := 13

/-- Byte-wise lexicographic order: a proper beginning comes first. -/
def before : Text → Text → Bool
  | _, [] => false
  | [], _ :: _ => true
  | a :: s, b :: t => a.toNat < b.toNat || (a == b && before s t)

theorem before_cons {a b : UInt8} {s t : Text} :
    before (a :: s) (b :: t) ↔ a.toNat < b.toNat ∨ (a = b ∧ before s t) := by
  simp [before]

theorem not_before_self (t : Text) : ¬ before t t := by
  induction t with
  | nil => simp [before]
  | cons b t ih =>
      rw [before_cons]
      rintro (h | h)
      · omega
      · exact ih h.2

theorem before_trans {r s t : Text} (h : before r s) (h' : before s t) : before r t := by
  induction r generalizing s t with
  | nil =>
      cases t with
      | nil => cases s <;> simp [before] at h'
      | cons b t => rfl
  | cons a r ih =>
      cases s with
      | nil => simp [before] at h
      | cons b s =>
          cases t with
          | nil => simp [before] at h'
          | cons c t =>
              rw [before_cons] at h h' ⊢
              obtain h | ⟨rfl, h⟩ := h
              · obtain h' | ⟨rfl, -⟩ := h'
                · exact .inl (by omega)
                · exact .inl h
              · obtain h' | ⟨rfl, h'⟩ := h'
                · exact .inl h'
                · exact .inr ⟨rfl, ih h h'⟩

theorem before_or_before {s t : Text} (h : s ≠ t) : before s t ∨ before t s := by
  induction s generalizing t with
  | nil =>
      cases t with
      | nil => exact absurd rfl h
      | cons b t => exact .inl rfl
  | cons a s ih =>
      cases t with
      | nil => exact .inr rfl
      | cons b t =>
          rw [before_cons, before_cons]
          by_cases hab : a = b
          · subst hab
            have hst : s ≠ t := fun he => h (by rw [he])
            obtain hb | hb := ih hst
            · exact .inl (.inr ⟨rfl, hb⟩)
            · exact .inr (.inr ⟨rfl, hb⟩)
          · have : a.toNat ≠ b.toNat := fun he => hab (UInt8.toNat_inj.1 he)
            omega

def isDigit (b : UInt8) : Bool := 48 ≤ b.toNat && b.toNat ≤ 57

def isLetter (b : UInt8) : Bool :=
  (65 ≤ b.toNat && b.toNat ≤ 90) || (97 ≤ b.toNat && b.toNat ≤ 122)

/-- A letter or an underscore: what an identifier may begin with. -/
def isWordStart (b : UInt8) : Bool := isLetter b || b == 95

/-- A letter, a digit or an underscore: what an identifier may go on with. -/
def isWordPart (b : UInt8) : Bool := isWordStart b || isDigit b

/-- An identifier: a letter or an underscore, then letters, digits and underscores. -/
def isIdentifier : Text → Bool
  | [] => false
  | b :: rest => isWordStart b && rest.all isWordPart

/-- A non-empty run of ASCII digits. -/
def isDigits (t : Text) : Bool := !t.isEmpty && t.all isDigit

/-- The text without its last byte, if that byte is `b`. -/
def dropTrailing (b : UInt8) (t : Text) : Text :=
  if t.getLast? = some b then t.dropLast else t

/-- Splits a text, with the piece so far and the pieces before it in reverse. -/
def splitLoop (sep : UInt8) (piece : Text) (pieces : List Text) : Text → List Text
  | [] => (piece.reverse :: pieces).reverse
  | b :: rest =>
      if b = sep then splitLoop sep [] (piece.reverse :: pieces) rest
      else splitLoop sep (b :: piece) pieces rest

/-- The pieces between the occurrences of `sep`; there is always at least one. -/
def splitOn (sep : UInt8) (t : Text) : List Text := splitLoop sep [] [] t

theorem splitLoop_eq (sep : UInt8) (piece : Text) (pieces : List Text) (t : Text) :
    splitLoop sep piece pieces t
      = pieces.reverse ++ (splitOn sep t).modifyHead (piece.reverse ++ ·) := by
  induction t generalizing piece pieces with
  | nil => simp [splitLoop, splitOn]
  | cons b t ih =>
      rw [splitOn, splitLoop, splitLoop]
      split
      · rw [ih, ih]; simp
      · rw [ih, ih]; cases splitOn sep t <;> simp

@[simp] theorem splitOn_nil (sep : UInt8) : splitOn sep [] = [[]] := rfl

@[simp] theorem splitOn_cons_self (sep : UInt8) (t : Text) :
    splitOn sep (sep :: t) = [] :: splitOn sep t := by
  rw [splitOn, splitLoop, if_pos rfl, splitLoop_eq]
  cases splitOn sep t <;> simp

theorem splitOn_cons_of_ne {sep b : UInt8} (h : b ≠ sep) (t : Text) :
    splitOn sep (b :: t) = (splitOn sep t).modifyHead (b :: ·) := by
  rw [splitOn, splitLoop, if_neg h, splitLoop_eq]
  rfl

/-- The texts one after another with `sep` between neighbours. -/
def join (sep : Text) : List Text → Text
  | [] => []
  | [t] => t
  | t :: rest => t ++ sep ++ join sep rest

/-- Replaces a pair of bytes, with the result so far in reverse. -/
def replaceLoop (a b : UInt8) (new done : Text) : Text → Text
  | [] => done.reverse
  | [x] => (x :: done).reverse
  | x :: y :: rest =>
      if x = a ∧ y = b then replaceLoop a b new (new.reverse ++ done) rest
      else replaceLoop a b new (x :: done) (y :: rest)

/-- Every occurrence of the two bytes `a` and `b`, read from the left, becomes `new`. -/
def replacePair (a b : UInt8) (new t : Text) : Text := replaceLoop a b new [] t

theorem replaceLoop_append (a b : UInt8) (new done before t : Text) :
    replaceLoop a b new (done ++ before) t = before.reverse ++ replaceLoop a b new done t := by
  fun_induction replaceLoop a b new done t with
  | case1 => simp [replaceLoop]
  | case2 => simp [replaceLoop]
  | case3 done x y rest h ih => simpa [replaceLoop, h] using ih
  | case4 done x y rest h ih => simpa [replaceLoop, h] using ih

theorem replacePair_cons_self (a b : UInt8) (new t : Text) :
    replacePair a b new (a :: b :: t) = new ++ replacePair a b new t := by
  have := replaceLoop_append a b new [] new.reverse t
  simpa [replacePair, replaceLoop] using this

theorem replacePair_cons_of_not {a b x y : UInt8} (h : ¬(x = a ∧ y = b)) (new t : Text) :
    replacePair a b new (x :: y :: t) = x :: replacePair a b new (y :: t) := by
  have := replaceLoop_append a b new [] [x] (y :: t)
  simpa [replacePair, replaceLoop, h] using this

/-- The length of the text before the first occurrence of the two bytes `a` and `b`, or of the
whole text; `n` bytes were passed already. -/
def pairIndex (a b : UInt8) (n : Nat) : Text → Nat
  | [] => n
  | [_] => n + 1
  | x :: y :: rest => if x = a ∧ y = b then n else pairIndex a b (n + 1) (y :: rest)

/-- What stands before the first occurrence of the two bytes `a` and `b`. -/
def beforePair (a b : UInt8) (t : Text) : Text := t.take (pairIndex a b 0 t)

/-- The text `n` times in a row. -/
def times (n : Nat) (t : Text) : Text :=
  if t.isEmpty then [] else (List.replicate n t).flatten

/-- The text padded on the left with `pad` to at least `width` bytes. -/
def padLeft (width : Nat) (pad : UInt8) (t : Text) : Text :=
  List.replicate (width - t.length) pad ++ t

end Text

end RegisterMachine

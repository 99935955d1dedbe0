import Mathlib.Algebra.Group.Nat.Defs
import RegisterMachine.Text.Quoted
import RegisterMachine.Proofs.Text.Pieces
import RegisterMachine.Proofs.Text.Units
import RegisterMachine.Proofs.Text.Words

/-!
# Quoted texts are read back

What stands between two quotation marks is a row of units, each written so that a reader
takes it whole and knows where it ends: `readUnit?` undoes `escapeUnit` whatever comes
behind. So a quoted text ends at its own closing mark and determines the text, whichever
characters are printable.
-/
namespace RegisterMachine.Text

/-- The number that a lower-case hexadecimal digit stands for. -/
def hexDigitValue (b : UInt8) : Nat := if b.toNat < 58 then b.toNat - 48 else b.toNat - 87

/-- The number that a run of hexadecimal digits stands for. -/
def hexValue (t : Text) : Nat := t.foldl (fun n b => n * 16 + hexDigitValue b) 0

/-- Only the last digit of the number counts. -/
theorem exists_hexDigit_eq (n : Nat) : ∃ d : Fin 16, d = n % 16 ∧ hexDigit n = hexDigit d :=
  ⟨⟨n % 16, Nat.mod_lt _ (by decide)⟩, rfl, by rw [hexDigit, hexDigit, Nat.mod_mod]⟩

@[simp] theorem hexDigitValue_hexDigit (n : Nat) : hexDigitValue (hexDigit n) = n % 16 := by
  have hall : ∀ d : Fin 16, hexDigitValue (hexDigit d) = d := by decide
  obtain ⟨d, hd, hdigit⟩ := exists_hexDigit_eq n
  rw [hdigit, hall, hd]

@[simp] theorem length_hexadecimal (width n : Nat) : (hexadecimal width n).length = width := by
  induction width generalizing n with
  | zero => rfl
  | succ width ih => rw [hexadecimal, List.length_append, ih, List.length_singleton]

/-- The digits that are written stand for the number, as far as there is room. -/
theorem hexValue_hexadecimal (width n : Nat) : hexValue (hexadecimal width n) = n % 16 ^ width := by
  induction width generalizing n with
  | zero => rw [Nat.pow_zero, Nat.mod_one]; rfl
  | succ width ih =>
      have hdigits := ih (n / 16)
      rw [hexValue] at hdigits
      rw [hexadecimal, hexValue, List.foldl_append, hdigits, List.foldl_cons, List.foldl_nil,
        hexDigitValue_hexDigit, Nat.pow_succ', Nat.mod_mul]
      omega

/-- A unit that can stand in a text: a byte below 128 is a character, never stray. -/
def Unit.Proper : Unit → Prop
  | .character _ => True
  | .stray b => 0x80 ≤ b.toNat

theorem Unit.bytes_ne_nil (u : Unit) : u.bytes ≠ [] := by
  cases u with
  | character c => exact String.utf8EncodeChar_ne_nil
  | stray b => exact List.cons_ne_nil _ _

theorem proper_of_mem_units {t : Text} {u : Unit} (h : u ∈ units t) : u.Proper := by
  induction t using units_induction with
  | nil => rw [units_nil] at h; cases h
  | character c rest ih =>
      rw [units_encode] at h
      obtain rfl | h := List.mem_cons.1 h
      · trivial
      · exact ih h
  | stray b rest hd ih =>
      rw [units_of_stray hd] at h
      obtain rfl | h := List.mem_cons.1 h
      · refine Nat.not_lt.1 fun hlow => ?_
        rw [decode?_ascii hlow] at hd
        cases hd
      · exact ih h

theorem units_injective {s t : Text} (h : units s = units t) : s = t := by
  rw [← ofUnits_units s, h, ofUnits_units]

/-- The unit with a code of at most two digits: a byte from 128 on stands for itself. -/
def unitOfCode (n : Nat) : Unit := if n < 0x80 then .character (Char.ofNat n) else .stray n.toUInt8

/-- Reads a fixed number of hexadecimal digits. -/
def readCode? (width : Nat) (make : Nat → Unit) (t : Text) : Option (Unit × Text) :=
  if width ≤ t.length then some (make (hexValue (t.take width)), t.drop width) else none

/-- Reads what follows a backslash. -/
def readEscape? : Text → Option (Unit × Text)
  | [] => none
  | letter :: rest =>
      if letter = byte 'x' then readCode? 2 unitOfCode rest
      else if letter = byte 'u' then readCode? 4 (fun n => .character (Char.ofNat n)) rest
      else if letter = byte 'U' then readCode? 8 (fun n => .character (Char.ofNat n)) rest
      else if letter = byte 'a' then some (.character (Char.ofNat 7), rest)
      else if letter = byte 'b' then some (.character (Char.ofNat 8), rest)
      else if letter = byte 't' then some (.character (Char.ofNat 9), rest)
      else if letter = byte 'n' then some (.character (Char.ofNat 10), rest)
      else if letter = byte 'v' then some (.character (Char.ofNat 11), rest)
      else if letter = byte 'f' then some (.character (Char.ofNat 12), rest)
      else if letter = byte 'r' then some (.character (Char.ofNat 13), rest)
      else some (.character (Char.ofNat letter.toNat), rest)

/-- Reads the next unit of a quoted text; there is none at the closing mark. -/
def readUnit? : Text → Option (Unit × Text)
  | [] => none
  | b :: rest =>
      if b = byte '"' then none
      else if b = byte '\\' then readEscape? rest
      else (decode? (b :: rest)).map fun (c, rest) => (.character c, rest)

theorem readUnit?_mark (rest : Text) : readUnit? (byte '"' :: rest) = none := by
  rw [readUnit?, if_pos rfl]

theorem readUnit?_backslash (t : Text) : readUnit? (byte '\\' :: t) = readEscape? t := rfl

theorem readCode?_hexadecimal (width n : Nat) (make : Nat → Unit) (rest : Text) :
    readCode? width make (hexadecimal width n ++ rest) = some (make (n % 16 ^ width), rest) := by
  rw [readCode?, if_pos (by simp), List.take_left' (length_hexadecimal _ _),
    List.drop_left' (length_hexadecimal _ _), hexValue_hexadecimal]

/-- A character whose encoding begins with a byte below 128 is the character of that byte. -/
theorem eq_ofNat_of_encode {c : Char} {b : UInt8} {tail : Text}
    (h : String.utf8EncodeChar c = b :: tail) (hb : b.toNat < 0x80) : c = Char.ofNat b.toNat := by
  have hread := decode?_encode c []
  rw [List.append_nil, h, decode?_ascii hb] at hread
  exact (Prod.mk.inj (Option.some.inj hread)).1.symm

/-- A byte below 128 stands in the encoding of its own character only. -/
theorem eq_ofNat_of_mem_encode {c : Char} {b : UInt8} (h : b ∈ String.utf8EncodeChar c)
    (hb : b.toNat < 0x80) : c = Char.ofNat b.toNat := by
  obtain ⟨first, tail, hbytes⟩ :=
    List.exists_cons_of_ne_nil (String.utf8EncodeChar_ne_nil (c := c))
  rw [hbytes] at h
  obtain rfl | htail := List.mem_cons.1 h
  · exact eq_ofNat_of_encode hbytes hb
  · have hhigh : 0x80 ≤ b.toNat := le_of_mem_tail_encode (c := c) (by rw [hbytes]; exact htail)
    exact absurd hb (Nat.not_lt.2 hhigh)

/-- A character that stands for itself is read as it is. -/
theorem readUnit?_encode {c : Char} (hmark : c ≠ '"') (hslash : c ≠ '\\') (rest : Text) :
    readUnit? (String.utf8EncodeChar c ++ rest) = some (.character c, rest) := by
  have hread := decode?_encode c rest
  obtain ⟨b, tail, hbytes⟩ := List.exists_cons_of_ne_nil (String.utf8EncodeChar_ne_nil (c := c))
  have hne {d : Char} (hd : Char.ofNat (byte d).toNat = d) (hlow : (byte d).toNat < 0x80)
      (hc : c ≠ d) : b ≠ byte d := by
    rintro rfl
    exact hc ((eq_ofNat_of_encode hbytes hlow).trans hd)
  rw [hbytes, List.cons_append] at hread ⊢
  rw [readUnit?, if_neg (hne (by decide) (by decide) hmark),
    if_neg (hne (by decide) (by decide) hslash), hread]
  rfl

theorem readEscape?_code (c : Char) (rest : Text) :
    ∃ tail, codeEscape c = byte '\\' :: tail ∧
      readEscape? (tail ++ rest) = some (.character c, rest) := by
  have hchar : Char.ofNat c.toNat = c := Char.ofNat_toNat c
  have hvalid : c.toNat < 0x110000 := by
    have := c.valid
    simp only [Nat.isValidChar, UInt32.isValidChar] at this
    rw [Char.toNat]
    omega
  simp only [codeEscape]
  split
  · rename_i hcontrol
    have hlow : c.toNat < 0x80 := by
      simp only [Bool.or_eq_true, decide_eq_true_eq, beq_iff_eq] at hcontrol
      omega
    have hmod : c.toNat % 16 ^ 2 = c.toNat := Nat.mod_eq_of_lt (by omega)
    refine ⟨_, rfl, ?_⟩
    rw [List.cons_append, readEscape?, if_pos rfl, readCode?_hexadecimal, hmod, unitOfCode,
      if_pos hlow, hchar]
  · split
    · have hmod : c.toNat % 16 ^ 4 = c.toNat := Nat.mod_eq_of_lt (by omega)
      refine ⟨_, rfl, ?_⟩
      rw [List.cons_append, readEscape?, if_neg (by decide), if_pos rfl, readCode?_hexadecimal,
        hmod, hchar]
    · have hmod : c.toNat % 16 ^ 8 = c.toNat := Nat.mod_eq_of_lt (by omega)
      refine ⟨_, rfl, ?_⟩
      rw [List.cons_append, readEscape?, if_neg (by decide), if_neg (by decide), if_pos rfl,
        readCode?_hexadecimal, hmod, hchar]

theorem readEscape?_short {c : Char} {letter : UInt8} (h : shortEscape? c = some letter)
    (rest : Text) : readEscape? (letter :: rest) = some (.character c, rest) := by
  have hchar : Char.ofNat c.toNat = c := Char.ofNat_toNat c
  rw [shortEscape?] at h
  split at h
  all_goals cases h
  all_goals
    rename_i hcode
    rw [hcode] at hchar
    rw [← hchar]
    rfl

/-- A unit that was escaped is read back, whatever comes behind it. -/
theorem readUnit?_escapeUnit (printable : Char → Bool) {u : Unit} (h : u.Proper) (rest : Text) :
    readUnit? (escapeUnit '"' printable u ++ rest) = some (u, rest) := by
  cases u with
  | stray b =>
      have hhigh : ¬ b.toNat < 0x80 := Nat.not_lt.2 h
      have hmod : b.toNat % 16 ^ 2 = b.toNat := Nat.mod_eq_of_lt b.toNat_lt
      have hbyte : b.toNat.toUInt8 = b := UInt8.ofNat_toNat
      rw [escapeUnit, List.cons_append, readUnit?_backslash, List.cons_append, readEscape?,
        if_pos rfl, readCode?_hexadecimal, hmod, unitOfCode, if_neg hhigh, hbyte]
  | character c =>
      rw [escapeUnit]
      split
      · rename_i hc
        simp only [Bool.or_eq_true, beq_iff_eq] at hc
        obtain rfl | rfl := hc <;> rfl
      · rename_i hc
        simp only [Bool.or_eq_true, beq_iff_eq, not_or] at hc
        split
        · exact readUnit?_encode hc.1 hc.2 rest
        · split
          · rename_i letter hshort
            rw [List.cons_append, readUnit?_backslash]
            exact readEscape?_short hshort rest
          · obtain ⟨tail, hcode, hread⟩ := readEscape?_code c rest
            rw [hcode, List.cons_append, readUnit?_backslash, hread]

/-- A row of escaped units ends at the closing mark and determines the units. -/
theorem escaped_append_inj {printable : Char → Bool} {us us' : List Unit} {rest rest' : Text}
    (hus : ∀ u ∈ us, u.Proper) (hus' : ∀ u ∈ us', u.Proper)
    (h : us.flatMap (escapeUnit '"' printable) ++ byte '"' :: rest =
      us'.flatMap (escapeUnit '"' printable) ++ byte '"' :: rest') :
    us = us' ∧ rest = rest' := by
  induction us generalizing us' with
  | nil =>
      cases us' with
      | nil => exact ⟨rfl, (List.cons.inj h).2⟩
      | cons u' us' =>
          have hread := congrArg readUnit? h
          rw [List.flatMap_nil, List.nil_append, readUnit?_mark, List.flatMap_cons,
            List.append_assoc, readUnit?_escapeUnit _ (hus' u' (by simp))] at hread
          cases hread
  | cons u us ih =>
      have hread := congrArg readUnit? h
      rw [List.flatMap_cons, List.append_assoc, readUnit?_escapeUnit _ (hus u (by simp))] at hread
      cases us' with
      | nil =>
          rw [List.flatMap_nil, List.nil_append, readUnit?_mark] at hread
          cases hread
      | cons u' us' =>
          rw [List.flatMap_cons, List.append_assoc,
            readUnit?_escapeUnit _ (hus' u' (by simp))] at hread
          obtain ⟨rfl, htail⟩ := Prod.mk.inj (Option.some.inj hread)
          obtain ⟨rfl, hrest⟩ := ih (fun v hv => hus v (List.mem_cons_of_mem _ hv))
            (fun v hv => hus' v (List.mem_cons_of_mem _ hv)) htail
          exact ⟨rfl, hrest⟩

/-- A quoted text ends at its own closing mark, and no other text is quoted like it. -/
theorem quote_append_inj {printable : Char → Bool} {t t' rest rest' : Text}
    (h : quote printable t ++ rest = quote printable t' ++ rest') : t = t' ∧ rest = rest' := by
  simp only [quote, List.cons_append, List.append_assoc, List.nil_append] at h
  obtain ⟨hunits, hrest⟩ := escaped_append_inj (fun _ hu => proper_of_mem_units hu)
    (fun _ hu => proper_of_mem_units hu) (List.cons.inj h).2
  exact ⟨units_injective hunits, hrest⟩

/-- A unit is escaped with a backslash, or it stands for itself. -/
theorem escapeUnit_cases (printable : Char → Bool) (u : Unit) :
    (∃ tail, escapeUnit '"' printable u = byte '\\' :: tail) ∨
      escapeUnit '"' printable u = u.bytes := by
  cases u with
  | stray b => exact .inl ⟨_, rfl⟩
  | character c =>
      rw [escapeUnit]
      split
      · exact .inl ⟨_, rfl⟩
      · split
        · exact .inr rfl
        · split
          · exact .inl ⟨_, rfl⟩
          · obtain ⟨tail, hcode, -⟩ := readEscape?_code c []
            exact .inl ⟨tail, hcode⟩

theorem escapeUnit_ne_nil (printable : Char → Bool) (u : Unit) :
    escapeUnit '"' printable u ≠ [] := by
  obtain ⟨tail, h⟩ | h := escapeUnit_cases printable u
  · exact h ▸ List.cons_ne_nil _ _
  · exact h ▸ u.bytes_ne_nil

/-- A byte below 128 that no escape is written with. -/
structure IsSign (b : UInt8) : Prop where
  low : b.toNat < 0x80
  notWord : isWordPart b = false
  ne_mark : b ≠ byte '"'
  ne_backslash : b ≠ byte '\\'

theorem isWordPart_hexDigit (n : Nat) : isWordPart (hexDigit n) := by
  have hall : ∀ d : Fin 16, isWordPart (hexDigit d) = true := by decide
  obtain ⟨d, -, hdigit⟩ := exists_hexDigit_eq n
  rw [hdigit]
  exact hall d

theorem isWordPart_of_mem_hexadecimal {width n : Nat} {b : UInt8} (h : b ∈ hexadecimal width n) :
    isWordPart b := by
  induction width generalizing n with
  | zero => cases h
  | succ width ih =>
      rw [hexadecimal] at h
      obtain h | h := List.mem_append.1 h
      · exact ih h
      · obtain rfl := List.mem_singleton.1 h
        exact isWordPart_hexDigit n

theorem IsSign.not_mem_backslash {b letter : UInt8} (h : IsSign b) {t : Text}
    (hletter : isWordPart letter) (ht : ∀ c ∈ t, isWordPart c) : b ∉ byte '\\' :: letter :: t := by
  have hword {c : UInt8} (hc : isWordPart c) : b ≠ c := (ne_of_isWordPart hc h.notWord).symm
  simp only [List.mem_cons, not_or]
  exact ⟨h.ne_backslash, hword hletter, fun hb => hword (ht b hb) rfl⟩

theorem IsSign.not_mem_codeEscape {b : UInt8} (h : IsSign b) (c : Char) : b ∉ codeEscape c := by
  simp only [codeEscape]
  split
  · exact h.not_mem_backslash (by decide) fun _ => isWordPart_of_mem_hexadecimal
  · split
    · exact h.not_mem_backslash (by decide) fun _ => isWordPart_of_mem_hexadecimal
    · exact h.not_mem_backslash (by decide) fun _ => isWordPart_of_mem_hexadecimal

theorem isWordPart_of_shortEscape? {c : Char} {letter : UInt8} (h : shortEscape? c = some letter) :
    isWordPart letter := by
  rw [shortEscape?] at h
  split at h
  all_goals cases h
  all_goals decide

/-- A sign stands in an escaped unit only if it is the unit and shows as itself. -/
theorem IsSign.escapeUnit_eq {b : UInt8} (h : IsSign b) {printable : Char → Bool} {u : Unit}
    (hmem : b ∈ escapeUnit '"' printable u) : u.bytes = [b] ∧ escapeUnit '"' printable u = [b] := by
  cases u with
  | stray a =>
      refine absurd hmem ?_
      rw [escapeUnit]
      exact h.not_mem_backslash (by decide) fun _ => isWordPart_of_mem_hexadecimal
  | character c =>
      rw [escapeUnit] at hmem ⊢
      split at hmem
      · rename_i hc
        simp only [Bool.or_eq_true, beq_iff_eq] at hc
        simp only [List.mem_cons, List.not_mem_nil, or_false] at hmem
        obtain rfl | rfl := hmem
        · exact absurd rfl h.ne_backslash
        · obtain rfl | rfl := hc
          · exact absurd rfl h.ne_mark
          · exact absurd rfl h.ne_backslash
      · rename_i hc
        rw [if_neg hc]
        split at hmem
        · rename_i hprintable
          have hone : String.utf8EncodeChar c = [b] := by
            rw [eq_ofNat_of_mem_encode hmem h.low, encode_one h.low]
          rw [if_pos hprintable]
          exact ⟨hone, hone⟩
        · split at hmem
          · rename_i letter hshort
            exact absurd hmem (h.not_mem_backslash (isWordPart_of_shortEscape? hshort) nofun)
          · exact absurd hmem (h.not_mem_codeEscape c)

/-- A sign stands in a quoted text only if it stands in the text. -/
theorem IsSign.mem_of_mem_quote {b : UInt8} (h : IsSign b) {printable : Char → Bool} {t : Text}
    (hmem : b ∈ quote printable t) : b ∈ t := by
  rw [quote, List.mem_cons, List.mem_append, List.mem_singleton, List.mem_flatMap] at hmem
  obtain hb | ⟨u, hu, hb⟩ | hb := hmem
  · exact absurd hb h.ne_mark
  · rw [← ofUnits_units t, ofUnits, List.mem_flatMap]
    exact ⟨u, hu, by rw [(h.escapeUnit_eq hb).1]; exact List.mem_singleton.2 rfl⟩
  · exact absurd hb h.ne_mark

/-- Two signs in a row stand among escaped units only if they stand in a row in the text. -/
theorem IsSign.pair_infix_ofUnits {a b : UInt8} (ha : IsSign a) (hb : IsSign b)
    {printable : Char → Bool} {us : List Unit}
    (h : [a, b] <:+: us.flatMap (escapeUnit '"' printable)) : [a, b] <:+: ofUnits us := by
  induction us with
  | nil => exact h
  | cons u us ih =>
      rw [List.flatMap_cons] at h
      rw [ofUnits_cons]
      obtain hu | hus | ⟨⟨before, hbefore⟩, after, hafter⟩ := pair_infix_append h
      · have hone := (ha.escapeUnit_eq (hu.subset (by simp))).2
        rw [hone] at hu
        exact absurd hu.length_le (by simp)
      · exact (ih hus).trans (List.suffix_append _ _).isInfix
      · have hfirst : a ∈ escapeUnit '"' printable u := by
          rw [hbefore]
          simp
        cases us with
        | nil => cases hafter
        | cons v us =>
            obtain ⟨c, tail, hcons⟩ := List.exists_cons_of_ne_nil (escapeUnit_ne_nil printable v)
            rw [List.flatMap_cons, hcons, List.cons_append] at hafter
            obtain rfl := (List.cons.inj hafter).1
            have hsecond : c ∈ escapeUnit '"' printable v := by
              rw [hcons]
              simp
            rw [(ha.escapeUnit_eq hfirst).1, ofUnits_cons, (hb.escapeUnit_eq hsecond).1]
            exact ⟨[], ofUnits us, rfl⟩

/-- Two signs in a row stand in a quoted text only if they stand in a row in the text. -/
theorem IsSign.pair_infix_of_quote {a b : UInt8} (ha : IsSign a) (hb : IsSign b)
    {printable : Char → Bool} {t : Text} (h : [a, b] <:+: quote printable t) : [a, b] <:+: t := by
  rw [quote, List.infix_cons_iff, List.cons_prefix_cons] at h
  obtain ⟨hmark, -⟩ | h := h
  · exact absurd hmark ha.ne_mark
  obtain h | h | ⟨-, after, hafter⟩ := pair_infix_append h
  · rw [← ofUnits_units t]
    exact ha.pair_infix_ofUnits hb h
  · exact absurd h.length_le (by simp)
  · exact absurd (List.cons.inj hafter).1.symm hb.ne_mark

end RegisterMachine.Text

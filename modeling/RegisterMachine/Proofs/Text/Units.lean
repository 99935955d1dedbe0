import RegisterMachine.Text.Blank

/-!
# Units of a byte text

Reading a character off a text and writing it are inverse to each other. So the units
of a text, written out, are the text again, and a beginning of the units is read back
from its own bytes: nothing behind it can change how a byte was taken.
-/
namespace RegisterMachine.Text

theorem toNat_ofNat {n : Nat} (h : n.isValidChar) : (Char.ofNat n).val.toNat = n := by
  rw [Char.ofNat, dif_pos h]
  rfl

/-- The range of a continuation byte, and what it carries. -/
theorem payload_of_isContinuation {b : UInt8} (h : isContinuation b) :
    b.toNat = payload b + 0x80 ∧ payload b < 64 := by
  have hp : payload b = b.toNat - 0x80 := rfl
  simp only [isContinuation, Bool.and_eq_true, decide_eq_true_eq] at h
  omega

theorem toNat_byte {n : Nat} (h : n < 256) : (UInt8.ofNat n).toNat = n :=
  UInt8.toNat_ofNat_of_lt' h

theorem ofNat_eq_iff {b : UInt8} {n : Nat} (h : n < 256) : UInt8.ofNat n = b ↔ n = b.toNat := by
  rw [← UInt8.toNat_inj, toNat_byte h]

theorem decode?_ascii {b : UInt8} (h : b.toNat < 0x80) (rest : Text) :
    decode? (b :: rest) = some (Char.ofNat b.toNat, rest) := if_pos h

theorem encode_one {a : UInt8} (ha : a.toNat < 0x80) :
    String.utf8EncodeChar (Char.ofNat a.toNat) = [a] := by
  have hn : (Char.ofNat a.toNat).val.toNat = a.toNat := toNat_ofNat (.inl (by omega))
  simp only [String.utf8EncodeChar, hn]
  rw [if_pos (by omega), UInt8.ofNat_toNat]

theorem encode_two {a b : UInt8} {n : Nat} (ha : 0xC2 ≤ a.toNat ∧ a.toNat < 0xE0)
    (hb : isContinuation b) (hn : n = (a.toNat - 0xC0) * 64 + payload b) :
    String.utf8EncodeChar (Char.ofNat n) = [a, b] := by
  have hb := payload_of_isContinuation hb
  have hval := toNat_ofNat (n := n) (.inl (by omega))
  simp only [String.utf8EncodeChar, hval]
  rw [if_neg (by omega), if_pos (by omega), List.cons.injEq, List.cons.injEq,
    ofNat_eq_iff (by omega), ofNat_eq_iff (by omega)]
  exact ⟨by omega, by omega, rfl⟩

theorem encode_three {a b c : UInt8} {n : Nat} (ha : 0xE0 ≤ a.toNat ∧ a.toNat < 0xF0)
    (hb : isContinuation b) (hc : isContinuation c)
    (hn : n = (a.toNat - 0xE0) * 4096 + payload b * 64 + payload c)
    (hlong : 0x800 ≤ n) (hscalar : ¬ (0xD800 ≤ n ∧ n ≤ 0xDFFF)) :
    String.utf8EncodeChar (Char.ofNat n) = [a, b, c] := by
  have hb := payload_of_isContinuation hb
  have hc := payload_of_isContinuation hc
  have hval := toNat_ofNat (n := n) (by unfold Nat.isValidChar; omega)
  simp only [String.utf8EncodeChar, hval]
  rw [if_neg (by omega), if_neg (by omega), if_pos (by omega), List.cons.injEq, List.cons.injEq,
    List.cons.injEq, ofNat_eq_iff (by omega), ofNat_eq_iff (by omega), ofNat_eq_iff (by omega)]
  exact ⟨by omega, by omega, by omega, rfl⟩

theorem encode_four {a b c d : UInt8} {n : Nat} (ha : 0xF0 ≤ a.toNat ∧ a.toNat < 0xF5)
    (hb : isContinuation b) (hc : isContinuation c) (hd : isContinuation d)
    (hn : n = (a.toNat - 0xF0) * 262144 + payload b * 4096 + payload c * 64 + payload d)
    (hlong : 0x10000 ≤ n) (hscalar : n ≤ 0x10FFFF) :
    String.utf8EncodeChar (Char.ofNat n) = [a, b, c, d] := by
  have hb := payload_of_isContinuation hb
  have hc := payload_of_isContinuation hc
  have hd := payload_of_isContinuation hd
  have hval := toNat_ofNat (n := n) (by unfold Nat.isValidChar; omega)
  simp only [String.utf8EncodeChar, hval]
  rw [if_neg (by omega), if_neg (by omega), if_neg (by omega), List.cons.injEq, List.cons.injEq,
    List.cons.injEq, List.cons.injEq, ofNat_eq_iff (by omega), ofNat_eq_iff (by omega),
    ofNat_eq_iff (by omega), ofNat_eq_iff (by omega)]
  exact ⟨by omega, by omega, by omega, by omega, rfl⟩

/-- The character in front is written with the bytes from which it was read. -/
theorem eq_encode_of_decode? {t rest : Text} {c : Char} (h : decode? t = some (c, rest)) :
    t = String.utf8EncodeChar c ++ rest := by
  unfold decode? at h
  split at h
  · cases h
  rename_i a tail
  dsimp only at h
  repeat' split at h
  all_goals simp only [Option.some.injEq, Prod.mk.injEq, reduceCtorEq] at h
  all_goals obtain ⟨rfl, rfl⟩ := h
  · rw [encode_one (by assumption)]
    rfl
  · rw [encode_two ⟨by omega, by assumption⟩ (by assumption) rfl]
    rfl
  · rename_i b c rest hform
    simp only [Bool.and_eq_true, Bool.not_eq_true', Bool.and_eq_false_iff, decide_eq_true_eq,
      decide_eq_false_iff_not] at hform
    rw [encode_three (a := a) (b := b) (c := c) ⟨by omega, by assumption⟩ hform.1.1.1 hform.1.1.2
      rfl hform.1.2 (by omega)]
    rfl
  · rename_i b c d rest hform
    simp only [Bool.and_eq_true, decide_eq_true_eq] at hform
    rw [encode_four (a := a) (b := b) (c := c) (d := d) ⟨by omega, by assumption⟩ hform.1.1.1.1
      hform.1.1.1.2 hform.1.1.2 rfl hform.1.2 hform.2]
    rfl

theorem isContinuation_ofNat {n : Nat} (h : n < 64) :
    isContinuation (UInt8.ofNat (n + 0x80)) ∧ payload (UInt8.ofNat (n + 0x80)) = n := by
  have hn := toNat_byte (n := n + 0x80) (by omega)
  have hp : payload (UInt8.ofNat (n + 0x80)) = (UInt8.ofNat (n + 0x80)).toNat - 0x80 := rfl
  refine ⟨?_, by omega⟩
  simp only [isContinuation, hn, Bool.and_eq_true, decide_eq_true_eq]
  omega

/-- A character that was written is read back, whatever comes after it. -/
theorem decode?_encode (c : Char) (rest : Text) :
    decode? (String.utf8EncodeChar c ++ rest) = some (c, rest) := by
  have hvalid : c.val.toNat < 0xD800 ∨ (0xDFFF < c.val.toNat ∧ c.val.toNat < 0x110000) := c.valid
  have hc : Char.ofNat c.val.toNat = c := Char.ofNat_toNat c
  simp only [String.utf8EncodeChar]
  generalize c.val.toNat = v at hvalid hc
  split
  · simp only [List.cons_append, List.nil_append, decode?, toNat_byte (n := v) (by omega)]
    rw [if_pos (by omega), hc]
  obtain ⟨hlow, hlow'⟩ := isContinuation_ofNat (n := v % 64) (by omega)
  obtain ⟨hmid, hmid'⟩ := isContinuation_ofNat (n := v / 64 % 64) (by omega)
  obtain ⟨hhigh, hhigh'⟩ := isContinuation_ofNat (n := v / 4096 % 64) (by omega)
  split
  · have hn : (v / 64 % 32 + 0xC0 - 0xC0) * 64 + v % 64 = v := by omega
    simp only [List.cons_append, List.nil_append, decode?, hlow, hlow', if_true,
      toNat_byte (n := v / 64 % 32 + 0xC0) (by omega)]
    rw [if_neg (by omega), if_neg (by omega), if_pos (by omega), hn, hc]
  split
  · have hn : (v / 4096 % 16 + 0xE0 - 0xE0) * 4096 + v / 64 % 64 * 64 + v % 64 = v := by omega
    have hform : (decide (0x800 ≤ v) && !(decide (0xD800 ≤ v) && decide (v ≤ 0xDFFF))) = true := by
      simp only [Bool.and_eq_true, Bool.not_eq_true', Bool.and_eq_false_iff, decide_eq_true_eq,
        decide_eq_false_iff_not]
      omega
    simp only [List.cons_append, List.nil_append, decode?, hlow, hlow', hmid, hmid',
      toNat_byte (n := v / 4096 % 16 + 0xE0) (by omega), hn, Bool.true_and, hform, if_true, hc]
    rw [if_neg (by omega), if_neg (by omega), if_neg (by omega), if_pos (by omega)]
  · have hn : (v / 262144 % 8 + 0xF0 - 0xF0) * 262144 + v / 4096 % 64 * 4096 + v / 64 % 64 * 64
        + v % 64 = v := by omega
    have hform : (decide (0x10000 ≤ v) && decide (v ≤ 0x10FFFF)) = true := by
      simp only [Bool.and_eq_true, decide_eq_true_eq]
      omega
    simp only [List.cons_append, List.nil_append, decode?, hlow, hlow', hmid, hmid', hhigh, hhigh',
      toNat_byte (n := v / 262144 % 8 + 0xF0) (by omega), hn, Bool.true_and, hform, if_true, hc]
    rw [if_neg (by omega), if_neg (by omega), if_neg (by omega), if_neg (by omega),
      if_pos (by omega)]

/-- Every text is put together from characters and stray bytes. -/
theorem units_induction {motive : Text → Prop} (nil : motive [])
    (character : ∀ c rest, motive rest → motive (String.utf8EncodeChar c ++ rest))
    (stray : ∀ b rest, decode? (b :: rest) = none → motive rest → motive (b :: rest))
    (t : Text) : motive t := by
  induction hn : t.length using Nat.strongRecOn generalizing t with
  | ind n ih =>
      cases t with
      | nil => exact nil
      | cons b tail =>
          cases hd : decode? (b :: tail) with
          | none => exact stray b tail hd (ih _ (by rw [← hn]; simp) tail rfl)
          | some found =>
              obtain ⟨c, rest⟩ := found
              have hlt := length_lt_of_decode? hd
              rw [eq_encode_of_decode? hd]
              exact character c rest (ih _ (by omega) rest rfl)

@[simp] theorem units_encode (c : Char) (rest : Text) :
    units (String.utf8EncodeChar c ++ rest) = .character c :: units rest :=
  units_of_decode? (decode?_encode c rest)

@[simp] theorem ofUnits_nil : ofUnits [] = [] := rfl

@[simp] theorem ofUnits_cons (u : Unit) (us : List Unit) :
    ofUnits (u :: us) = u.bytes ++ ofUnits us := List.flatMap_cons

@[simp] theorem ofUnits_append (us vs : List Unit) :
    ofUnits (us ++ vs) = ofUnits us ++ ofUnits vs := List.flatMap_append

/-- The units written out are the text. -/
@[simp] theorem ofUnits_units (t : Text) : ofUnits (units t) = t := by
  induction t using units_induction with
  | nil => simp
  | character c rest ih => simp [ih, Unit.bytes]
  | stray b rest hd ih => simp [units_of_stray hd, ih, Unit.bytes]

theorem decode?_append {t rest : Text} {c : Char} (h : decode? t = some (c, rest)) (more : Text) :
    decode? (t ++ more) = some (c, rest ++ more) := by
  rw [eq_encode_of_decode? h, List.append_assoc, decode?_encode]

/-- A byte that is stray stays stray when the text ends earlier. -/
theorem decode?_eq_none_of_append {t more : Text} (h : decode? (t ++ more) = none) :
    decode? t = none := by
  cases ht : decode? t with
  | none => rfl
  | some found =>
      rw [decode?_append ht more] at h
      cases h

/-- A beginning of the units of a text is read back from its bytes. -/
theorem units_ofUnits_left {t : Text} {us vs : List Unit} (h : units t = us ++ vs) :
    units (ofUnits us) = us := by
  induction t using units_induction generalizing us with
  | nil =>
      rw [units_nil] at h
      obtain ⟨rfl, -⟩ := List.nil_eq_append_iff.1 h
      simp
  | character c rest ih =>
      rw [units_encode] at h
      obtain ⟨rfl, -⟩ | ⟨us, rfl, hrest⟩ := List.cons_eq_append_iff.1 h
      · simp
      · rw [ofUnits_cons, Unit.bytes, units_encode, ih hrest]
  | stray b rest hd ih =>
      rw [units_of_stray hd] at h
      obtain ⟨rfl, -⟩ | ⟨us, rfl, hrest⟩ := List.cons_eq_append_iff.1 h
      · simp
      · have hbytes : rest = ofUnits us ++ ofUnits vs := by
          rw [← ofUnits_append, ← hrest, ofUnits_units]
        rw [hbytes, ← List.cons_append] at hd
        rw [ofUnits_cons, Unit.bytes, List.singleton_append,
          units_of_stray (decode?_eq_none_of_append hd), ih hrest]

/-- An end of the units of a text is read back from its bytes. -/
theorem units_ofUnits_right {t : Text} {us vs : List Unit} (h : units t = us ++ vs) :
    units (ofUnits vs) = vs := by
  induction t using units_induction generalizing us with
  | nil =>
      rw [units_nil] at h
      obtain ⟨-, rfl⟩ := List.nil_eq_append_iff.1 h
      simp
  | character c rest ih =>
      cases us with
      | nil => rw [List.nil_append] at h; rw [← h, ofUnits_units]
      | cons u us =>
          rw [units_encode, List.cons_append] at h
          exact ih (List.cons.inj h).2
  | stray b rest hd ih =>
      cases us with
      | nil => rw [List.nil_append] at h; rw [← h, ofUnits_units]
      | cons u us =>
          rw [units_of_stray hd, List.cons_append] at h
          exact ih (List.cons.inj h).2

@[simp] theorem units_ascii {b : UInt8} (hb : b.toNat < 0x80) (rest : Text) :
    units (b :: rest) = .character (Char.ofNat b.toNat) :: units rest :=
  units_of_decode? (if_pos hb)

/-- Behind its first byte a character has no byte below 128. -/
theorem le_of_mem_tail_encode {c : Char} {b : UInt8} (h : b ∈ (String.utf8EncodeChar c).tail) :
    0x80 ≤ b.toNat := by
  have htail (n : Nat) : 0x80 ≤ (UInt8.ofNat (n % 64 + 0x80)).toNat := by
    rw [toNat_byte (by omega)]
    omega
  simp only [String.utf8EncodeChar] at h
  split at h
  · cases h
  split at h
  · obtain rfl := List.mem_singleton.1 h
    exact htail _
  split at h
  · simp only [List.tail_cons, List.mem_cons, List.not_mem_nil, or_false] at h
    obtain rfl | rfl := h <;> exact htail _
  · simp only [List.tail_cons, List.mem_cons, List.not_mem_nil, or_false] at h
    obtain rfl | rfl | rfl := h <;> exact htail _

/-- A byte below 128 is never taken into a character that began before it. -/
theorem units_append_ascii {b : UInt8} (hb : b.toNat < 0x80) (t rest : Text) :
    units (t ++ b :: rest) = units t ++ units (b :: rest) := by
  induction t using units_induction with
  | nil => simp
  | character c tail ih => rw [List.append_assoc, units_encode, units_encode, ih, List.cons_append]
  | stray a tail hd ih =>
      have hstray : decode? (a :: tail ++ b :: rest) = none := by
        cases hsome : decode? (a :: tail ++ b :: rest) with
        | none => rfl
        | some found =>
            obtain ⟨c, after⟩ := found
            obtain ⟨part, hc, hpart⟩ | ⟨part, hc, -⟩ :=
              List.append_eq_append_iff.1 (eq_encode_of_decode? hsome)
            · cases part with
              | nil =>
                  rw [List.append_nil] at hc
                  have := decode?_encode c []
                  rw [List.append_nil, hc, hd] at this
                  cases this
              | cons b' part =>
                  obtain rfl : b = b' := (List.cons.inj hpart).1
                  have hmem : b ∈ (String.utf8EncodeChar c).tail := by simp [hc]
                  have := le_of_mem_tail_encode hmem
                  omega
            · rw [hc, decode?_encode] at hd
              cases hd
      rw [List.cons_append] at hstray
      rw [List.cons_append, units_of_stray hstray, units_of_stray hd, ih, List.cons_append]

end RegisterMachine.Text

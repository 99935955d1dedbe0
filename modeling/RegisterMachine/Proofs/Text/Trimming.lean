import RegisterMachine.Proofs.Text.Units

/-!
# Trimming

Trimming takes blanks off the two ends and stops at the first unit that is none. What
is left is a part of the text; trimming it again, or putting it between other bytes that
are no blanks, takes nothing more off.
-/
namespace RegisterMachine.Text

variable {α : Type} {p : α → Bool}

theorem dropEndWhile_isPrefix (p : α → Bool) (xs : List α) : dropEndWhile p xs <+: xs := by
  rw [dropEndWhile, ← List.reverse_suffix, List.reverse_reverse]
  exact List.dropWhile_suffix p

theorem getLast?_dropEndWhile {xs : List α} {x : α} (h : (dropEndWhile p xs).getLast? = some x) :
    p x = false := by
  rw [dropEndWhile, List.getLast?_reverse] at h
  have hnot := List.head?_dropWhile_not p xs.reverse
  rw [h] at hnot
  exact hnot

theorem dropWhile_eq_self {xs : List α} (h : ∀ x, xs.head? = some x → p x = false) :
    xs.dropWhile p = xs := by
  cases xs with
  | nil => rfl
  | cons x xs => rw [List.dropWhile_cons, h x rfl]; rfl

theorem dropEndWhile_eq_self {xs : List α} (h : ∀ x, xs.getLast? = some x → p x = false) :
    dropEndWhile p xs = xs := by
  rw [dropEndWhile, dropWhile_eq_self, List.reverse_reverse]
  intro x hx
  exact h x (by rw [← hx, List.head?_reverse])

/-- There is no blank at either end of the text. -/
structure Trimmed (t : Text) : Prop where
  head : ∀ u, (units t).head? = some u → u.isBlank = false
  last : ∀ u, (units t).getLast? = some u → u.isBlank = false

theorem units_trim (t : Text) :
    units (trim t) = dropEndWhile Unit.isBlank ((units t).dropWhile Unit.isBlank) := by
  have hmid : units (ofUnits ((units t).dropWhile Unit.isBlank)) =
      (units t).dropWhile Unit.isBlank :=
    units_ofUnits_right (List.takeWhile_append_dropWhile (p := Unit.isBlank)).symm
  obtain ⟨removed, hremoved⟩ :=
    dropEndWhile_isPrefix Unit.isBlank ((units t).dropWhile Unit.isBlank)
  rw [← hremoved] at hmid
  exact units_ofUnits_left hmid

theorem trimmed_trim (t : Text) : Trimmed (trim t) where
  head u hu := by
    rw [units_trim] at hu
    obtain ⟨removed, hremoved⟩ :=
      dropEndWhile_isPrefix Unit.isBlank ((units t).dropWhile Unit.isBlank)
    have hnot := List.head?_dropWhile_not Unit.isBlank (units t)
    rw [← hremoved, List.head?_append, hu] at hnot
    exact hnot
  last u hu := by
    rw [units_trim] at hu
    exact getLast?_dropEndWhile hu

theorem Trimmed.trim_eq {t : Text} (h : Trimmed t) : trim t = t := by
  rw [trim, dropWhile_eq_self h.head, dropEndWhile_eq_self h.last, ofUnits_units]

/-- Trimming cuts a part out of the text. -/
theorem trim_isInfix (t : Text) : trim t <:+: t := by
  obtain ⟨removed, hremoved⟩ :=
    dropEndWhile_isPrefix Unit.isBlank ((units t).dropWhile Unit.isBlank)
  refine ⟨ofUnits ((units t).takeWhile Unit.isBlank), ofUnits removed, ?_⟩
  rw [trim, List.append_assoc, ← ofUnits_append, hremoved, ← ofUnits_append,
    List.takeWhile_append_dropWhile, ofUnits_units]

theorem length_trim_le (t : Text) : (trim t).length ≤ t.length := (trim_isInfix t).length_le

theorem Trimmed.nil : Trimmed [] where
  head u hu := by simp at hu
  last u hu := by simp at hu

/-- A byte below 128 that is no blank may stand in front. -/
theorem Trimmed.cons {b : UInt8} {t : Text} (h : Trimmed t) (hb : b.toNat < 0x80)
    (hblank : isBlank (Char.ofNat b.toNat) = false) : Trimmed (b :: t) where
  head u hu := by
    rw [units_ascii hb] at hu
    cases hu
    exact hblank
  last u hu := by
    rw [units_ascii hb, List.getLast?_cons] at hu
    cases hlast : (units t).getLast? with
    | none =>
        rw [hlast] at hu
        cases hu
        exact hblank
    | some v =>
        rw [hlast] at hu
        cases hu
        exact h.last v hlast

/-- Between two bytes below 128 that are no blanks anything may stand. -/
theorem trimmed_between {b c : UInt8} (hb : b.toNat < 0x80)
    (hblank : isBlank (Char.ofNat b.toNat) = false) (hc : c.toNat < 0x80)
    (hblank' : isBlank (Char.ofNat c.toNat) = false) (t : Text) :
    Trimmed (b :: (t ++ [c])) where
  head u hu := by
    rw [units_ascii hb] at hu
    cases hu
    exact hblank
  last u hu := by
    rw [← List.cons_append, units_append_ascii hc, units_ascii hc, units_nil,
      List.getLast?_append] at hu
    cases hu
    exact hblank'

/-- What stands before a byte below 128 may be exchanged for any other trimmed text. -/
theorem Trimmed.exchange {left other rest : Text} {b : UInt8} (h : Trimmed (left ++ b :: rest))
    (hb : b.toNat < 0x80) (hne : other ≠ []) (hother : Trimmed other) :
    Trimmed (other ++ b :: rest) where
  head u hu := by
    rw [units_append_ascii hb, List.head?_append] at hu
    cases hhead : (units other).head? with
    | none =>
        have hnil := List.head?_eq_none_iff.1 hhead
        rw [← ofUnits_units other, hnil] at hne
        exact absurd rfl hne
    | some v =>
        rw [hhead] at hu
        cases hu
        exact hother.head u hhead
  last u hu := by
    refine h.last u ?_
    rw [units_append_ascii hb, List.getLast?_append] at hu ⊢
    rw [units_ascii hb, List.getLast?_cons] at hu ⊢
    exact hu

/-- A trimmed text ends in no blank below 128. -/
theorem Trimmed.getLast?_ne {t : Text} {b : UInt8} (h : Trimmed t) (hb : b.toNat < 0x80)
    (hblank : isBlank (Char.ofNat b.toNat)) : t.getLast? ≠ some b := by
  intro hlast
  obtain ⟨init, rfl⟩ := List.getLast?_eq_some_iff.1 hlast
  have := h.last (.character (Char.ofNat b.toNat)) (by
    rw [units_append_ascii hb, units_ascii hb, units_nil, List.getLast?_append]
    rfl)
  rw [Unit.isBlank, hblank] at this
  cases this

/-- Letters, digits and underscores are bytes below 128 and no blanks. -/
theorem not_isBlank_of_isWordPart {b : UInt8} (h : isWordPart b) :
    b.toNat < 0x80 ∧ isBlank (Char.ofNat b.toNat) = false := by
  have hunderscore : b = 95 ↔ b.toNat = 95 := by
    rw [← UInt8.toNat_inj]
    rfl
  simp only [isWordPart, isWordStart, isLetter, isDigit, Bool.or_eq_true, Bool.and_eq_true,
    decide_eq_true_eq, beq_iff_eq, hunderscore] at h
  have hlow : b.toNat < 0x80 := by omega
  refine ⟨hlow, ?_⟩
  have hn : (Char.ofNat b.toNat).toNat = b.toNat := toNat_ofNat (.inl (by omega))
  simp only [isBlank, hn, Bool.or_eq_false_iff, Bool.and_eq_false_iff, decide_eq_false_iff_not,
    beq_eq_false_iff_ne]
  omega

theorem trimmed_of_word {t : Text} (h : ∀ b ∈ t, isWordPart b) : Trimmed t := by
  induction t with
  | nil => exact .nil
  | cons b t ih =>
      obtain ⟨hlow, hblank⟩ := not_isBlank_of_isWordPart (h b (by simp))
      exact (ih fun c hc => h c (List.mem_cons_of_mem _ hc)).cons hlow hblank

/-- A blank of one byte. -/
structure IsSpace (b : UInt8) : Prop where
  low : b.toNat < 0x80
  blank : isBlank (Char.ofNat b.toNat)

theorem IsSpace.ne_slash {b : UInt8} (h : IsSpace b) : b ≠ byte '/' := by
  rintro rfl
  exact absurd h.blank (by decide)

theorem isSpace_carriageReturn : IsSpace carriageReturn := ⟨by decide, by decide⟩

theorem trim_cons_of_isSpace {b : UInt8} (h : IsSpace b) (t : Text) : trim (b :: t) = trim t := by
  have hblank : Unit.isBlank (.character (Char.ofNat b.toNat)) = true := h.blank
  rw [trim, units_ascii h.low, List.dropWhile_cons_of_pos hblank, ← trim]

theorem trim_append_of_isSpace {b : UInt8} (h : IsSpace b) (t : Text) :
    trim (t ++ [b]) = trim t := by
  have hblank : Unit.isBlank (.character (Char.ofNat b.toNat)) = true := h.blank
  rw [trim, trim, units_append_ascii h.low, units_ascii h.low, units_nil, List.dropWhile_append]
  split
  · rename_i hall
    rw [List.isEmpty_iff] at hall
    rw [hall, List.dropWhile_cons_of_pos hblank, List.dropWhile_nil]
  · rw [dropEndWhile, List.reverse_append, List.reverse_singleton, List.singleton_append,
      List.dropWhile_cons_of_pos hblank, ← dropEndWhile]

end RegisterMachine.Text

import RegisterMachine.Text.Basic

/-!
# Letters, digits and underscores

What an identifier is made of, and how its first byte tells it from a numeral.
-/
namespace RegisterMachine.Text

theorem isWordPart_of_isWordStart {b : UInt8} (h : isWordStart b) : isWordPart b := by
  rw [isWordPart, h, Bool.true_or]

/-- Bytes of which one can stand in an identifier and one cannot are different. -/
theorem ne_of_isWordPart {b c : UInt8} (hb : isWordPart b) (hc : isWordPart c = false) : b ≠ c := by
  rintro rfl
  rw [hb] at hc
  cases hc

theorem not_isDigit_of_isWordStart {b : UInt8} (h : isWordStart b) : ¬ isDigit b := by
  have hunderscore : b = 95 ↔ b.toNat = 95 := by
    rw [← UInt8.toNat_inj]
    rfl
  simp only [isWordStart, isLetter, Bool.or_eq_true, Bool.and_eq_true, decide_eq_true_eq,
    beq_iff_eq, hunderscore] at h
  simp only [isDigit, Bool.and_eq_true, decide_eq_true_eq]
  omega

/-- An identifier has a first byte. -/
theorem exists_of_isIdentifier {name : Text} (h : name.isIdentifier) :
    ∃ first rest, name = first :: rest ∧ isWordStart first ∧ ∀ b ∈ rest, isWordPart b := by
  cases name with
  | nil => cases h
  | cons first rest =>
      simp only [isIdentifier, Bool.and_eq_true, List.all_eq_true] at h
      exact ⟨first, rest, rfl, h.1, h.2⟩

theorem isWordPart_of_mem {name : Text} (h : name.isIdentifier) {b : UInt8} (hb : b ∈ name) :
    isWordPart b := by
  obtain ⟨first, rest, rfl, hfirst, hrest⟩ := exists_of_isIdentifier h
  rcases List.mem_cons.1 hb with rfl | hb
  · exact isWordPart_of_isWordStart hfirst
  · exact hrest b hb

theorem not_isDigits_of_isIdentifier {name : Text} (h : name.isIdentifier) : ¬ name.isDigits := by
  obtain ⟨first, rest, rfl, hfirst, -⟩ := exists_of_isIdentifier h
  intro hdigits
  simp only [isDigits, List.all_cons, Bool.and_eq_true] at hdigits
  exact not_isDigit_of_isWordStart hfirst hdigits.2.1

end RegisterMachine.Text

import RegisterMachine.Proofs.Strict.Safety

/-!
# Texts times integers

A text times an integer is that many copies of the text in a row, and none for a negative integer.
Whether the copies fit into a text is decided by comparing the length with a rounded quotient.
Rounding misjudges no product: the operation fails if and only if the copies together are longer
than the longest text.
-/
namespace RegisterMachine

open Text (ofString)

namespace Text

theorem times_eq_flatten (n : Nat) (t : Text) : t.times n = (List.replicate n t).flatten := by
  rw [times]
  split
  · rename_i hempty
    rw [List.isEmpty_iff.1 hempty]
    simp
  · rfl

@[simp] theorem length_times (n : Nat) (t : Text) : (t.times n).length = n * t.length := by
  simp [times_eq_flatten]

theorem times_add (n k : Nat) (t : Text) : t.times (n + k) = t.times n ++ t.times k := by
  rw [times_eq_flatten, times_eq_flatten, times_eq_flatten, ← List.replicate_append_replicate,
    List.flatten_append]

end Text

namespace Value

/-- A number of copies of a text would be longer than the longest text. -/
def TooLong (t : Text) (count : Int64) : Prop :=
  0 < count ∧ 9223372036854775807 < t.length * count.toInt

instance (t : Text) (count : Int64) : Decidable (TooLong t count) :=
  inferInstanceAs (Decidable (_ ∧ _))

/-- The rounded quotient is less than the length for just those products that are too long. -/
theorem guard_iff_tooLong (t : Text) (count : Int64) :
    (0 < count.toNatClampNeg ∧ maxLength / count.toNatClampNeg < t.length) ↔ TooLong t count := by
  have hcount : 0 < count ↔ 0 < count.toInt := by rw [Int64.lt_iff_toInt_lt, Int64.toInt_zero]
  rw [TooLong, hcount, ← Int64.toNat_toInt]
  by_cases hpos : 0 < count.toInt
  · have hcopies : 0 < count.toInt.toNat := by omega
    have hcast : ((t.length * count.toInt.toNat : Nat) : Int) = t.length * count.toInt := by
      rw [Int.natCast_mul, Int.toNat_of_nonneg (Int.le_of_lt hpos)]
    rw [Nat.div_lt_iff_lt_mul hcopies, maxLength, ← hcast]
    omega
  · omega

/-- Copies are made unless they are too long. -/
theorem repeated_eq_ite (t : Text) (count : Int64) :
    repeated t count =
      if TooLong t count then .error .textLength else .ok (.text (t.times count.toInt.toNat)) := by
  have hguard := guard_iff_tooLong t count
  by_cases hlong : TooLong t count
  · rw [if_pos hlong]
    exact if_pos (hguard.2 hlong)
  · rw [if_neg hlong, Int64.toNat_toInt]
    exact if_neg fun h => hlong (hguard.1 h)

/-- What is too long stays too long with more copies. -/
theorem TooLong.mono {t : Text} {c d : Int64} (h : TooLong t c) (hle : c.toInt ≤ d.toInt) :
    TooLong t d := by
  obtain ⟨hpos, hlong⟩ := h
  have hmore : t.length * c.toInt ≤ t.length * d.toInt :=
    Int.mul_le_mul_of_nonneg_left hle (Int.natCast_nonneg _)
  refine ⟨?_, Int.lt_of_lt_of_le hlong hmore⟩
  rw [Int64.lt_iff_toInt_lt] at hpos ⊢
  exact Int.lt_of_lt_of_le hpos hle

/-- If all copies fit, so does a part of them, and the parts make up the whole. -/
theorem repeated_add {t : Text} {c d : Int64} {v : Value} (hc : 0 ≤ c) (hd : 0 ≤ d)
    (hfits : c.toInt + d.toInt ≤ 9223372036854775807) (h : repeated t (c + d) = .ok v) :
    ∃ u w, repeated t c = .ok u ∧ repeated t d = .ok w ∧ u.add w = .ok v := by
  rw [Int64.le_iff_toInt_le, Int64.toInt_zero] at hc hd
  have hsum : (c + d).toInt = c.toInt + d.toInt := by
    rw [Int64.toInt_add]
    exact Int.bmod_eq_of_le (by omega) (by omega)
  rw [repeated_eq_ite] at h
  split at h
  · cases h
  rename_i hshort
  cases h
  have hfirst : ¬ TooLong t c := fun hlong => hshort (hlong.mono (by omega))
  have hsecond : ¬ TooLong t d := fun hlong => hshort (hlong.mono (by omega))
  refine ⟨.text (t.times c.toInt.toNat), .text (t.times d.toInt.toNat), ?_, ?_, ?_⟩
  · rw [repeated_eq_ite, if_neg hfirst]
  · rw [repeated_eq_ite, if_neg hsecond]
  · rw [hsum, Int.toNat_add hc hd, Text.times_add]
    rfl

/-- A text times an integer, in either order, fails exactly if the copies are longer than the
longest text. Otherwise it is the copies in a row, none for a negative integer. Counts that are
added give texts that are joined. On partial primitives the outcome is the same, so copies are
never asked for outside the domain of the primitive. -/
theorem text_times_integer (t : Text) (c : Int64) :
    mul (.integer c) (.text t) = mul (.text t) (.integer c) ∧
    (mul (.text t) (.integer c) = .error .textLength ↔
      0 < c ∧ 9223372036854775807 < t.length * c.toInt) ∧
    (¬ (0 < c ∧ 9223372036854775807 < t.length * c.toInt) →
      ∃ copies : Text, mul (.text t) (.integer c) = .ok (.text copies) ∧
        copies = (List.replicate (max c.toInt 0).toNat t).flatten ∧
        copies.length = t.length * max c.toInt 0) ∧
    (∀ d, 0 ≤ c → 0 ≤ d → c.toInt + d.toInt ≤ 9223372036854775807 →
      ∀ v, mul (.text t) (.integer (c + d)) = .ok v →
        ∃ u w, mul (.text t) (.integer c) = .ok u ∧ mul (.text t) (.integer d) = .ok w ∧
          add u w = .ok v) ∧
    ∀ (p : Strict.Primitive) (m m' : Machine),
      Strict.mul (.text t) (.integer c) m ≠ .error (.undefined p) m' ∧
      Strict.mul (.integer c) (.text t) m ≠ .error (.undefined p) m' := by
  have hrepeated := repeated_eq_ite t c
  have hcopies : (max c.toInt 0).toNat = c.toInt.toNat := by omega
  have hcount : (c.toInt.toNat : Int) = max c.toInt 0 := by omega
  refine ⟨rfl, ?_, ?_, fun d hc hd hfits v => repeated_add hc hd hfits, fun p m m' => ?_⟩
  · show repeated t c = _ ↔ TooLong t c
    rw [hrepeated]
    split <;> simp [*]
  · intro hshort
    refine ⟨t.times c.toInt.toNat, hrepeated.trans (if_neg hshort), ?_, ?_⟩
    · rw [hcopies, Text.times_eq_flatten]
    · rw [Text.length_times, Int.natCast_mul, hcount, Int.mul_comm]
  · have hnever (a b : Value) : Strict.mul a b m ≠ .error (.undefined p) m' := by
      rw [Strict.mul_eq]
      cases a.mul b <;> nofun
    exact ⟨hnever _ _, hnever _ _⟩

/-- Half of all lengths is one copy of two bytes too many. One copy less fits, and can be made by
joining a single copy to the others. -/
theorem text_times_integer_bounds :
    mul (.text (ofString "ab")) (.integer 4611686018427387904) = .error .textLength ∧
      ∃ copies : Text, mul (.text (ofString "ab")) (.integer 4611686018427387903) =
          .ok (.text copies) ∧ copies.length = 9223372036854775806 ∧
        ∃ u w, mul (.text (ofString "ab")) (.integer 4611686018427387902) = .ok u ∧
          mul (.text (ofString "ab")) (.integer 1) = .ok w ∧ add u w = .ok (.text copies) := by
  obtain ⟨-, hlong, -⟩ := text_times_integer (ofString "ab") 4611686018427387904
  obtain ⟨-, -, hshort, -⟩ := text_times_integer (ofString "ab") 4611686018427387903
  obtain ⟨-, -, -, hjoined, -⟩ := text_times_integer (ofString "ab") 4611686018427387902
  obtain ⟨copies, hok, -, hlength⟩ := hshort (by decide)
  have htwo : (copies.length : Int) = 9223372036854775806 := hlength
  have hsum : (4611686018427387902 : Int64) + 1 = 4611686018427387903 := by decide
  rw [← hsum] at hok
  have hparts := hjoined 1 (by decide) (by decide) (by decide) _ hok
  rw [hsum] at hok
  exact ⟨hlong.2 (by decide), copies, hok, by omega, hparts⟩

end Value

end RegisterMachine

import RegisterMachine.Text.Decimal

/-!
# Decimal numerals are read back

The decimal form of a number is a run of digits, and its value is the number.
-/
namespace RegisterMachine.Text

theorem toNat_digit (n : Nat) : (digit n).toNat = 48 + n % 10 := by
  rw [digit, Nat.toUInt8, UInt8.toNat_ofNat_of_lt']
  exact Nat.lt_of_lt_of_le (by omega : 48 + n % 10 < 58) (by decide)

@[simp] theorem isDigit_digit (n : Nat) : isDigit (digit n) := by
  rw [isDigit, toNat_digit, Bool.and_eq_true, decide_eq_true_eq, decide_eq_true_eq]
  omega

theorem decimal_ne_nil (n : Nat) : decimal n ≠ [] := by
  rw [decimal]
  split <;> simp

theorem isDigit_of_mem_decimal {n : Nat} {b : UInt8} (h : b ∈ decimal n) : isDigit b := by
  induction n using Nat.strongRecOn with
  | ind n ih =>
      rw [decimal] at h
      split at h
      · obtain rfl := List.mem_singleton.1 h
        exact isDigit_digit n
      · obtain h | h := List.mem_append.1 h
        · exact ih (n / 10) (by omega) h
        · obtain rfl := List.mem_singleton.1 h
          exact isDigit_digit n

theorem isDigits_decimal (n : Nat) : isDigits (decimal n) := by
  rw [isDigits, Bool.and_eq_true]
  refine ⟨?_, List.all_eq_true.2 fun _ hb => isDigit_of_mem_decimal hb⟩
  simpa using decimal_ne_nil n

theorem digitsValue_concat (t : Text) (b : UInt8) :
    digitsValue (t ++ [b]) = digitsValue t * 10 + (b.toNat - 48) := by
  simp [digitsValue, List.foldl_append]

theorem digitsValue_append_digit (t : Text) (n : Nat) :
    digitsValue (t ++ [digit n]) = digitsValue t * 10 + n % 10 := by
  rw [digitsValue_concat, toNat_digit, Nat.add_sub_cancel_left]

@[simp] theorem digitsValue_decimal (n : Nat) : digitsValue (decimal n) = n := by
  induction n using Nat.strongRecOn with
  | ind n ih =>
      rw [decimal]
      split
      · have := digitsValue_append_digit [] n
        rw [List.nil_append] at this
        rw [this, digitsValue, List.foldl_nil]
        omega
      · rw [digitsValue_append_digit, ih (n / 10) (by omega)]
        omega

theorem mem_signedDecimal {n : Int} {b : UInt8} (h : b ∈ signedDecimal n) :
    b = byte '-' ∨ isDigit b := by
  rw [signedDecimal] at h
  split at h
  · obtain rfl | h := List.mem_cons.1 h
    · exact .inl rfl
    · exact .inr (isDigit_of_mem_decimal h)
  · exact .inr (isDigit_of_mem_decimal h)

/-- The text goes on with something else than a digit, if it goes on. -/
def EndsNumeral (rest : Text) : Prop := ∀ b ∈ rest.head?, ¬ isDigit b

theorem endsNumeral_nil : EndsNumeral [] := nofun

theorem endsNumeral_cons {b : UInt8} (h : ¬ isDigit b) (rest : Text) : EndsNumeral (b :: rest) := by
  rintro _ ⟨⟩
  exact h

/-- A numeral ends where its digits end. -/
theorem takeWhile_decimal_append (n : Nat) {rest : Text} (h : EndsNumeral rest) :
    (decimal n ++ rest).takeWhile isDigit = decimal n := by
  rw [List.takeWhile_append_of_pos fun _ hb => isDigit_of_mem_decimal hb]
  cases rest with
  | nil => rw [List.takeWhile_nil, List.append_nil]
  | cons b rest => rw [List.takeWhile_cons_of_neg (h b rfl), List.append_nil]

/-- A numeral determines its number and where it ends. -/
theorem decimal_append_inj {n n' : Nat} {rest rest' : Text} (hrest : EndsNumeral rest)
    (hrest' : EndsNumeral rest') (h : decimal n ++ rest = decimal n' ++ rest') :
    n = n' ∧ rest = rest' := by
  have hdigits : decimal n = decimal n' := by
    rw [← takeWhile_decimal_append n hrest, h, takeWhile_decimal_append n' hrest']
  refine ⟨?_, List.append_cancel_left (hdigits ▸ h)⟩
  rw [← digitsValue_decimal n, hdigits, digitsValue_decimal]

theorem exists_decimal_eq_cons (n : Nat) : ∃ d rest, decimal n = d :: rest ∧ isDigit d := by
  obtain ⟨d, rest, hcons⟩ := List.exists_cons_of_ne_nil (decimal_ne_nil n)
  exact ⟨d, rest, hcons, isDigit_of_mem_decimal (by rw [hcons]; exact List.mem_cons_self)⟩

/-- An integer begins with a minus sign or a digit. -/
theorem exists_signedDecimal_eq_cons (n : Int) :
    ∃ b rest, signedDecimal n = b :: rest ∧ (b = byte '-' ∨ isDigit b) := by
  rw [signedDecimal]
  split
  · exact ⟨_, _, rfl, .inl rfl⟩
  · obtain ⟨d, rest, hcons, hd⟩ := exists_decimal_eq_cons n.natAbs
    exact ⟨d, rest, hcons, .inr hd⟩

/-- The decimal form determines an integer and where it ends. -/
theorem signedDecimal_append_inj {n n' : Int} {rest rest' : Text} (hrest : EndsNumeral rest)
    (hrest' : EndsNumeral rest') (h : signedDecimal n ++ rest = signedDecimal n' ++ rest') :
    n = n' ∧ rest = rest' := by
  have hsign {s s' : Text} (k : Nat) : byte '-' :: s ≠ decimal k ++ s' := by
    obtain ⟨d, tail, hcons, hd⟩ := exists_decimal_eq_cons k
    rw [hcons]
    rintro ⟨⟩
    exact absurd hd (by decide)
  rw [signedDecimal, signedDecimal] at h
  split at h <;> split at h
  · obtain ⟨habs, hrests⟩ := decimal_append_inj hrest hrest' (List.cons.inj h).2
    exact ⟨by omega, hrests⟩
  · exact absurd h (hsign n'.natAbs)
  · exact absurd h.symm (hsign n.natAbs)
  · obtain ⟨habs, hrests⟩ := decimal_append_inj hrest hrest' h
    exact ⟨by omega, hrests⟩

/-- Padding with zeros adds digits only. -/
theorem isDigit_of_mem_paddedDecimal {width n : Nat} {b : UInt8}
    (h : b ∈ paddedDecimal width n) : isDigit b := by
  have hneg : ¬ (n : Int) < 0 := by omega
  rw [paddedDecimal, if_neg hneg, padLeft] at h
  obtain h | h := List.mem_append.1 h
  · rw [(List.mem_replicate.1 h).2]
    decide
  · exact isDigit_of_mem_decimal h

end RegisterMachine.Text

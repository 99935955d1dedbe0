import Mathlib.Algebra.Group.Nat.Defs
import RegisterMachine.Proofs.Growth

/-!
# Division rounds toward negative infinity

A quotient of words is truncated first and corrected after that: one is taken off if it does not
come out even and the operands differ in sign. At all words this is the floor of the exact quotient.
It fits a word but for the least word divided by minus one, which gives the least word again.
-/
namespace RegisterMachine

open Stateful
open Text (ofString)

/-- A truncated remainder has the sign of the dividend and is smaller than the divisor. -/
theorem tmod_bounds (n : Int) {d : Int} (hd : d ≠ 0) :
    (n.tmod d).natAbs < d.natAbs ∧ (0 ≤ n → 0 ≤ n.tmod d) ∧ (n ≤ 0 → n.tmod d ≤ 0) := by
  refine ⟨?_, Int.tmod_nonneg d, fun hn => ?_⟩
  · rw [Int.natAbs_tmod]
    exact Nat.mod_lt _ (Int.natAbs_pos.2 hd)
  · have hneg := Int.tmod_nonneg d (Int.neg_nonneg_of_nonpos hn)
    rw [Int.neg_tmod] at hneg
    omega

/-- The floor of a quotient is one less than the truncated one, if there is a remainder and the
operands differ in sign, since a quotient is the floor if its remainder has the sign of the
divisor. -/
theorem fdiv_eq_tdiv_sub (n : Int) {d : Int} (hd : d ≠ 0) :
    n.fdiv d = n.tdiv d - if n.tmod d ≠ 0 ∧ (n < 0 ↔ ¬ d < 0) then 1 else 0 := by
  obtain ⟨hsmall, hnonneg, hnonpos⟩ := tmod_bounds n hd
  have hsum := Int.mul_tdiv_add_tmod n d
  have hless : d * (n.tdiv d - 1) = d * n.tdiv d - d := by rw [Int.mul_sub, Int.mul_one]
  obtain hneg | hpos := Int.lt_or_gt_of_ne hd
  · split
    · exact ((Int.fdiv_fmod_unique' hneg (r := n.tmod d + d)).2 (by omega)).1
    · rw [Int.sub_zero]
      exact ((Int.fdiv_fmod_unique' hneg (r := n.tmod d)).2 (by omega)).1
  · split
    · exact ((Int.fdiv_fmod_unique hpos (r := n.tmod d + d)).2 (by omega)).1
    · rw [Int.sub_zero]
      exact ((Int.fdiv_fmod_unique hpos (r := n.tmod d)).2 (by omega)).1

/-- What the floor leaves over has the sign of the divisor and is smaller than it. -/
theorem fmod_bounds (n : Int) {d : Int} (hd : d ≠ 0) :
    (n.fmod d).natAbs < d.natAbs ∧ (n.fmod d = 0 ∨ (n.fmod d < 0 ↔ d < 0)) := by
  obtain hneg | hpos := Int.lt_or_gt_of_ne hd
  · have hrest : d < n.fmod d ∧ n.fmod d ≤ 0 :=
      ((Int.fdiv_fmod_unique' hneg).1 ⟨rfl, rfl⟩).2
    omega
  · have hrest : 0 ≤ n.fmod d ∧ n.fmod d < d := ((Int.fdiv_fmod_unique hpos).1 ⟨rfl, rfl⟩).2
    omega

namespace Value

section

variable {p q : Int64}

theorem toInt_ne_zero (hq : q ≠ 0) : q.toInt ≠ 0 := by
  rw [← Int64.toInt_zero]
  exact fun h => hq (Int64.toInt_inj.1 h)

/-- The truncated quotient is exact, but for the least word divided by minus one. -/
theorem toInt_div_of_fits (h : ¬ (p = Int64.minValue ∧ q = -1)) :
    (p / q).toInt = p.toInt.tdiv q.toInt := by
  by_cases hp : p = Int64.minValue
  · exact Int64.toInt_div_of_ne_right p q fun hq => h ⟨hp, hq⟩
  · exact Int64.toInt_div_of_ne_left p q hp

/-- With a remainder the divisor is at least two, so the quotient is far from the least word. -/
theorem tdiv_bound_of_tmod (h : p.toInt.tmod q.toInt ≠ 0) :
    (p.toInt.tdiv q.toInt).natAbs ≤ 2 ^ 62 := by
  have hp := Int64.le_toInt p
  have hp' := Int64.toInt_lt p
  have hq : q.toInt.natAbs ≠ 1 := by
    intro hone
    have hrest := Int.natAbs_tmod p.toInt q.toInt
    rw [hone, Nat.mod_one] at hrest
    exact h (Int.natAbs_eq_zero.1 hrest)
  obtain hzero | htwo : q.toInt.natAbs = 0 ∨ 2 ≤ q.toInt.natAbs := by omega
  · rw [Int.natAbs_eq_zero.1 hzero, Int.tdiv_zero]
    decide
  · calc (p.toInt.tdiv q.toInt).natAbs = p.toInt.natAbs / q.toInt.natAbs := Int.natAbs_tdiv _ _
      _ ≤ p.toInt.natAbs / 2 := Nat.div_le_div_left htwo (by decide)
      _ ≤ 2 ^ 62 := by omega

/-- The correction never wraps. -/
theorem toInt_div_sub_one (h : p % q ≠ 0) : (p / q - 1).toInt = (p / q).toInt - 1 := by
  have hrest : p.toInt.tmod q.toInt ≠ 0 := by
    rw [← Int64.toInt_mod]
    exact toInt_ne_zero h
  have hbound := tdiv_bound_of_tmod hrest
  have hfits : ¬ (p = Int64.minValue ∧ q = -1) := by
    rintro ⟨rfl, rfl⟩
    exact h (by decide)
  rw [Int64.toInt_sub, toInt_div_of_fits hfits, Int64.toInt_one]
  exact Int.bmod_eq_of_le (by omega) (by omega)

theorem toInt_floorQuotient_of_fits (hq : q ≠ 0) (h : ¬ (p = Int64.minValue ∧ q = -1)) :
    (floorQuotient p q).toInt = p.toInt.fdiv q.toInt := by
  have hguard : p % q ≠ 0 ∧ (decide (p < 0) != decide (q < 0)) = true ↔
      p.toInt.tmod q.toInt ≠ 0 ∧ (p.toInt < 0 ↔ ¬ q.toInt < 0) := by
    rw [← Int64.toInt_mod, ne_eq, ne_eq, ← Int64.toInt_inj, Int64.toInt_zero]
    simp only [Int64.lt_iff_toInt_lt, Int64.toInt_zero]
    by_cases hp : p.toInt < 0 <;> by_cases hn : q.toInt < 0 <;> simp [hp, hn]
  rw [fdiv_eq_tdiv_sub _ (toInt_ne_zero hq), floorQuotient]
  by_cases hcorrect : p % q ≠ 0 ∧ (decide (p < 0) != decide (q < 0)) = true
  · simp only [if_pos hcorrect, if_pos (hguard.1 hcorrect)]
    rw [toInt_div_sub_one hcorrect.1, toInt_div_of_fits h]
  · simp only [if_neg hcorrect, if_neg (fun h => hcorrect (hguard.2 h))]
    rw [toInt_div_of_fits h, Int.sub_zero]

theorem floorQuotient_of_extreme : floorQuotient Int64.minValue (-1) = Int64.minValue := by decide

/-- The quotient is the floor, reduced to a word. -/
theorem toInt_floorQuotient (hq : q ≠ 0) :
    (floorQuotient p q).toInt = (p.toInt.fdiv q.toInt).bmod (2 ^ 64) := by
  by_cases h : p = Int64.minValue ∧ q = -1
  · obtain ⟨rfl, rfl⟩ := h
    decide
  · rw [← toInt_floorQuotient_of_fits hq h]
    exact (Int64.toInt_bmod _).symm

/-- The remainder of the quotient in the arithmetic of words is the exact one. Quotient and product
may wrap, but the remainder is too small to tell. -/
theorem toInt_remainder (hq : q ≠ 0) :
    (p - floorQuotient p q * q).toInt = p.toInt.fmod q.toInt := by
  obtain ⟨hsmall, -⟩ := fmod_bounds p.toInt (toInt_ne_zero hq)
  have hlow := Int64.le_toInt q
  have hhigh := Int64.toInt_lt q
  rw [Int64.toInt_sub, Int64.toInt_mul, toInt_floorQuotient hq, Int.bmod_mul_bmod,
    Int.sub_bmod_bmod, Int.mul_comm, ← Int.fmod_def]
  exact Int.bmod_eq_of_le (by omega) (by omega)

end

/-- The word `r` is the quotient of `p` by `q`, rounded toward negative infinity. -/
structure Floors (p q r : Int64) : Prop where
  wrapped : r.toInt = (p.toInt.fdiv q.toInt).bmod (2 ^ 64)
  exact : ¬ (p = Int64.minValue ∧ q = -1) → r.toInt = p.toInt.fdiv q.toInt
  extreme : p = Int64.minValue → q = -1 → r = Int64.minValue
  smaller : (p - r * q).toInt.natAbs < q.toInt.natAbs
  sign : p - r * q = 0 ∨ (p - r * q < 0 ↔ q < 0)

theorem floors_floorQuotient {p q : Int64} (hq : q ≠ 0) : Floors p q (floorQuotient p q) := by
  obtain ⟨hsmall, hsign⟩ := fmod_bounds p.toInt (toInt_ne_zero hq)
  exact {
    wrapped := toInt_floorQuotient hq
    exact := toInt_floorQuotient_of_fits hq
    extreme := by
      rintro rfl rfl
      exact floorQuotient_of_extreme
    smaller := by rwa [toInt_remainder hq]
    sign := by
      rwa [← Int64.toInt_inj, Int64.lt_iff_toInt_lt, Int64.lt_iff_toInt_lt, toInt_remainder hq,
        Int64.toInt_zero] }

end Value

namespace Machine

/-- Arithmetic on operands that resolve: the result goes into the accumulator, or the operation
fails and nothing changes any more. -/
theorem arithmetic_of_resolveAll {a b : Text} {x y : Operand} {m mid : Machine}
    (h : resolveAll [a, b] m = .ok [x, y] mid) (op : Value → Value → Except Fault Value) :
    arithmetic op a b m =
      match op (x.get mid.memory.registers) (y.get mid.memory.registers) with
      | .ok v => .ok ⟨⟩ (mid.withMemory
          { mid.memory with registers := mid.memory.registers.set .ax v })
      | .error fault => .error fault mid := by
  obtain ⟨x', rest, next, hx, hrest, he⟩ := resolveAll_cons_eq_ok.1 h
  cases he
  have hy := resolve_of_resolveAll_one hrest
  rw [arithmetic, bind_of_ok hx, bind_of_ok hy, valueOf_bind_apply, valueOf_bind_apply]
  cases op (x.get mid.memory.registers) (y.get mid.memory.registers) <;> rfl

/-- Division of two words is the floor of their quotient and comes into the accumulator. It fails
for a divisor of zero and for a text and for nothing else, and then the accumulator stays as it is.
The step from the truncated quotient to the floor never wraps. -/
theorem division_floors {a b : Text} {x y : Operand} {m mid : Machine}
    (h : resolveAll [a, b] m = .ok [x, y] mid) :
    let dividend := x.get mid.memory.registers
    let divisor := y.get mid.memory.registers
    (∀ p q, dividend = .integer p → divisor = .integer q → q ≠ 0 →
      (∃ r, Value.Floors p q r ∧ perform (.div a b) m = .ok ⟨⟩ (mid.withMemory
        { mid.memory with registers := mid.memory.registers.set .ax (.integer r) })) ∧
      (p % q ≠ 0 → (p / q - 1).toInt = (p / q).toInt - 1)) ∧
    ((∃ m', perform (.div a b) m = .error .divisionByZero m') ↔
      ∃ p, dividend = .integer p ∧ divisor = .integer 0) ∧
    ((∃ m', perform (.div a b) m = .error .valueKind m') ↔
      (∃ t, dividend = .text t) ∨ ∃ t, divisor = .text t) ∧
    ∀ fault m', perform (.div a b) m = .error fault m' →
      (fault = .divisionByZero ∨ fault = .valueKind) ∧ m' = mid ∧
        m'.memory.registers.ax = m.memory.registers.ax := by
  intro dividend divisor
  have hperform := arithmetic_of_resolveAll h Value.floorDiv
  have hax : mid.memory.registers.ax = m.memory.registers.ax := by
    rw [(resolveAll_kept h).1.registers]
  change perform (.div a b) m = match Value.floorDiv dividend divisor with
    | .ok v => .ok ⟨⟩ (mid.withMemory
        { mid.memory with registers := mid.memory.registers.set .ax v })
    | .error fault => .error fault mid at hperform
  constructor
  · intro p q hp hq hne
    rw [hp, hq, Value.floorDiv, if_neg hne] at hperform
    exact ⟨⟨_, Value.floors_floorQuotient hne, hperform⟩, Value.toInt_div_sub_one⟩
  rw [hperform]
  cases dividend with
  | text t => cases divisor <;> simp [Value.floorDiv, hax]
  | integer p =>
      cases divisor with
      | text t => simp [Value.floorDiv, hax]
      | integer q => by_cases hq : q = 0 <;> simp [Value.floorDiv, hq, hax]

def dividing : Machine :=
  let m := Machine.initial .empty 1
  m.withMemory { m.memory with registers := { m.memory.registers with
    bx := .integer Int64.minValue, cx := .integer (-1), dx := .integer 7, ex := .integer (-2) } }

theorem division_floors_extreme :
    (resolveAll [ofString "rbx", ofString "rcx"] dividing =
        .ok [.register .bx, .register .cx] dividing ∧
      ∃ m', perform (.div (ofString "rbx") (ofString "rcx")) dividing = .ok ⟨⟩ m' ∧
        m'.memory.registers.ax = .integer Int64.minValue) ∧
    resolveAll [ofString "rdx", ofString "rex"] dividing =
        .ok [.register .dx, .register .ex] dividing ∧
      ∃ m', perform (.div (ofString "rdx") (ofString "rex")) dividing = .ok ⟨⟩ m' ∧
        m'.memory.registers.ax = .integer (-4) := by
  have hleast : resolveAll [ofString "rbx", ofString "rcx"] dividing =
      .ok [.register .bx, .register .cx] dividing := rfl
  have hseven : resolveAll [ofString "rdx", ofString "rex"] dividing =
      .ok [.register .dx, .register .ex] dividing := rfl
  obtain ⟨⟨r, hr, hperform⟩, -⟩ := (division_floors hleast).1 _ _ rfl rfl (by decide)
  obtain ⟨⟨s, hs, hperform'⟩, -⟩ := (division_floors hseven).1 _ _ rfl rfl (by decide)
  obtain rfl : r = Int64.minValue := hr.extreme rfl rfl
  obtain rfl : s = -4 := Int64.toInt_inj.1 (hs.exact (by decide))
  exact ⟨⟨hleast, _, hperform, rfl⟩, hseven, _, hperform', rfl⟩

end Machine

end RegisterMachine

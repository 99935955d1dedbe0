import Mathlib.Tactic.Linarith
import RegisterMachine.Proofs.Execution

/-!
# How long a pause is

A pause of `steps` steps is meant to last `steps` times a second divided by the speed, rounded down,
and the longest pause where that fits no word. The machine takes whole seconds first and the steps
left over after that. It never pauses longer than meant, and exactly as long as long as neither the
steps left over, in nanoseconds, nor the sum leave the range of a word.
-/
namespace RegisterMachine.Machine

/-- The nanoseconds of a number of steps, rounded down. -/
def nanoseconds (speed steps : Int64) : Int := steps.toInt * second.toInt / speed.toInt

/-- The pause that is meant, in unbounded arithmetic. -/
def meantPause (speed steps : Int64) : Int := min (nanoseconds speed steps) longestPause.toInt

/-- Nothing wraps on the way to the length of a pause: there are so many whole seconds that the
longest pause is taken at once, or both the steps left over and the sum fit a word. -/
def PauseFits (speed steps : Int64) : Prop :=
  longestPause.toInt / second.toInt < steps.toInt / speed.toInt ∨
    (steps.toInt % speed.toInt * second.toInt ≤ longestPause.toInt ∧
      nanoseconds speed steps ≤ longestPause.toInt)

instance (speed steps : Int64) : Decidable (PauseFits speed steps) :=
  inferInstanceAs (Decidable (_ ∨ _))

theorem toInt_second : second.toInt = 1000000000 := by decide

theorem toInt_longestPause : longestPause.toInt = 9223372036854775807 := by decide

theorem pos_iff_toInt {n : Int64} : 0 < n ↔ 0 < n.toInt := by
  rw [Int64.lt_iff_toInt_lt, Int64.toInt_zero]

theorem nonneg_iff_toInt {n : Int64} : 0 ≤ n ↔ 0 ≤ n.toInt := by
  rw [Int64.le_iff_toInt_le, Int64.toInt_zero]

/-- A product that fits no word wraps to one with a smaller quotient. -/
theorem tdiv_bmod_lt {p d : Int} (hd : 0 < d) (hfits : d < 2 ^ 63) (hp : 2 ^ 63 ≤ p) :
    (p.bmod (2 ^ 64)).tdiv d < p / d := by
  have hwrapped : p.bmod (2 ^ 64) ≤ p - 1 * d := by
    rw [Int.bmod_def]
    split <;> omega
  calc (p.bmod (2 ^ 64)).tdiv d ≤ (p - 1 * d).tdiv d := Int.tdiv_le_tdiv hd hwrapped
    _ = (p - 1 * d) / d := Int.tdiv_eq_ediv_of_nonneg (by omega)
    _ = p / d - 1 := Int.sub_mul_ediv_right p 1 (by omega)
    _ < p / d := by omega

/-- By a divisor that is large enough, the quotient of any word is small. -/
theorem neg_le_tdiv_bmod (p : Int) {d : Int} (hd : 9223372036 < d) :
    -1000000000 ≤ (p.bmod (2 ^ 64)).tdiv d := by
  have hword : -(((2 ^ 64 : Nat) : Int) / 2) ≤ p.bmod (2 ^ 64) := Int.le_bmod (by decide)
  exact Int.le_tdiv_of_mul_le (by omega) (by omega)

section

variable {speed steps : Int64}

/-- Whole seconds and the steps left over make up the nanoseconds. -/
theorem nanoseconds_eq (hspeed : 0 < speed) (steps : Int64) :
    nanoseconds speed steps = steps.toInt / speed.toInt * 1000000000 +
      steps.toInt % speed.toInt * 1000000000 / speed.toInt := by
  rw [pos_iff_toInt] at hspeed
  have hsplit := Int.emod_add_mul_ediv steps.toInt speed.toInt
  have hproduct : steps.toInt * 1000000000 = steps.toInt % speed.toInt * 1000000000 +
      speed.toInt * (steps.toInt / speed.toInt * 1000000000) := by
    rw [← Int.mul_assoc, ← Int.add_mul, hsplit]
  rw [nanoseconds, toInt_second, hproduct, Int.add_mul_ediv_left _ _ (by omega), Int.add_comm]

/-- The steps left over last less than a second. -/
theorem rest_lt_second (hspeed : 0 < speed) (steps : Int64) :
    0 ≤ steps.toInt % speed.toInt * 1000000000 / speed.toInt ∧
      steps.toInt % speed.toInt * 1000000000 / speed.toInt < 1000000000 := by
  rw [pos_iff_toInt] at hspeed
  have hnonneg := Int.emod_nonneg steps.toInt (Int.ne_of_gt hspeed)
  have hlt := Int.emod_lt_of_pos steps.toInt hspeed
  exact ⟨Int.ediv_nonneg (by omega) (by omega), Int.ediv_lt_of_lt_mul hspeed (by linarith)⟩

theorem toInt_seconds (speed : Int64) (hsteps : 0 ≤ steps) :
    (steps / speed).toInt = steps.toInt / speed.toInt := by
  rw [nonneg_iff_toInt] at hsteps
  have hmin : steps ≠ Int64.minValue := by
    rintro rfl
    exact absurd hsteps (by decide)
  rw [Int64.toInt_div_of_ne_left _ _ hmin, Int.tdiv_eq_ediv_of_nonneg hsteps]

theorem pauseLength_of_long (hsteps : 0 ≤ steps) (h : 9223372036 < steps.toInt / speed.toInt) :
    pauseLength speed steps = longestPause := by
  have hlong : longestPause / second < steps / speed := by
    have hlimit : (longestPause / second).toInt = 9223372036 := by decide
    rw [Int64.lt_iff_toInt_lt, toInt_seconds speed hsteps, hlimit]
    exact h
  simp only [pauseLength, if_pos hlong]

/-- The products and the sum wrap. -/
theorem toInt_pauseLength (hsteps : 0 ≤ steps) (h : ¬ 9223372036 < steps.toInt / speed.toInt) :
    (pauseLength speed steps).toInt = (steps.toInt / speed.toInt * 1000000000 +
      ((steps.toInt % speed.toInt * 1000000000).bmod (2 ^ 64)).tdiv speed.toInt).bmod (2 ^ 64) := by
  have hseconds := toInt_seconds speed hsteps
  have hshort : ¬ longestPause / second < steps / speed := by
    have hlimit : (longestPause / second).toInt = 9223372036 := by decide
    rw [Int64.lt_iff_toInt_lt, hseconds, hlimit]
    exact h
  have hrest : (steps % speed).toInt = steps.toInt % speed.toInt := by
    rw [nonneg_iff_toInt] at hsteps
    rw [Int64.toInt_mod, Int.tmod_eq_emod_of_nonneg hsteps]
  simp only [pauseLength, if_neg hshort]
  rw [Int64.toInt_add, Int64.toInt_mul, hseconds, Int64.toInt_div, Int64.toInt_mul, hrest,
    toInt_second, Int.bmod_add_bmod, Int.add_bmod_bmod]

section

variable (hspeed : 0 < speed) (hsteps : 0 ≤ steps)

include hspeed hsteps

theorem nanoseconds_nonneg : 0 ≤ nanoseconds speed steps := by
  rw [pos_iff_toInt] at hspeed
  rw [nonneg_iff_toInt] at hsteps
  rw [nanoseconds, toInt_second]
  exact Int.ediv_nonneg (by omega) (by omega)

/-- Steps left over that fit a word leave the sum as the only thing that may wrap. -/
theorem pauseLength_of_rest (h : ¬ 9223372036 < steps.toInt / speed.toInt)
    (hrest : steps.toInt % speed.toInt * 1000000000 ≤ 9223372036854775807) :
    (pauseLength speed steps).toInt = (nanoseconds speed steps).bmod (2 ^ 64) := by
  rw [toInt_pauseLength hsteps h, nanoseconds_eq hspeed]
  rw [pos_iff_toInt] at hspeed
  have hnonneg : 0 ≤ steps.toInt % speed.toInt * 1000000000 := by
    have := Int.emod_nonneg steps.toInt (Int.ne_of_gt hspeed)
    omega
  have hword : (steps.toInt % speed.toInt * 1000000000).bmod (2 ^ 64) =
      steps.toInt % speed.toInt * 1000000000 := Int.bmod_eq_of_le (by omega) (by omega)
  rw [hword, Int.tdiv_eq_ediv_of_nonneg hnonneg]

/-- Steps left over that fit no word make the pause shorter than meant. So many are left over only
at a speed that leaves few whole seconds. -/
theorem pauseLength_of_rest_overrun
    (hrest : ¬ steps.toInt % speed.toInt * 1000000000 ≤ 9223372036854775807) :
    (pauseLength speed steps).toInt < nanoseconds speed steps ∧
      nanoseconds speed steps ≤ 9223372036854775807 := by
  have hpos : 0 < speed.toInt := pos_iff_toInt.1 hspeed
  have hnonneg : 0 ≤ steps.toInt := nonneg_iff_toInt.1 hsteps
  have hspeedFits := Int64.toInt_lt speed
  have hstepsFit := Int64.toInt_lt steps
  have hbelow := Int.emod_lt_of_pos steps.toInt hpos
  have hseconds : steps.toInt / speed.toInt < 1000000000 :=
    Int.ediv_lt_of_lt_mul hpos (by omega)
  have hseconds' : 0 ≤ steps.toInt / speed.toInt := Int.ediv_nonneg hnonneg (by omega)
  obtain ⟨-, hless⟩ := rest_lt_second hspeed steps
  have hshorter := tdiv_bmod_lt hpos (by omega)
    (show 2 ^ 63 ≤ steps.toInt % speed.toInt * 1000000000 by omega)
  have hbounded := neg_le_tdiv_bmod (steps.toInt % speed.toInt * 1000000000)
    (show 9223372036 < speed.toInt by omega)
  rw [toInt_pauseLength hsteps (by omega), nanoseconds_eq hspeed]
  rw [Int.bmod_eq_of_le (by omega) (by omega)]
  omega

/-- No pause is longer than meant, and exactly those that fit are as long as meant: a sum wraps at
most once, and below the range of a word it is less than any pause. -/
theorem pauseLength_le_meantPause :
    (pauseLength speed steps).toInt ≤ meantPause speed steps ∧
      ((pauseLength speed steps).toInt = meantPause speed steps ↔ PauseFits speed steps) := by
  have hsplit := nanoseconds_eq hspeed steps
  have hless := rest_lt_second hspeed steps
  have hnonneg : 0 ≤ nanoseconds speed steps := nanoseconds_nonneg hspeed hsteps
  rw [meantPause, PauseFits, toInt_second, toInt_longestPause]
  by_cases hlong : 9223372036 < steps.toInt / speed.toInt
  · rw [pauseLength_of_long hsteps hlong, toInt_longestPause]
    omega
  by_cases hrest : steps.toInt % speed.toInt * 1000000000 ≤ 9223372036854775807
  · rw [pauseLength_of_rest hspeed hsteps hlong hrest]
    by_cases hsum : nanoseconds speed steps ≤ 9223372036854775807
    · rw [Int.bmod_eq_of_le (by omega) (by omega)]
      omega
    · have hwrapped : (nanoseconds speed steps).bmod (2 ^ 64) < 0 := by
        rw [Int.bmod_def]
        split <;> omega
      omega
  · obtain ⟨hshorter, hfits⟩ := pauseLength_of_rest_overrun hspeed hsteps hrest
    omega

theorem meantPause_nonneg : 0 ≤ meantPause speed steps := by
  have hnonneg := nanoseconds_nonneg hspeed hsteps
  rw [meantPause, toInt_longestPause]
  omega

end

/-- More steps are meant to take longer. -/
theorem meantPause_mono {steps' : Int64} (hspeed : 0 < speed) (h : steps ≤ steps') :
    meantPause speed steps ≤ meantPause speed steps' := by
  rw [pos_iff_toInt] at hspeed
  rw [Int64.le_iff_toInt_le] at h
  have hle : nanoseconds speed steps ≤ nanoseconds speed steps' := by
    rw [nanoseconds, nanoseconds, toInt_second]
    exact Int.ediv_le_ediv hspeed (by omega)
  rw [meantPause, meantPause]
  omega

end

/-- A delay of a negative number of steps is refused, at any speed and without a pause. Any other
delay at a positive speed is one pause. It is no longer than `steps` times a second over the speed,
rounded down, nor than the longest pause, and it is exactly the shorter of the two if and only if it
fits. Pauses that fit are not negative, and more steps do not pause less. -/
theorem delay_pauses (m : Machine) (steps : Int64) :
    (steps < 0 → delay steps m = .error (.pauseLength steps) m) ∧
    (0 ≤ steps → 0 < m.speed → ∀ sleeper, m.sleeper = some sleeper →
      ∃ m', delay steps m = .ok ⟨⟩ m' ∧ m'.slept = m.slept.push (pauseLength m.speed steps) ∧
        (pauseLength m.speed steps).toInt ≤ meantPause m.speed steps ∧
        ((pauseLength m.speed steps).toInt = meantPause m.speed steps ↔
          PauseFits m.speed steps) ∧
        (PauseFits m.speed steps → 0 ≤ pauseLength m.speed steps ∧
          ∀ steps', steps ≤ steps' → PauseFits m.speed steps' →
            pauseLength m.speed steps ≤ pauseLength m.speed steps')) := by
  constructor
  · intro hneg
    rw [delay_apply, if_pos hneg]
  · intro hsteps hspeed sleeper hsleeper
    obtain ⟨hle, hexact⟩ := pauseLength_le_meantPause hspeed hsteps
    have hpositive : ¬ steps < 0 := Int64.not_lt.2 hsteps
    have hslept : (m.paused steps).slept = m.slept.push (pauseLength m.speed steps) := by
      simp [paused, sleep, hsleeper, hspeed]
    refine ⟨m.paused steps, by rw [delay_apply, if_neg hpositive], hslept, hle, hexact, ?_⟩
    intro hfits
    rw [nonneg_iff_toInt, hexact.2 hfits]
    refine ⟨meantPause_nonneg hspeed hsteps, fun steps' hmore hfits' => ?_⟩
    obtain ⟨-, hexact'⟩ := pauseLength_le_meantPause hspeed (Int64.le_trans hsteps hmore)
    rw [Int64.le_iff_toInt_le, hexact.2 hfits, hexact'.2 hfits']
    exact meantPause_mono hspeed hmore

def pacedAt (speed : Int64) : Machine :=
  { initial .empty 5 with speed, sleeper := some ⟨fun _ => false⟩ }

theorem delay_pauses_thirds :
    ∃ m', delay 4 (pacedAt 3) = .ok ⟨⟩ m' ∧ m'.slept = #[1333333333] ∧
      (1333333333 : Int64).toInt = meantPause 3 4 := by
  obtain ⟨-, hdelay⟩ := delay_pauses (pacedAt 3) 4
  obtain ⟨m', hok, hslept, -, hexact, -⟩ := hdelay (by decide) (by decide) _ rfl
  exact ⟨m', hok, hslept, hexact.2 (by decide)⟩

/-- At a hundred steps a second the longest pause comes out as a negative one, and so does half a
second at a hundred thousand million steps a second. -/
theorem delay_pauses_negative :
    delay 922337203699 (pacedAt 100) =
        .ok ⟨⟩ ((pacedAt 100).sleep (-9223372036719551616)) ∧
      meantPause 100 922337203699 = longestPause.toInt ∧
      delay 50000000000 (pacedAt 100000000000) =
        .ok ⟨⟩ ((pacedAt 100000000000).sleep (-53402322)) ∧
      meantPause 100000000000 50000000000 = 500000000 :=
  ⟨rfl, by decide, rfl, by decide⟩

end RegisterMachine.Machine

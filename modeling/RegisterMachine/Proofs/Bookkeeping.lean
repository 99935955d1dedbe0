import Mathlib.Logic.Function.Iterate
import RegisterMachine.Proofs.Overlooked

/-!
# Bookkeeping

The program around an instruction, the cells of the next reset, the verbosity, the ticks and the
log are the bookkeeping of a machine. An instruction neither reads nor changes them, whether it
succeeds or fails. So a tick leaves program and verbosity alone, and what is logged has no
influence on the run.
-/
namespace RegisterMachine.Machine

open Stateful

/-- The machine with the bookkeeping of another one. -/
def bookedAs (book m : Machine) : Machine :=
  { m with
    code := book.code
    cells := book.cells
    verbose := book.verbose
    ticks := book.ticks
    log := book.log }

/-- What commutes with being told of a pause commutes with the pause. -/
theorem paused_comm {f : Machine → Machine} {m : Machine} (hspeed : (f m).speed = m.speed)
    (hsleeper : (f m).sleeper = m.sleeper)
    (hsleep : ∀ duration, (f m).sleep duration = f (m.sleep duration)) (steps : Int64) :
    (f m).paused steps = f (m.paused steps) := by
  simp only [paused, hspeed, hsleeper, hsleep]
  split <;> rfl

theorem paused_bookedAs (book m : Machine) (steps : Int64) :
    (bookedAs book m).paused steps = bookedAs book (m.paused steps) := by
  refine paused_comm rfl rfl (fun duration => ?_) steps
  cases h : m.sleeper <;> simp only [sleep, bookedAs, h]

/-- No instruction looks at the bookkeeping. -/
theorem overlooked_bookedAs (book : Machine) : Overlooked fun m m' => m' = bookedAs book m where
  memory := by rintro m _ rfl; rfl
  labels := by rintro m _ rfl; rfl
  input := by rintro m _ rfl; rfl
  output := by rintro m _ rfl; rfl
  debug := by rintro m _ rfl; rfl
  devices := by rintro m _ rfl; rfl
  withMemory := by rintro m _ memory rfl; rfl
  withDevices := by rintro m _ devices rfl; rfl
  stopped := by rintro m _ rfl; rfl
  paused := by rintro m _ steps rfl; exact paused_bookedAs book m steps

/-- Program and verbosity are the same as before. -/
structure Steady (m m' : Machine) : Prop where
  code : m'.code = m.code
  verbose : m'.verbose = m.verbose

namespace Steady

theorem refl (m : Machine) : Steady m m := ⟨rfl, rfl⟩

theorem trans {m m' m'' : Machine} (h : Steady m m') (h' : Steady m' m'') : Steady m m'' :=
  ⟨h'.code.trans h.code, h'.verbose.trans h.verbose⟩

theorem of_bookedAs {m m' : Machine} (h : bookedAs m m' = m') : Steady m m' := by
  rw [← h]
  exact ⟨rfl, rfl⟩

end Steady

theorem steady_entered (m : Machine) (i : Int64) (inst : Instruction) :
    Steady m (m.entered i inst) := by
  obtain ⟨log, h⟩ := logging_eq _ (m.atIp (i + 1))
  rw [entered, h]
  exact ⟨rfl, rfl⟩

/-- An instruction changes neither program nor verbosity, also if it fails halfway. -/
theorem steady_perform (inst : Instruction) (m : Machine) :
    Steady m (endState (perform inst m)) :=
  .of_bookedAs (((overlooked_bookedAs m).perform_respects inst).endState_of_fixed rfl)

/-- Without a next instruction a tick changes nothing. -/
theorem endState_tick_of_error {m : Machine} {fault : Fault} (h : m.nextIndex = .error fault) :
    endState (tick m) = m := by
  rw [tick_of_nextIndex_error h]
  rfl

/-- A tick does what its instruction does. Beyond that it may be counted and pause, and the pause
may stop the machine. -/
theorem endState_tick_eq {m : Machine} {i : Int64} {inst : Instruction} (hx : m.Executes i inst) :
    ∃ slept running ticks, endState (tick m) =
      { endState (perform inst (m.entered i inst)) with slept, running, ticks } := by
  rw [tick_of_executes hx]
  cases perform inst (m.entered i inst) with
  | ok u done =>
      obtain ⟨slept, running, h⟩ := done.ticked.paused_eq 1
      exact ⟨slept, running, done.ticks + 1, h⟩
  | error fault done => exact ⟨done.slept, done.running, done.ticks, rfl⟩

theorem steady_tick (m : Machine) : Steady m (endState (tick m)) := by
  cases hn : m.nextIndex with
  | error fault =>
      rw [endState_tick_of_error hn]
      exact .refl m
  | ok i =>
      obtain ⟨inst, hx⟩ := exists_executes hn
      obtain ⟨slept, running, ticks, h⟩ := endState_tick_eq hx
      have hperform := (steady_entered m i inst).trans (steady_perform inst _)
      rw [h]
      exact ⟨hperform.code, hperform.verbose⟩

/-- The machine after a number of ticks, whatever they report. -/
def afterTicks (n : Nat) (m : Machine) : Machine := (fun m => endState (tick m))^[n] m

theorem afterTicks_succ (n : Nat) (m : Machine) :
    m.afterTicks (n + 1) = endState (tick (m.afterTicks n)) := Function.iterate_succ_apply' _ _ _

/-- What holds at first and is kept by every tick holds after any number of ticks. -/
theorem afterTicks_induction {P : Machine → Prop} {m : Machine} (h : P m)
    (htick : ∀ m, P m → P (endState (tick m))) (n : Nat) : P (m.afterTicks n) := by
  induction n with
  | zero => exact h
  | succ n ih =>
      rw [afterTicks_succ]
      exact htick _ ih

/-- Ticks keep machines related that differ only in what no tick looks at. -/
theorem TickOverlooked.afterTicks {R : Machine → Machine → Prop} (hR : TickOverlooked R)
    {m m' : Machine} (h : R m m') (n : Nat) : R (m.afterTicks n) (m'.afterTicks n) := by
  induction n with
  | zero => exact h
  | succ n ih =>
      rw [afterTicks_succ, afterTicks_succ]
      exact (hR.tick_respects _ _ ih).endState

theorem steady_afterTicks (m : Machine) (n : Nat) : Steady m (m.afterTicks n) :=
  afterTicks_induction (.refl m) (fun m' h => h.trans (steady_tick m')) n

theorem memory_endState_tick {m : Machine} {i : Int64} {inst : Instruction}
    (hx : m.Executes i inst) :
    (endState (tick m)).memory = (endState (perform inst (m.entered i inst))).memory := by
  obtain ⟨slept, running, ticks, h⟩ := endState_tick_eq hx
  rw [h]

/-- The states in which the first `n` ticks succeed, in order. -/
def completed (m : Machine) (n : Nat) : List Machine :=
  ((List.range n).map (afterTicks · m)).filter fun s => (error? (tick s)).isNone

theorem completed_succ_of_ok {m m' : Machine} {n : Nat}
    (h : tick (m.afterTicks n) = .ok ⟨⟩ m') :
    m.completed (n + 1) = m.completed n ++ [m.afterTicks n] := by
  simp [completed, List.range_succ, h, error?]

theorem completed_succ_of_error {m m' : Machine} {n : Nat} {failure : Failure}
    (h : tick (m.afterTicks n) = .error failure m') : m.completed (n + 1) = m.completed n := by
  simp [completed, List.range_succ, h, error?]

/-- The state after some of the ticks; the next one succeeds. -/
theorem exists_of_mem_completed {m s : Machine} {n : Nat} (h : s ∈ m.completed n) :
    ∃ i < n, s = m.afterTicks i ∧ ∃ s', tick s = .ok ⟨⟩ s' := by
  obtain ⟨hmem, hok⟩ := List.mem_filter.1 h
  obtain ⟨i, hi, rfl⟩ := List.mem_map.1 hmem
  exact ⟨i, List.mem_range.1 hi, rfl, _, eq_ok_of_error? (by simpa using hok)⟩

/-- A run is a number of ticks; a fault then clears the running flag. -/
theorem run_eq_afterTicks (fuel : Nat) (m : Machine) :
    ∃ n ≤ fuel, ∃ running, (m.run fuel).2 = { m.afterTicks n with running } := by
  induction fuel generalizing m with
  | zero => exact ⟨0, Nat.le_refl _, m.running, rfl⟩
  | succ fuel ih =>
      cases hrunning : m.running with
      | false =>
          rw [run_of_stopped hrunning]
          exact ⟨0, Nat.zero_le _, m.running, rfl⟩
      | true =>
          cases htick : tick m with
          | ok u m' =>
              obtain ⟨n, hn, running, hrun⟩ := ih m'
              have hnext : m.afterTicks (n + 1) = m'.afterTicks n := by
                rw [afterTicks, Function.iterate_succ_apply, htick]
                rfl
              rw [run_succ_of_ok hrunning htick]
              exact ⟨n + 1, Nat.succ_le_succ hn, running, hnext ▸ hrun⟩
          | error failure m' =>
              have hnext : m.afterTicks 1 = m' := by
                rw [afterTicks_succ, afterTicks, Function.iterate_zero_apply, htick]
                rfl
              rw [run_succ_of_error hrunning htick]
              exact ⟨1, Nat.le_add_left _ _, false, hnext ▸ rfl⟩

def unlogged (m : Machine) : Machine := { m with verbose := false, log := [] }

theorem unlogged_logging (line : Text) (m : Machine) :
    (m.logging line).unlogged = m.unlogged := by
  obtain ⟨log, h⟩ := m.logging_eq line
  rw [h]
  rfl

theorem paused_unlogged (m : Machine) (steps : Int64) :
    m.unlogged.paused steps = (m.paused steps).unlogged := by
  refine paused_comm rfl rfl (fun duration => ?_) steps
  cases h : m.sleeper <;> simp only [sleep, unlogged, h]

/-- No tick looks at the log. -/
theorem overlooked_unlogged : TickOverlooked fun m m' => m' = m.unlogged where
  memory := by rintro m _ rfl; rfl
  labels := by rintro m _ rfl; rfl
  input := by rintro m _ rfl; rfl
  output := by rintro m _ rfl; rfl
  debug := by rintro m _ rfl; rfl
  devices := by rintro m _ rfl; rfl
  withMemory := by rintro m _ memory rfl; rfl
  withDevices := by rintro m _ devices rfl; rfl
  stopped := by rintro m _ rfl; rfl
  paused := by rintro m _ steps rfl; exact paused_unlogged m steps
  code := by rintro m _ rfl; rfl
  running := by rintro m _ rfl; rfl
  logging := by rintro m _ line rfl; rw [unlogged_logging]; rfl
  ticked := by rintro m _ rfl; rfl

end RegisterMachine.Machine

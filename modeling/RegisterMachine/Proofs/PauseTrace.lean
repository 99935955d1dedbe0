import Mathlib.Data.List.Basic
import RegisterMachine.Proofs.EffectFrame
import RegisterMachine.Proofs.PauseLength

/-!
# The pauses of a run

A machine that tells someone of its pauses pauses once after each tick that succeeds, and before
that once more if the instruction was a halt. A tick that fails pauses for nothing and is not
counted. So the pauses of a run can be told from the states in which its ticks succeed.
-/
namespace RegisterMachine.Machine

open Stateful
open Text (ofString)

/-- For how many steps an instruction halts, if it is a halt. -/
def stepsOf (m : Machine) : Instruction → Option Int64
  | .halt token =>
      match resolve token m with
      | .ok operand mid => (operand.get mid.memory.registers).toInteger.toOption
      | .error _ _ => none
  | _ => none

/-- For how many steps the next instruction halts, if it is a halt. -/
def haltSteps? (m : Machine) : Option Int64 := do
  let i ← m.nextIndex.toOption
  let inst ← m.code[i.toNatClampNeg]?
  (m.entered i inst).stepsOf inst

/-- The pauses of a tick that succeeds. -/
def tickPauses (m : Machine) : List Int64 :=
  m.haltSteps?.toList.map (pauseLength m.speed) ++ [pauseLength m.speed 1]

theorem haltSteps?_of_executes {m : Machine} {i : Int64} {inst : Instruction}
    (hx : m.Executes i inst) : m.haltSteps? = (m.entered i inst).stepsOf inst := by
  simp [haltSteps?, hx.1, hx.2, Except.toOption]

/-- The effect of a halt is a pause of its steps. -/
theorem Effect.of_halt {m mid done : Machine} {i : Int64} {token : Text} {operands : List Operand}
    (hx : m.Executes i (.halt token))
    (hres : resolveAll [token] (m.entered i (.halt token)) = .ok operands mid)
    (heffect : Effect .halt operands mid done) :
    ∃ steps, m.haltSteps? = some steps ∧ ¬ steps < 0 ∧ done = mid.paused steps := by
  cases heffect with
  | arithmetic hf _ _ => cases hf
  | halt hget hneg =>
      refine ⟨_, ?_, hneg, rfl⟩
      rw [haltSteps?_of_executes hx, stepsOf, resolve_of_resolveAll_one hres]
      simp only [hget]
      rfl

theorem haltSteps?_of_ne {m : Machine} {i : Int64} {inst : Instruction} (hx : m.Executes i inst)
    (h : inst.opcode ≠ .halt) : m.haltSteps? = none := by
  rw [haltSteps?_of_executes hx]
  cases inst with
  | halt token => exact absurd rfl h
  | _ => rfl

/-- The speed is the same, and so is who is told of the pauses. -/
structure PaceKept (m m' : Machine) : Prop where
  speed : m'.speed = m.speed
  sleeper : m'.sleeper = m.sleeper

theorem PaceKept.trans {m m' m'' : Machine} (h : PaceKept m m') (h' : PaceKept m' m'') :
    PaceKept m m'' :=
  ⟨h'.speed.trans h.speed, h'.sleeper.trans h.sleeper⟩

theorem paceKept_paused (m : Machine) (steps : Int64) : PaceKept m (m.paused steps) := by
  obtain ⟨slept, running, h⟩ := m.paused_eq steps
  rw [h]
  exact ⟨rfl, rfl⟩

theorem paused_ticks (m : Machine) (steps : Int64) : (m.paused steps).ticks = m.ticks := by
  obtain ⟨slept, running, h⟩ := m.paused_eq steps
  rw [h]

theorem paused_slept {m : Machine} (hspeed : 0 < m.speed) (hsleeper : m.sleeper.isSome)
    (steps : Int64) : (m.paused steps).slept = m.slept.push (pauseLength m.speed steps) := by
  obtain ⟨sleeper, hs⟩ := Option.isSome_iff_exists.1 hsleeper
  simp [paused, sleep, hs, hspeed]

/-- Up to its effect an instruction has not touched the record of the pauses, nor the ticks. -/
theorem resolved_eq {m mid : Machine} {i : Int64} {inst : Instruction} {operands : List Operand}
    (h : resolveAll inst.operands (m.entered i inst) = .ok operands mid) :
    PaceKept m mid ∧ mid.slept = m.slept ∧ mid.ticks = m.ticks := by
  obtain ⟨-, hmid⟩ := resolveAll_kept h
  rw [hmid, entered_eq]
  exact ⟨⟨rfl, rfl⟩, rfl, rfl⟩

/-- An effect keeps pace and ticks; the steps of a halt are its pause. -/
theorem Effect.pauses {m mid done : Machine} {i : Int64} {inst : Instruction}
    {operands : List Operand} (hx : m.Executes i inst)
    (hres : resolveAll inst.operands (m.entered i inst) = .ok operands mid)
    (heffect : Effect inst.opcode operands mid done) :
    PaceKept mid done ∧ done.ticks = mid.ticks ∧
      (0 < mid.speed → mid.sleeper.isSome → done.slept.toList =
        mid.slept.toList ++ m.haltSteps?.toList.map (pauseLength mid.speed)) := by
  have helsewhere := heffect.elsewhere
  refine ⟨⟨(congrArg speed helsewhere.rest :), (congrArg sleeper helsewhere.rest :)⟩,
    (congrArg ticks helsewhere.rest :), fun hspeed hsleeper => ?_⟩
  by_cases hop : inst.opcode = .halt
  · obtain ⟨token, rfl⟩ : ∃ token, inst = .halt token := by
      cases inst <;> cases hop
      exact ⟨_, rfl⟩
    obtain ⟨steps, hsteps, -, rfl⟩ := heffect.of_halt hx hres
    rw [hsteps, paused_slept hspeed hsleeper, Array.toList_push]
    rfl
  · rw [haltSteps?_of_ne hx hop, helsewhere.slept hop]
    simp

/-- A tick that succeeds is counted, and pauses for a halt and then for its step. -/
theorem pauses_of_tick {m m' : Machine} (h : tick m = .ok ⟨⟩ m') :
    PaceKept m m' ∧ m'.ticks = m.ticks + 1 ∧
      (0 < m.speed → m.sleeper.isSome → m'.slept.toList = m.slept.toList ++ m.tickPauses) := by
  obtain ⟨i, inst, done, hx, hperform, rfl⟩ := tick_eq_ok.1 h
  obtain ⟨operands, mid, hres, heffect⟩ := perform_eq_ok hperform
  obtain ⟨hentered, hslept, hticks⟩ := resolved_eq hres
  obtain ⟨hdone, hsame, hpauses⟩ := heffect.pauses hx hres
  have hpace : PaceKept m done.ticked := hentered.trans ⟨hdone.speed, hdone.sleeper⟩
  refine ⟨hpace.trans (paceKept_paused _ 1), ?_, fun hspeed hsleeper => ?_⟩
  · rw [paused_ticks, ← hticks, ← hsame]
    rfl
  · have hstep : (done.ticked.paused 1).slept.toList =
        done.slept.toList ++ [pauseLength m.speed 1] := by
      rw [paused_slept (hpace.speed ▸ hspeed) (hpace.sleeper ▸ hsleeper), Array.toList_push,
        hpace.speed]
      rfl
    rw [hentered.speed, hentered.sleeper, hslept] at hpauses
    rw [hstep, hpauses hspeed hsleeper, tickPauses, List.append_assoc]

/-- The pause for a halt is that of a delay of as many steps. -/
theorem delay_of_haltSteps? {m m' : Machine} {k : Int64} (h : tick m = .ok ⟨⟩ m')
    (hk : m.haltSteps? = some k) (hspeed : 0 < m.speed) (hsleeper : m.sleeper.isSome) :
    ∃ m'', delay k m = .ok ⟨⟩ m'' ∧ m''.slept = m.slept.push (pauseLength m.speed k) := by
  obtain ⟨i, inst, done, hx, hperform, -⟩ := tick_eq_ok.1 h
  obtain ⟨operands, mid, hres, heffect⟩ := perform_eq_ok hperform
  cases inst with
  | halt token =>
      obtain ⟨steps, hsteps, hneg, -⟩ := Effect.of_halt hx hres heffect
      obtain rfl : k = steps := Option.some.inj (hk.symm.trans hsteps)
      exact ⟨m.paused k, by rw [delay_apply, if_neg hneg], paused_slept hspeed hsleeper k⟩
  | _ =>
      rw [haltSteps?_of_ne hx nofun] at hk
      cases hk

/-- A tick that fails is not counted and pauses for nothing. -/
theorem no_pause_of_tick {m m' : Machine} {failure : Failure} (h : tick m = .error failure m') :
    PaceKept m m' ∧ m'.ticks = m.ticks ∧ m'.slept = m.slept := by
  cases hn : m.nextIndex with
  | error cause =>
      rw [tick_of_nextIndex_error hn] at h
      cases h
      exact ⟨⟨rfl, rfl⟩, rfl, rfl⟩
  | ok i =>
      obtain ⟨inst, hx⟩ := exists_executes hn
      obtain ⟨fault, hp⟩ := perform_error_of_tick hx h
      have hleft := leftBehind_of_perform_error hp
      exact ⟨⟨(congrArg speed hleft.rest :), (congrArg sleeper hleft.rest :)⟩, hleft.ticks,
        hleft.slept⟩

theorem paceKept_tick (m : Machine) : PaceKept m (endState (tick m)) := by
  obtain ⟨memory, running, slept, devices, ticks, log, h⟩ := endState_tick_frame m
  rw [h]
  exact ⟨rfl, rfl⟩

theorem paceKept_afterTicks (m : Machine) (n : Nat) : PaceKept m (m.afterTicks n) :=
  afterTicks_induction ⟨rfl, rfl⟩ (fun m' h => h.trans (paceKept_tick m')) n

/-- Counted are the ticks that succeed. -/
theorem ticks_afterTicks (m : Machine) (n : Nat) :
    (m.afterTicks n).ticks = m.ticks + (m.completed n).length := by
  induction n with
  | zero => rfl
  | succ n ih =>
      rw [afterTicks_succ]
      cases h : tick (m.afterTicks n) with
      | ok u m' =>
          rw [completed_succ_of_ok h, List.length_append, ← Nat.add_assoc, ← ih]
          exact (pauses_of_tick h).2.1
      | error failure m' =>
          rw [completed_succ_of_error h, ← ih]
          exact (no_pause_of_tick h).2.1

/-- The pauses of a run are those of its successful ticks, one after another. -/
theorem slept_afterTicks {m : Machine} (hspeed : 0 < m.speed) (hsleeper : m.sleeper.isSome)
    (n : Nat) : (m.afterTicks n).slept.toList =
      m.slept.toList ++ (m.completed n).flatMap tickPauses := by
  induction n with
  | zero => exact (List.append_nil _).symm
  | succ n ih =>
      have hpace := paceKept_afterTicks m n
      rw [afterTicks_succ]
      cases h : tick (m.afterTicks n) with
      | ok u m' =>
          obtain ⟨-, -, hpauses⟩ := pauses_of_tick h
          have hslept := hpauses (hpace.speed ▸ hspeed) (hpace.sleeper ▸ hsleeper)
          rw [completed_succ_of_ok h, List.flatMap_append, ← List.append_assoc, ← ih]
          simpa [endState] using hslept
      | error failure m' =>
          rw [completed_succ_of_error h, ← ih, endState, (no_pause_of_tick h).2.2]

/-- One step pauses for a second over the speed, rounded down, at every positive speed. -/
theorem toInt_pauseLength_one {speed : Int64} (hspeed : 0 < speed) :
    (pauseLength speed 1).toInt = 1000000000 / speed.toInt := by
  have hpos := pos_iff_toInt.1 hspeed
  have hone : nanoseconds speed 1 = 1000000000 / speed.toInt := by
    rw [nanoseconds, toInt_second, Int64.toInt_one, Int.one_mul]
  have hshort : 1000000000 / speed.toInt ≤ 1000000000 := Int.ediv_le_self _ (by decide)
  have hrest : 1 % speed.toInt ≤ 1 := by
    obtain hone | hmore : speed.toInt = 1 ∨ 1 < speed.toInt := by omega
    · rw [hone]
      decide
    · rw [Int.emod_eq_of_lt (by decide) hmore]
  have hfits : PauseFits speed 1 := by
    refine .inr ⟨?_, ?_⟩
    · rw [toInt_second, toInt_longestPause, Int64.toInt_one]
      omega
    · rw [hone, toInt_longestPause]
      omega
  rw [(pauseLength_le_meantPause hspeed (by decide)).2.2 hfits, meantPause, hone,
    toInt_longestPause]
  omega

theorem mem_completed {m s : Machine} {n : Nat} (h : s ∈ m.completed n) :
    PaceKept m s ∧ ∃ s', tick s = .ok ⟨⟩ s' := by
  obtain ⟨i, -, rfl, htick⟩ := exists_of_mem_completed h
  exact ⟨paceKept_afterTicks m i, htick⟩

/-- After a reset, and after an entry point has been chosen, the ticks that succeed are counted.
Each of them pauses for as long as a delay of its steps if it is a halt, and then for a second over
the speed, rounded down. There are no other pauses. A tick that fails pauses for nothing and is not
counted. -/
theorem pauses_of_run (m : Machine) (hspeed : 0 < m.speed) (hsleeper : m.sleeper.isSome)
    {start : Machine} (hstart : start = m.reset ∨ ∃ entry, start = m.reset.started entry)
    (n : Nat) :
    (start.afterTicks n).ticks = (start.completed n).length ∧
    (start.afterTicks n).slept.toList.map Int64.toInt =
      m.slept.toList.map Int64.toInt ++ (start.completed n).flatMap (fun s =>
        s.haltSteps?.toList.map (fun k => (pauseLength m.speed k).toInt) ++
          [1000000000 / m.speed.toInt]) ∧
    (∀ s ∈ start.completed n, ∀ k, s.haltSteps? = some k → ∃ s', delay k s = .ok ⟨⟩ s' ∧
      s'.slept = s.slept.push (pauseLength m.speed k)) ∧
    ∀ i, (error? (tick (start.afterTicks i))).isSome →
      (start.afterTicks (i + 1)).ticks = (start.afterTicks i).ticks ∧
      (start.afterTicks (i + 1)).slept = (start.afterTicks i).slept := by
  have hfresh : PaceKept m start ∧ start.ticks = 0 ∧ start.slept = m.slept := by
    obtain ⟨log, hreset⟩ := m.reset_eq
    obtain rfl | ⟨entry, rfl⟩ := hstart <;> rw [hreset] <;> exact ⟨⟨rfl, rfl⟩, rfl, rfl⟩
  obtain ⟨hpace, hticks, hslept⟩ := hfresh
  have hspeed' : 0 < start.speed := hpace.speed ▸ hspeed
  have hsleeper' : start.sleeper.isSome := hpace.sleeper ▸ hsleeper
  refine ⟨?_, ?_, fun s hs k hk => ?_, fun i hfailed => ?_⟩
  · rw [ticks_afterTicks, hticks, Nat.zero_add]
  · rw [slept_afterTicks hspeed' hsleeper', List.map_append, hslept, List.map_flatMap]
    congr 1
    refine List.flatMap_congr fun s hs => ?_
    have hsame : s.speed = m.speed := (hpace.trans (mem_completed hs).1).speed
    rw [tickPauses, hsame, List.map_append, List.map_map, List.map_singleton,
      toInt_pauseLength_one hspeed]
    rfl
  · obtain ⟨hkept, s', htick⟩ := mem_completed hs
    have hsame := hpace.trans hkept
    rw [← hsame.speed]
    exact delay_of_haltSteps? htick hk (hsame.speed ▸ hspeed) (hsame.sleeper ▸ hsleeper)
  · obtain ⟨failure, hfailure⟩ := Option.isSome_iff_exists.1 hfailed
    rw [afterTicks_succ]
    exact (no_pause_of_tick (eq_error_of_error? hfailure)).2

def dozing : Machine :=
  { initial .empty 1 with
    code := #[.halt (ofString "2"), .jmp (ofString "nowhere")]
    speed := 3
    sleeper := some ⟨fun _ => false⟩ }

theorem pauses_of_run_dozing :
    0 < dozing.speed ∧ dozing.sleeper.isSome ∧ (dozing.reset.afterTicks 3).ticks = 2 ∧
      (dozing.reset.afterTicks 3).slept.toList.map Int64.toInt =
        [666666666, 333333333, 666666666, 333333333] ∧
      (dozing.reset.afterTicks 2).slept = (dozing.reset.afterTicks 1).slept := by
  have hspeed : 0 < dozing.speed := by decide
  obtain ⟨hticks, hslept, -, hfailed⟩ :=
    pauses_of_run dozing hspeed rfl (.inl rfl) 3
  have hcounted : (dozing.reset.completed 3).length = 2 := by decide +kernel
  refine ⟨hspeed, rfl, hticks.trans hcounted, hslept.trans (by decide +kernel), ?_⟩
  exact (hfailed 1 (by decide +kernel)).2

end RegisterMachine.Machine

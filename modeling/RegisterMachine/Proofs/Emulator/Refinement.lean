import RegisterMachine.Proofs.Emulator.Ticks

/-!
# The emulator refines the machine

The loop of the emulator and the loop of the machine are written apart. They go through the same
states all the same: after a reset, each tick of the emulator reports what the run of the machine
comes to one tick later, with the source line around a failure, and neither loop goes on where the
other one ends. Only the log may differ, since it depends on the verbosity.
-/
namespace RegisterMachine

open Stateful
open Text (ofString)

namespace Machine

/-- A run that has ended leaves a stopped machine. -/
theorem running_run {n : Nat} {m : Machine} (h : (m.run n).1 ≠ .outOfFuel) :
    (m.run n).2.running = false := by
  induction n generalizing m with
  | zero =>
      cases hrunning : m.running with
      | false => rw [run_of_stopped hrunning, hrunning]
      | true => simp [run, hrunning] at h
  | succ n ih =>
      cases hrunning : m.running with
      | false => rw [run_of_stopped hrunning, hrunning]
      | true =>
          cases htick : tick m with
          | ok u m' =>
              rw [run_succ_of_ok hrunning htick] at h ⊢
              exact ih h
          | error failure m' => rw [run_succ_of_error hrunning htick]

/-- A run is the same with a log and without. -/
theorem run_unlogged (n : Nat) (m : Machine) :
    m.unlogged.run n = ((m.run n).1, (m.run n).2.unlogged) := by
  obtain ⟨hend, hlast⟩ := overlooked_unlogged.run n (show m.unlogged = m.unlogged from rfl)
  rw [← hend, ← hlast]

/-- How the end of a run is seen from one place further out. -/
def RunEnd.within (layer : Layer) : RunEnd → RunEnd
  | .failed failure => .failed (failure.within layer)
  | .stopped => .stopped
  | .outOfFuel => .outOfFuel

/-- Two machines are set up alike: with the same program, stack size, speed, sleeper and devices.
Registers, stack and ticks, which a reset clears, and the log may differ. -/
structure SetUpLike (m m' : Machine) : Prop where
  code : m.code = m'.code
  labels : m.labels = m'.labels
  cells : m.cells = m'.cells
  speed : m.speed = m'.speed
  sleeper : m.sleeper = m'.sleeper
  slept : m.slept = m'.slept
  input : m.input = m'.input
  output : m.output = m'.output
  debug : m.debug = m'.debug
  devices : m.devices = m'.devices

/-- A reset leaves no other difference than the log. -/
theorem SetUpLike.unlogged_started {m m' : Machine} (h : m.SetUpLike m') (entry : Int64) :
    (m.reset.started entry).unlogged = (m'.reset.started entry).unlogged := by
  have hreset (m : Machine) : (m.reset.started entry).unlogged =
      (started entry { m with memory := .initial m.cells, running := false, ticks := 0 }).unlogged := by
    obtain ⟨log, h⟩ := m.reset_eq
    rw [h]
    rfl
  rw [hreset, hreset]
  obtain ⟨hcode, hlabels, hcells, hspeed, hsleeper, hslept, hinput, houtput, hdebug, hdevices⟩ := h
  simp only [started, unlogged, hcode, hlabels, hcells, hspeed, hsleeper, hslept, hinput, houtput,
    hdebug, hdevices]

end Machine

namespace Emulator

open Machine (RunEnd)

/-- What the emulator reports of a run that has come to an end or goes on. -/
def Report.ofRun (line : Int) : RunEnd → Report
  | .outOfFuel => .going
  | .stopped => .done
  | .failed failure => .failed (failure.within (.runtime line))

section

variable {program : Program} {emu : Emulator}

/-- Ticks of the emulator take its machine through the states of a run. -/
theorem machine_afterTicks (h : emu.Loaded program) (n : Nat) :
    (emu.afterTicks n).machine = (emu.machine.run n).2 := by
  induction n generalizing emu with
  | zero => rfl
  | succ n ih =>
      have hloaded := h.tick
      obtain ⟨hrunning, -⟩ | ⟨hrunning, machine, hmachine, htick⟩ |
        ⟨hrunning, failure, machine, hmachine, htick⟩ := tick_cases h.verbose
      · rw [afterTicks_of_stopped h.verbose hrunning, Machine.run_of_stopped hrunning]
      · rw [htick] at hloaded
        rw [afterTicks_succ, htick, ih hloaded, Machine.run_succ_of_ok hrunning hmachine]
      · rw [htick] at hloaded
        rw [afterTicks_succ, htick, afterTicks_of_stopped hloaded.verbose rfl,
          Machine.run_succ_of_error hrunning hmachine]

/-- A tick of a running emulator reports what a run of one tick comes to. -/
theorem report_tick (h : emu.Loaded program) (hrunning : emu.machine.running = true) :
    emu.tick.1 = .ofRun emu.lineNumber (emu.machine.run 1).1 := by
  obtain ⟨hstopped, -⟩ | ⟨-, machine, hmachine, htick⟩ | ⟨-, failure, machine, hmachine, htick⟩ :=
    tick_cases h.verbose
  · rw [hrunning] at hstopped
    cases hstopped
  · rw [htick, Machine.run_succ_of_ok hrunning hmachine]
    cases hend : machine.running <;> simp [Machine.run, hend, Report.ofRun]
  · rw [htick, Machine.run_succ_of_error hrunning hmachine]
    rfl

/-- As long as the run goes on, the next tick reports what the run comes to with it. -/
theorem report_afterTicks (h : emu.Loaded program) {n : Nat}
    (hgoing : (emu.machine.run n).1 = .outOfFuel) :
    (emu.afterTicks n).tick.1 =
      .ofRun (emu.afterTicks n).lineNumber (emu.machine.run (n + 1)).1 := by
  induction n generalizing emu with
  | zero =>
      cases hrunning : emu.machine.running with
      | false => simp [Machine.run, hrunning] at hgoing
      | true => exact report_tick h hrunning
  | succ n ih =>
      have hloaded := h.tick
      obtain ⟨hrunning, -⟩ | ⟨hrunning, machine, hmachine, htick⟩ |
        ⟨hrunning, failure, machine, hmachine, -⟩ := tick_cases h.verbose
      · rw [Machine.run_of_stopped hrunning] at hgoing
        cases hgoing
      · rw [Machine.run_succ_of_ok hrunning hmachine] at hgoing ⊢
        rw [htick] at hloaded
        rw [afterTicks_succ, htick]
        exact ih hloaded hgoing
      · rw [Machine.run_succ_of_error hrunning hmachine] at hgoing
        cases hgoing

/-- The loop of the emulator ends with its machine, and in the state that ticking goes on to show.
A failure has one place more around it. -/
theorem runTicks_eq (h : emu.Loaded program) (hrunning : emu.machine.running = true) (n : Nat) :
    ∃ line, emu.runTicks n =
      ((emu.machine.run n).1.within (.runtime line), emu.afterTicks n) := by
  induction n generalizing emu with
  | zero => exact ⟨0, by simp [runTicks, Machine.run, hrunning, RunEnd.within, afterTicks]⟩
  | succ n ih =>
      have hloaded := h.tick
      obtain ⟨hstopped, -⟩ | ⟨-, machine, hmachine, htick⟩ |
        ⟨-, failure, machine, hmachine, htick⟩ := tick_cases h.verbose
      · rw [hrunning] at hstopped
        cases hstopped
      · rw [htick] at hloaded
        rw [runTicks, afterTicks_succ, htick, Machine.run_succ_of_ok hrunning hmachine]
        cases hend : machine.running with
        | true => exact ih hloaded hend
        | false =>
            rw [afterTicks_of_stopped hloaded.verbose hend, Machine.run_of_stopped hend]
            exact ⟨0, rfl⟩
      · rw [htick] at hloaded
        rw [runTicks, afterTicks_succ, htick, afterTicks_of_stopped hloaded.verbose rfl,
          Machine.run_succ_of_error hrunning hmachine]
        exact ⟨emu.lineNumber, rfl⟩

end

/-- Ticking `loaded`, and running `emu` as a whole, is running the machine `m` from an entry. -/
structure Refines (emu loaded : Emulator) (m : Machine) (entry : Int64) : Prop where
  /-- After as many ticks the states are the same, with all that was written and slept. -/
  state : ∀ n, (loaded.afterTicks n).machine.unlogged = (m.start n entry).2.unlogged
  /-- A tick that finds the machine running goes on, is done or fails as the machine does. -/
  report : ∀ n, (m.start n entry).1 = .outOfFuel →
    (loaded.afterTicks n).tick.1 =
      .ofRun (loaded.afterTicks n).lineNumber (m.start (n + 1) entry).1
  /-- Both leave a stopped machine. -/
  stopped : ∀ n, (m.start n entry).1 ≠ .outOfFuel →
    (m.start n entry).2.running = false ∧ (loaded.afterTicks n).machine.running = false
  /-- All ticks after the end report that the emulator is done, and change nothing. -/
  settled : ∀ n k, (m.start n entry).1 ≠ .outOfFuel →
    (loaded.afterTicks (n + k)).tick = (.done, loaded.afterTicks n)
  /-- The run of the emulator ends with the run of the machine. A failure gets a source line. -/
  run : ∀ n, ∃ line,
    emu.run n = ((m.start n entry).1.within (.runtime line), loaded.afterTicks n)

/-- A machine that is set up like the one of an emulator runs like it after a reset. -/
theorem start_eq_run {emu : Emulator} {program : Program} {m : Machine}
    (hlike : m.SetUpLike (emu.supplied program)) (n : Nat) :
    (m.reset.start n program.entry).1 = ((emu.loadedWith program).machine.run n).1 ∧
      (m.reset.start n program.entry).2.unlogged =
        ((emu.loadedWith program).machine.run n).2.unlogged := by
  have hstarted : (m.reset.started program.entry).unlogged =
      (emu.loadedWith program).machine.unlogged := hlike.unlogged_started program.entry
  have hrun := Machine.run_unlogged n (m.reset.started program.entry)
  rw [hstarted, Machine.run_unlogged] at hrun
  exact ⟨(congrArg Prod.fst hrun).symm, (congrArg Prod.snd hrun).symm⟩

/-- Whatever state an emulator is in, its run is the run of a machine that is set up like its own
and freshly reset. -/
theorem run_refines_start {emu : Emulator} {program : Program} {m : Machine}
    (hprogram : emu.program = some program) (hlike : m.SetUpLike (emu.supplied program)) :
    ∃ loaded, emu.reset = .ok loaded ∧ Refines emu loaded m.reset program.entry := by
  have hreset := reset_eq hprogram
  have hloaded := loaded_loadedWith hprogram
  have hstart := start_eq_run hlike
  have hstopped (n : Nat) (h : (m.reset.start n program.entry).1 ≠ .outOfFuel) :
      ((emu.loadedWith program).afterTicks n).machine.running = false := by
    rw [(hstart n).1] at h
    rw [machine_afterTicks hloaded]
    exact Machine.running_run h
  refine ⟨_, hreset, ⟨fun n => ?_, fun n h => ?_, fun n h => ?_, fun n k h => ?_, fun n => ?_⟩⟩
  · rw [machine_afterTicks hloaded, (hstart n).2]
  · rw [(hstart n).1] at h
    rw [report_afterTicks hloaded h, (hstart (n + 1)).1]
  · exact ⟨Machine.running_run h, hstopped n h⟩
  · have hverbose := (hloaded.afterTicks n).verbose
    rw [afterTicks_add, afterTicks_of_stopped hverbose (hstopped n h) k]
    exact tick_of_stopped hverbose (hstopped n h)
  · obtain ⟨line, hrun⟩ := runTicks_eq hloaded rfl n
    refine ⟨line, ?_⟩
    rw [Emulator.run, hreset, (hstart n).1]
    exact hrun

def failingProgram : Program where
  instructions := #[.add (ofString "1") (ofString "2"), .pop (ofString "rax")]
  lines := #[⟨2, ofString "add:1:2"⟩, ⟨5, ofString "pop:rax"⟩]
  labels := .empty
  entry := 0

def interrupted : Emulator :=
  let emu := { Emulator.initial 0 with program := some failingProgram, verbose := true }
  { emu with machine := { (emu.machine.started 7) with ticks := 9, speed := 3 } }

theorem run_refines_start_interrupted :
    let m := { Machine.initial .empty 0 with
      code := failingProgram.instructions
      speed := 3
      input := some .console
      output := .device .console
      debug := .device .console }
    (m.reset.start 2 0).1 =
        .failed ⟨[.instruction 1 (ofString "pop:rax")], .stackUnderflow⟩ ∧
      ∃ loaded, interrupted.reset = .ok loaded ∧ Refines interrupted loaded m.reset 0 ∧
        ∃ line, (interrupted.run 2).1 =
          .failed ⟨[.runtime line, .instruction 1 (ofString "pop:rax")], .stackUnderflow⟩ := by
  intro m
  have hfailed : (m.reset.start 2 0).1 =
      .failed ⟨[.instruction 1 (ofString "pop:rax")], .stackUnderflow⟩ := by decide
  have hlike : m.SetUpLike (interrupted.supplied failingProgram) :=
    ⟨rfl, rfl, rfl, rfl, rfl, rfl, rfl, rfl, rfl, rfl⟩
  obtain ⟨loaded, hreset, hrefines⟩ := run_refines_start rfl hlike
  obtain ⟨line, hrun⟩ := hrefines.run 2
  refine ⟨hfailed, loaded, hreset, hrefines, line, ?_⟩
  rw [hrun, show (m.reset.start 2 failingProgram.entry).1 = _ from hfailed]
  rfl

end Emulator

end RegisterMachine

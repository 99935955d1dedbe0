import Mathlib.Logic.Function.Iterate
import RegisterMachine.Emulator
import RegisterMachine.Proofs.Bookkeeping

/-!
# Ticks of an emulator

A tick of an emulator with a loaded program is a tick of its machine, or nothing at all if the
machine has stopped. The program stays loaded, whatever the tick reports.
-/
namespace RegisterMachine.Emulator

open Stateful

/-- The machine as the emulator supplies it for a program: with the program, the verbosity of the
emulator and its device. -/
def supplied (emu : Emulator) (program : Program) : Machine :=
  { emu.openTerminal.attach.machine with
    code := program.instructions
    labels := program.labels
    verbose := emu.verbose }

def loadedWith (emu : Emulator) (program : Program) : Emulator :=
  { emu.openTerminal.attach with
    machine := (emu.supplied program).reset.started program.entry }

theorem reset_eq {emu : Emulator} {program : Program} (h : emu.program = some program) :
    emu.reset = .ok (emu.loadedWith program) := by
  obtain ⟨verbose, machine, loaded, lineEdit, defined, terminalKept⟩ := emu
  subst h
  cases verbose <;> cases lineEdit <;> cases terminalKept <;> rfl

/-- The program is loaded: the machine has its instructions, and is as verbose as the emulator. -/
structure Loaded (program : Program) (emu : Emulator) : Prop where
  held : emu.program = some program
  code : emu.machine.code = program.instructions
  verbose : emu.machine.verbose = emu.verbose

theorem loaded_loadedWith {emu : Emulator} {program : Program} (h : emu.program = some program) :
    (emu.loadedWith program).Loaded program := by
  have hreset (m : Machine) : m.reset.code = m.code ∧ m.reset.verbose = m.verbose := by
    obtain ⟨log, h⟩ := m.reset_eq
    rw [h]
    exact ⟨rfl, rfl⟩
  have hopen : emu.openTerminal.program = emu.program ∧
      emu.openTerminal.verbose = emu.verbose := by
    unfold openTerminal
    split <;> exact ⟨rfl, rfl⟩
  exact ⟨hopen.1.trans h, (hreset _).1, (hreset _).2.trans hopen.2.symm⟩

section

variable {emu : Emulator} (hverbose : emu.machine.verbose = emu.verbose)

include hverbose

theorem tick_eq : emu.tick =
    if !emu.machine.running then (.done, emu)
    else match Machine.tick emu.machine with
      | .ok _ machine =>
          (if machine.running then .going else .done, { emu with machine })
      | .error failure machine =>
          (.failed (failure.within (.runtime emu.lineNumber)),
            { emu with machine := { machine with running := false } }) := by
  obtain ⟨verbose, machine, program, lineEdit, defined, terminalKept⟩ := emu
  obtain rfl : machine.verbose = verbose := hverbose
  rfl

/-- A tick of a stopped machine reports that it is done, and changes nothing. -/
theorem tick_of_stopped (h : emu.machine.running = false) : emu.tick = (.done, emu) := by
  rw [tick_eq hverbose, h]
  rfl

/-- All that a tick can do: nothing, or what a tick of the machine does. -/
theorem tick_cases :
    (emu.machine.running = false ∧ emu.tick = (.done, emu)) ∨
    (emu.machine.running = true ∧ ∃ machine, Machine.tick emu.machine = .ok ⟨⟩ machine ∧
      emu.tick = (if machine.running then .going else .done, { emu with machine })) ∨
    (emu.machine.running = true ∧ ∃ failure machine,
      Machine.tick emu.machine = .error failure machine ∧
      emu.tick = (.failed (failure.within (.runtime emu.lineNumber)),
        { emu with machine := { machine with running := false } })) := by
  have htick := tick_eq hverbose
  cases hrunning : emu.machine.running with
  | false => exact .inl ⟨rfl, tick_of_stopped hverbose hrunning⟩
  | true =>
      cases hmachine : Machine.tick emu.machine with
      | ok u machine =>
          rw [hrunning, hmachine] at htick
          exact .inr (.inl ⟨rfl, machine, rfl, htick⟩)
      | error failure machine =>
          rw [hrunning, hmachine] at htick
          exact .inr (.inr ⟨rfl, failure, machine, rfl, htick⟩)

end

/-- A tick keeps the program loaded. -/
theorem Loaded.tick {program : Program} {emu : Emulator} (h : emu.Loaded program) :
    emu.tick.2.Loaded program := by
  have hsteady := Machine.steady_tick emu.machine
  obtain ⟨-, htick⟩ | ⟨-, machine, hmachine, htick⟩ | ⟨-, failure, machine, hmachine, htick⟩ :=
    tick_cases h.verbose
  · rw [htick]
    exact h
  · rw [hmachine] at hsteady
    rw [htick]
    exact ⟨h.held, hsteady.code.trans h.code, hsteady.verbose.trans h.verbose⟩
  · rw [hmachine] at hsteady
    rw [htick]
    exact ⟨h.held, hsteady.code.trans h.code, hsteady.verbose.trans h.verbose⟩

def afterTicks (n : Nat) (emu : Emulator) : Emulator := (fun emu => emu.tick.2)^[n] emu

theorem afterTicks_succ (n : Nat) (emu : Emulator) :
    emu.afterTicks (n + 1) = emu.tick.2.afterTicks n := Function.iterate_succ_apply _ _ _

theorem afterTicks_add (n k : Nat) (emu : Emulator) :
    emu.afterTicks (n + k) = (emu.afterTicks n).afterTicks k := by
  rw [Nat.add_comm]
  exact Function.iterate_add_apply _ _ _ _

theorem Loaded.afterTicks {program : Program} {emu : Emulator} (h : emu.Loaded program) (n : Nat) :
    (emu.afterTicks n).Loaded program := by
  induction n generalizing emu with
  | zero => exact h
  | succ n ih =>
      rw [afterTicks_succ]
      exact ih h.tick

/-- Once the machine has stopped, any number of ticks changes nothing. -/
theorem afterTicks_of_stopped {emu : Emulator} (hverbose : emu.machine.verbose = emu.verbose)
    (h : emu.machine.running = false) (n : Nat) : emu.afterTicks n = emu := by
  induction n with
  | zero => rfl
  | succ n ih => rw [afterTicks_succ, tick_of_stopped hverbose h, ih]

end RegisterMachine.Emulator

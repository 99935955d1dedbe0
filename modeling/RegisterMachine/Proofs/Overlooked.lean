import RegisterMachine.Proofs.Execution

/-!
# What no instruction looks at

An instruction looks at the memory, the labels and the devices of a machine. Machines that differ
in anything else do the same with it, whether it succeeds or fails, as long as the difference
survives every change that an instruction makes. With the program among what is the same, so do
they with a tick and with a run.
-/
namespace RegisterMachine.Machine

open Stateful

/-- Related machines have the same memory, labels and devices, and stay related through everything
that an instruction does. -/
structure Overlooked (R : Machine → Machine → Prop) : Prop where
  memory : ∀ {m m'}, R m m' → m'.memory = m.memory
  labels : ∀ {m m'}, R m m' → m'.labels = m.labels
  input : ∀ {m m'}, R m m' → m'.input = m.input
  output : ∀ {m m'}, R m m' → m'.output = m.output
  debug : ∀ {m m'}, R m m' → m'.debug = m.debug
  devices : ∀ {m m'}, R m m' → m'.devices = m.devices
  withMemory : ∀ {m m'} memory, R m m' → R (m.withMemory memory) (m'.withMemory memory)
  withDevices : ∀ {m m'} devices, R m m' → R { m with devices } { m' with devices }
  stopped : ∀ {m m'}, R m m' → R { m with running := false } { m' with running := false }
  paused : ∀ {m m'} steps, R m m' → R (m.paused steps) (m'.paused steps)

namespace Overlooked

section

variable {R : Machine → Machine → Prop} (hR : Overlooked R)

include hR

theorem onMemory_respects {α : Type} (act : Memory.Action α) : Respects R (onMemory act) := by
  intro m m' h
  rw [onMemory_apply, onMemory_apply, hR.memory h]
  cases act m.memory with
  | ok a memory => exact .ok (hR.withMemory memory h)
  | error fault memory => exact .error (hR.withMemory memory h)

theorem setIp_respects (i : Int64) : Respects R (setIp i) := hR.onMemory_respects _

theorem resolve_respects (token : Text) : Respects R (resolve token) := by
  refine .get_bind (fun m m' h => ?_) fun _ => hR.onMemory_respects _
  rw [hR.labels h]

theorem valueOf_respects (operand : Operand) : Respects R (valueOf operand) := by
  refine .get_bind (fun m m' h => ?_) fun _ => .pure _
  rw [hR.memory h]

theorem integerOf_respects (operand : Operand) : Respects R (integerOf operand) := by
  refine .bind (hR.valueOf_respects operand) fun v => ?_
  cases v.toInteger with
  | ok n => exact .pure n
  | error fault => exact .throw fault

theorem assign_respects (operand : Operand) (v : Value) : Respects R (assign operand v) :=
  .bind (hR.onMemory_respects _) fun _ => .pure _

/-- The range of a pause is checked before anything that makes it a pause. -/
theorem delay_respects (steps : Int64) : Respects R (delay steps) := by
  intro m m' h
  rw [delay_apply, delay_apply]
  by_cases hneg : steps < 0
  · rw [if_pos hneg, if_pos hneg]
    exact .error h
  · rw [if_neg hneg, if_neg hneg]
    exact .ok (hR.paused steps h)

theorem writeTo_respects (outlet : Outlet) (bytes : Text) : Respects R (writeTo outlet bytes) := by
  intro m m' h
  cases outlet with
  | discard => exact .ok h
  | sink s =>
      simp only [writeTo, hR.devices h]
      split
      · exact .ok (hR.withDevices _ h)
      · exact .error (hR.withDevices _ h)
  | device d =>
      simp only [writeTo, hR.devices h]
      split
      · exact .ok (hR.withDevices _ h)
      · exact .error (hR.withDevices _ h)

theorem put_respects (v : Value) : Respects R (put v) := by
  unfold put
  cases shown v with
  | error fault => exact .throw fault
  | ok bytes =>
      refine .get_bind (fun m m' h => ?_) fun _ => hR.writeTo_respects _ bytes
      rw [hR.output h]

theorem readLine_respects : Respects R readLine := by
  intro m m' h
  have hleft := fun devices => hR.withDevices devices h
  unfold readLine
  rw [hR.devices h]
  rw [hR.input h] at hleft ⊢
  generalize m.input = input at hleft ⊢
  cases input with
  | none => exact .error h
  | some device =>
      dsimp only
      split
      · exact .ok (hleft _)
      · exact .error (hleft _)
      · exact .error (hleft _)

theorem showState_respects (selector : Value) : Respects R (showState selector) := by
  refine .get_bind (fun m m' h => ?_) fun m => ?_
  · rw [hR.memory h, hR.debug h]
  · split
    · exact hR.writeTo_respects _ _
    · split
      · exact hR.writeTo_respects _ _
      · exact .pure _

theorem arithmetic_respects (op : Value → Value → Except Fault Value) (a b : Text) :
    Respects R (arithmetic op a b) := by
  refine .bind (hR.resolve_respects a) fun x => .bind (hR.resolve_respects b) fun y => ?_
  refine .bind (hR.valueOf_respects x) fun v => .bind (hR.valueOf_respects y) fun w => ?_
  cases op v w with
  | ok result => exact hR.onMemory_respects _
  | error fault => exact .throw fault

/-- An instruction does the same to machines that differ only in what it does not look at. -/
theorem perform_respects (inst : Instruction) : Respects R (perform inst) := by
  cases inst with
  | mov a b =>
      refine .bind (hR.resolve_respects a) fun x => .bind (hR.resolve_respects b) fun y => ?_
      exact .bind (hR.valueOf_respects y) fun v => hR.assign_respects x v
  | output a =>
      refine .bind (hR.resolve_respects a) fun x => ?_
      exact .bind (hR.valueOf_respects x) fun v => hR.put_respects v
  | tostring a b =>
      refine .bind (hR.resolve_respects a) fun x => .bind (hR.resolve_respects b) fun y => ?_
      exact .bind (hR.valueOf_respects y) fun v => hR.assign_respects x _
  | add a b => exact hR.arithmetic_respects _ a b
  | sub a b => exact hR.arithmetic_respects _ a b
  | mul a b => exact hR.arithmetic_respects _ a b
  | div a b => exact hR.arithmetic_respects _ a b
  | halt a =>
      refine .bind (hR.resolve_respects a) fun x => ?_
      exact .bind (hR.integerOf_respects x) fun n => hR.delay_respects n
  | exit => exact .modify fun _ _ => hR.stopped
  | input a =>
      refine .bind (hR.resolve_respects a) fun x => ?_
      exact .bind hR.readLine_respects fun line => hR.assign_respects x _
  | push a =>
      refine .bind (hR.resolve_respects a) fun x => ?_
      exact .bind (hR.valueOf_respects x) fun v => hR.onMemory_respects _
  | pop a =>
      refine .bind (hR.resolve_respects a) fun x => ?_
      exact .bind (hR.onMemory_respects _) fun v => hR.assign_respects x v
  | lea a b =>
      refine .bind (hR.resolve_respects a) fun x => .bind (hR.resolve_respects b) fun y => ?_
      cases y with
      | address index held => exact hR.assign_respects x _
      | constant v => exact .throw _
      | register r => exact .throw _
  | jmp a =>
      refine .bind (hR.resolve_respects a) fun x => ?_
      exact .bind (hR.integerOf_respects x) fun n => hR.setIp_respects n
  | call a =>
      refine .bind (hR.resolve_respects a) fun x => .bind (hR.integerOf_respects x) fun n => ?_
      refine .get_bind (fun m m' h => ?_) fun m => ?_
      · rw [hR.memory h]
      · exact .bind (hR.onMemory_respects _) fun _ => hR.setIp_respects n
  | ret =>
      refine .bind (hR.onMemory_respects _) fun v => ?_
      exact .bind (hR.integerOf_respects _) fun n => hR.setIp_respects n
  | debug a =>
      refine .bind (hR.resolve_respects a) fun x => ?_
      exact .bind (hR.valueOf_respects x) fun v => hR.showState_respects v
  | alloc a =>
      refine .bind (hR.resolve_respects a) fun x => .bind (hR.integerOf_respects x) fun n => ?_
      exact .bind (hR.onMemory_respects _) fun base => hR.onMemory_respects _

end

end Overlooked

/-- Related machines also have the same program and run alike, and stay related through everything
else that a tick does. -/
structure TickOverlooked (R : Machine → Machine → Prop) : Prop extends Overlooked R where
  code : ∀ {m m'}, R m m' → m'.code = m.code
  running : ∀ {m m'}, R m m' → m'.running = m.running
  logging : ∀ {m m'} line, R m m' → R (m.logging line) (m'.logging line)
  ticked : ∀ {m m'}, R m m' → R m.ticked m'.ticked

namespace TickOverlooked

section

variable {R : Machine → Machine → Prop} (hR : TickOverlooked R)

include hR

theorem nextIndex_eq {m m' : Machine} (h : R m m') : m'.nextIndex = m.nextIndex := by
  rw [nextIndex, hR.code h, hR.memory h, ← nextIndex]

theorem entered {m m' : Machine} (h : R m m') (i : Int64) (inst : Instruction) :
    R (m.entered i inst) (m'.entered i inst) := by
  refine hR.logging _ ?_
  rw [atIp, atIp, hR.memory h]
  exact hR.withMemory _ h

/-- A tick does the same to related machines. Around a fault it puts the same place. -/
theorem tick_respects : Respects R tick := by
  intro m m' h
  cases hn : m.nextIndex with
  | error fault =>
      have hn' : m'.nextIndex = .error fault := (hR.nextIndex_eq h).trans hn
      rw [tick_of_nextIndex_error hn, tick_of_nextIndex_error hn']
      exact .error h
  | ok i =>
      obtain ⟨inst, hx⟩ := exists_executes hn
      have hx' : m'.Executes i inst := by
        rw [Executes, hR.nextIndex_eq h, hR.code h]
        exact hx
      have hsame := hR.perform_respects inst _ _ (hR.entered h i inst)
      rw [tick_of_executes hx, tick_of_executes hx']
      generalize perform inst (m.entered i inst) = r,
        perform inst (m'.entered i inst) = r' at hsame ⊢
      cases hsame with
      | ok hdone => exact .ok (hR.paused 1 (hR.ticked hdone))
      | error hdone => exact .error hdone

end

end TickOverlooked

theorem run_of_stopped {m : Machine} (h : m.running = false) (n : Nat) :
    m.run n = (.stopped, m) := by
  cases n <;> simp [run, h]

theorem run_succ_of_ok {m m' : Machine} (hrunning : m.running = true) (h : tick m = .ok ⟨⟩ m')
    (n : Nat) : m.run (n + 1) = m'.run n := by
  rw [run, if_pos hrunning, h]

theorem run_succ_of_error {m m' : Machine} {failure : Failure} (hrunning : m.running = true)
    (h : tick m = .error failure m') (n : Nat) :
    m.run (n + 1) = (.failed failure, { m' with running := false }) := by
  rw [run, if_pos hrunning, h]

/-- Runs of related machines end alike, in related machines. -/
theorem TickOverlooked.run {R : Machine → Machine → Prop} (hR : TickOverlooked R) (n : Nat)
    {m m' : Machine} (h : R m m') : (m'.run n).1 = (m.run n).1 ∧ R (m.run n).2 (m'.run n).2 := by
  induction n generalizing m m' with
  | zero =>
      refine ⟨?_, h⟩
      simp [Machine.run, hR.running h]
  | succ n ih =>
      cases hrunning : m.running with
      | false =>
          rw [run_of_stopped hrunning, run_of_stopped ((hR.running h).trans hrunning)]
          exact ⟨rfl, h⟩
      | true =>
          have hrunning' : m'.running = true := (hR.running h).trans hrunning
          have hsame := hR.tick_respects m m' h
          cases htick : tick m with
          | ok u done =>
              cases htick' : tick m' with
              | ok u' done' =>
                  rw [htick, htick'] at hsame
                  obtain ⟨hdone⟩ := hsame
                  rw [run_succ_of_ok hrunning htick, run_succ_of_ok hrunning' htick']
                  exact ih hdone
              | error failure done' =>
                  rw [htick, htick'] at hsame
                  cases hsame
          | error failure done =>
              cases htick' : tick m' with
              | ok u' done' =>
                  rw [htick, htick'] at hsame
                  cases hsame
              | error failure' done' =>
                  rw [htick, htick'] at hsame
                  cases hsame with
                  | error hdone =>
                      rw [run_succ_of_error hrunning htick, run_succ_of_error hrunning' htick']
                      exact ⟨rfl, hR.stopped hdone⟩

end RegisterMachine.Machine

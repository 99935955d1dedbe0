import RegisterMachine.Proofs.Bookkeeping

/-!
# Pace and log have no influence

How fast a machine goes, who is told of its pauses and whether it keeps a log makes no difference
to what it computes. The one instruction that is about time, the halt, checks its operand before it
looks at any of these, and a log line is written before an instruction and not in its place.
-/
namespace RegisterMachine.Machine

open Stateful
open Text (ofString)

/-- The machine as it would be at no speed, with nobody to tell of its pauses and without a log. -/
def unpaced (m : Machine) : Machine :=
  { m with speed := 0, sleeper := none, slept := #[], verbose := false, log := [] }

/-- Whoever is told of the pauses never stops the machine. -/
def Undisturbed (m : Machine) : Prop :=
  ∀ sleeper, m.sleeper = some sleeper → ∀ slept, sleeper.stops slept = false

/-- Two machines differ at most in their speed, in who is told of their pauses, and in their log. -/
structure DifferInPace (m m' : Machine) : Prop where
  left : m.Undisturbed
  right : m'.Undisturbed
  same : m.unpaced = m'.unpaced

/-- Two machines agree on what a program can see: on registers and stack, on whether they run, on
the ticks, and on the devices with all that was written to them and the input that is left. -/
structure Agree (m m' : Machine) : Prop where
  registers : m.memory.registers = m'.memory.registers
  cells : m.memory.cells = m'.memory.cells
  size : m.memory.size = m'.memory.size
  running : m.running = m'.running
  ticks : m.ticks = m'.ticks
  devices : m.devices = m'.devices

namespace DifferInPace

variable {m m' : Machine}

/-- What commutes with giving up the pace, and leaves the sleeper alone, makes no other difference. -/
theorem map (h : DifferInPace m m') (f : Machine → Machine)
    (hsleeper : ∀ m, (f m).sleeper = m.sleeper)
    (hcomm : ∀ m, m.Undisturbed → (f m).unpaced = f m.unpaced) :
    DifferInPace (f m) (f m') := by
  refine ⟨fun sleeper hs => ?_, fun sleeper hs => ?_, ?_⟩
  · exact h.left sleeper ((hsleeper m).symm.trans hs)
  · exact h.right sleeper ((hsleeper m').symm.trans hs)
  · rw [hcomm m h.left, hcomm m' h.right, h.same]

theorem agree (h : DifferInPace m m') : Agree m m' where
  registers := (congrArg (fun m => m.memory.registers) h.same :)
  cells := (congrArg (fun m => m.memory.cells) h.same :)
  size := (congrArg (fun m => m.memory.size) h.same :)
  running := (congrArg running h.same :)
  ticks := (congrArg ticks h.same :)
  devices := (congrArg devices h.same :)

theorem started (h : DifferInPace m m') (entry : Int64) :
    DifferInPace (m.started entry) (m'.started entry) :=
  h.map (Machine.started entry) (fun _ => rfl) fun _ _ => rfl

end DifferInPace

theorem paused_sleeper (m : Machine) (steps : Int64) : (m.paused steps).sleeper = m.sleeper := by
  obtain ⟨slept, running, h⟩ := m.paused_eq steps
  rw [h]

/-- A pause that nobody uses to stop the machine is no more than an entry in the record. -/
theorem unpaced_paused {m : Machine} (h : m.Undisturbed) (steps : Int64) :
    (m.paused steps).unpaced = m.unpaced := by
  unfold paused sleep
  split
  · split
    · rfl
    · next sleeper hsleeper => simp only [unpaced, h sleeper hsleeper, Bool.not_false, Bool.and_true]
  · rfl

theorem logging_sleeper (line : Text) (m : Machine) : (m.logging line).sleeper = m.sleeper := by
  obtain ⟨log, h⟩ := m.logging_eq line
  rw [h]

theorem unpaced_logging (line : Text) (m : Machine) : (m.logging line).unpaced = m.unpaced := by
  obtain ⟨log, h⟩ := m.logging_eq line
  rw [h]
  rfl

/-- No tick looks at the pace. -/
theorem overlooked_pace : TickOverlooked DifferInPace where
  memory h := (congrArg memory h.same).symm
  labels h := (congrArg labels h.same).symm
  input h := (congrArg input h.same).symm
  output h := (congrArg output h.same).symm
  debug h := (congrArg debug h.same).symm
  devices h := (congrArg devices h.same).symm
  withMemory memory h := h.map (withMemory · memory) (fun _ => rfl) fun _ _ => rfl
  withDevices devices h := h.map (fun m => { m with devices }) (fun _ => rfl) fun _ _ => rfl
  stopped h := h.map (fun m => { m with running := false }) (fun _ => rfl) fun _ _ => rfl
  paused steps h := h.map (paused · steps) (paused_sleeper · steps) fun _ hm =>
    unpaced_paused hm steps
  code h := (congrArg code h.same).symm
  running h := (congrArg running h.same).symm
  logging line h := h.map (logging line) (logging_sleeper line) fun m _ => unpaced_logging line m
  ticked h := h.map ticked (fun _ => rfl) fun _ _ => rfl

/-- Machines that differ only in pace and log agree after any number of ticks, and the next tick of
both reports the same: the same fault at the same place, or none. Their runs from an entry point end
alike as well. -/
theorem pace_has_no_influence {m m' : Machine} (h : DifferInPace m m') (n : Nat) :
    Agree (m.afterTicks n) (m'.afterTicks n) ∧
      error? (tick (m.afterTicks n)) = error? (tick (m'.afterTicks n)) ∧
      ∀ entry, (m.start n entry).1 = (m'.start n entry).1 ∧
        Agree (m.start n entry).2 (m'.start n entry).2 := by
  have hafter := overlooked_pace.afterTicks h n
  refine ⟨hafter.agree, (overlooked_pace.tick_respects _ _ hafter).error?_eq, fun entry => ?_⟩
  obtain ⟨hend, hlast⟩ := overlooked_pace.run n (h.started entry)
  exact ⟨hend.symm, hlast.agree⟩

def hurried : Machine :=
  { initial .empty 5 with
    code := #[.halt (ofString "5"), .push (ofString "rip"), .sub (ofString "0") (ofString "1"),
      .halt (ofString "rax")]
    running := true
    speed := 0 }

def leisurely : Machine :=
  { hurried with speed := 7, sleeper := some ⟨fun _ => false⟩, verbose := true }

theorem pace_has_no_influence_leisurely :
    (leisurely.afterTicks 4).slept.size = 4 ∧
      Agree (hurried.afterTicks 4) (leisurely.afterTicks 4) ∧
      error? (tick (hurried.afterTicks 3)) =
        some ⟨[.instruction 3 (ofString "halt:rax")], .pauseLength (-1)⟩ ∧
      error? (tick (leisurely.afterTicks 3)) =
        some ⟨[.instruction 3 (ofString "halt:rax")], .pauseLength (-1)⟩ := by
  have hpace : DifferInPace hurried leisurely := by
    refine ⟨?_, ?_, rfl⟩
    · intro sleeper hsleeper
      cases hsleeper
    · intro sleeper hsleeper slept
      cases hsleeper
      rfl
  have hfault : error? (tick (hurried.afterTicks 3)) =
      some ⟨[.instruction 3 (ofString "halt:rax")], .pauseLength (-1)⟩ := by decide
  refine ⟨by decide, (pace_has_no_influence hpace 4).1, hfault, ?_⟩
  rw [← (pace_has_no_influence hpace 3).2.1, hfault]

end RegisterMachine.Machine

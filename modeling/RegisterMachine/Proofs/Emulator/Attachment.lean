import Mathlib.Data.List.Induction
import RegisterMachine.Proofs.DeviceUse
import RegisterMachine.Proofs.Emulator.Ticks

/-!
# The device of an emulator

A reset attaches the machine to a device. The first one that finds line editing on opens a terminal,
which writes where the console writes at that time. It is kept until the emulator is closed, so later
resets attach the machine to it whatever they find: line editing may be off by then, and the console
may write elsewhere. So where a machine reads and writes depends on the history of the emulator, and
this is exactly how.
-/
namespace RegisterMachine

/-- Where a device writes that has a sink attached to it, or none. -/
def Device.destination (sink : Option Sink) : Device → Destination
  | .console =>
      match sink with
      | none => .failing .noOutput
      | some s => s.destination
  | .terminal => (sink.getD (.channel .standardOutput)).destination

/-- The machine reads from the device, writes to it, and its output leads to the destination. -/
structure Machine.Attached (m : Machine) (device : Device) (destination : Destination) : Prop where
  input : m.input = some device
  output : m.output = .device device
  debug : m.debug = .device device
  leads : m.devices.destination m.output = destination

/-- What is put out goes where the output leads. -/
theorem Machine.perform_output_of_shown {m mid : Machine} {token bytes : Text} {operand : Operand}
    (hres : resolve token m = .ok operand mid)
    (hshown : shown (operand.get mid.memory.registers) = .ok bytes) :
    perform (.output token) m = match m.devices.destination m.output with
      | .nowhere => .ok ⟨⟩ mid
      | .channel c => .ok ⟨⟩ { mid with devices := mid.devices.wrote c bytes }
      | .failing fault => .error fault mid := by
  rw [perform_output hres, put_apply, hshown]
  obtain ⟨memory, -, rfl⟩ := resolve_eq_ok.1 hres
  exact writeTo_apply _ _ _

namespace Emulator

open Machine (Wired)

/-- What is done with an emulator. -/
inductive Operation where
  /-- A program is loaded, or unloaded. -/
  | load (program : Option Program)
  /-- Line editing is turned on or off. -/
  | lineEdit (on : Bool)
  /-- A sink is attached to the console, or detached. -/
  | output (sink : Option Sink)
  | reset
  | tick
  | close

def withConsoleSink (emu : Emulator) (sink : Option Sink) : Emulator :=
  let devices := emu.machine.devices
  { emu with
    machine := { emu.machine with
      devices := { devices with console := { devices.console with sink } } } }

/-- The emulator after an operation. A reset that fails changes nothing. -/
def Operation.apply (emu : Emulator) : Operation → Emulator
  | .load program => { emu with program }
  | .lineEdit on => { emu with lineEdit := on }
  | .output sink => emu.withConsoleSink sink
  | .reset =>
      match emu.reset with
      | .ok now => now
      | .error _ => emu
  | .tick => emu.tick.2
  | .close => emu.close

def after (emu : Emulator) (history : List Operation) : Emulator :=
  history.foldl Operation.apply emu

theorem after_concat (emu : Emulator) (history : List Operation) (op : Operation) :
    emu.after (history ++ [op]) = op.apply (emu.after history) := List.foldl_append

def consoleSink (emu : Emulator) : Option Sink := emu.machine.devices.console.sink

/-- The sink that the terminal was opened with. -/
def terminalSink (emu : Emulator) : Option Sink := emu.machine.devices.terminal.sink

/-- A reset would succeed, and find line editing on. -/
def AsksTerminal (emu : Emulator) : Prop := emu.lineEdit = true ∧ emu.program.isSome

/-- After `before` a reset asked for the terminal, and the emulator has not been closed since. -/
def Asked (emu : Emulator) (history before : List Operation) : Prop :=
  ∃ between, history = before ++ .reset :: between ∧ .close ∉ between ∧
    (emu.after before).AsksTerminal

/-- The reset after `before` was the first to ask for the terminal since the emulator was closed. -/
def OpenedAfter (emu : Emulator) (history before : List Operation) : Prop :=
  emu.Asked history before ∧ ∀ earlier, ¬ emu.Asked before earlier

variable {emu now : Emulator} {history before earlier : List Operation}

/-- With one more operation: it may be the reset that asks, and it may close the emulator. -/
theorem asked_concat {op : Operation} :
    emu.Asked (history ++ [op]) before ↔
      (op = .reset ∧ before = history ∧ (emu.after history).AsksTerminal) ∨
        (op ≠ .close ∧ emu.Asked history before) := by
  constructor
  · intro h
    obtain ⟨between, hhistory, hclose, hasks⟩ := h
    obtain rfl | ⟨init, last, rfl⟩ := List.eq_nil_or_concat between
    · obtain ⟨rfl, hop⟩ := List.append_inj' hhistory rfl
      exact .inl ⟨by simpa using hop, rfl, hasks⟩
    · rw [List.concat_eq_append] at hhistory hclose
      rw [← List.cons_append, ← List.append_assoc] at hhistory
      obtain ⟨rfl, hop⟩ := List.append_inj' hhistory rfl
      obtain rfl : op = last := by simpa using hop
      rw [List.mem_append, not_or] at hclose
      refine .inr ⟨?_, init, rfl, hclose.1, hasks⟩
      rintro rfl
      exact hclose.2 List.mem_cons_self
  · intro h
    obtain ⟨rfl, rfl, hasks⟩ | ⟨hop, between, rfl, hclose, hasks⟩ := h
    · exact ⟨[], rfl, List.not_mem_nil, hasks⟩
    · refine ⟨between ++ [op], by simp, ?_, hasks⟩
      rw [List.mem_append, not_or]
      exact ⟨hclose, by simpa using Ne.symm hop⟩

/-- What had been asked before counts still. -/
theorem Asked.trans (h : emu.Asked history before) (h' : emu.Asked before earlier) :
    emu.Asked history earlier := by
  obtain ⟨between, rfl, hclose, -⟩ := h
  obtain ⟨between', rfl, hclose', hasks⟩ := h'
  refine ⟨between' ++ .reset :: between, by simp, ?_, hasks⟩
  simp [hclose, hclose']

/-- If some reset asked, then one was the first. -/
theorem exists_openedAfter {emu : Emulator} {history before : List Operation}
    (h : emu.Asked history before) : ∃ first, emu.OpenedAfter history first := by
  by_cases hfirst : ∀ earlier, ¬ emu.Asked before earlier
  · exact ⟨before, h, hfirst⟩
  · simp only [not_forall, not_not] at hfirst
    obtain ⟨earlier, hearlier⟩ := hfirst
    have hshorter : earlier.length < before.length := by
      obtain ⟨between, rfl, -⟩ := hearlier
      simp
    exact exists_openedAfter (h.trans hearlier)
termination_by before.length

theorem reset_eq_ok : emu.reset = .ok now ↔
    ∃ program, emu.program = some program ∧ now = emu.loadedWith program := by
  cases hprogram : emu.program with
  | none => simp [reset, hprogram]
  | some program => simp [reset_eq hprogram, eq_comm]

/-- Loading a program changes neither the outlets nor the sinks. -/
theorem wired_loadedWith (emu : Emulator) (program : Program) :
    Wired emu.openTerminal.attach.machine (emu.loadedWith program).machine := by
  obtain ⟨log, hlog⟩ := (emu.supplied program).reset_eq
  rw [loadedWith, hlog]
  exact ⟨rfl, rfl, rfl, .refl _⟩

/-- A tick changes neither the outlets nor the sinks, and the terminal is kept if it was. -/
theorem wired_tick (emu : Emulator) :
    Wired emu.machine emu.tick.2.machine ∧ emu.tick.2.terminalKept = emu.terminalKept := by
  let heard : Emulator := { emu with machine := { emu.machine with verbose := emu.verbose } }
  have hheard : Wired emu.machine heard.machine := ⟨rfl, rfl, rfl, .refl _⟩
  have hwired := hheard.trans (Machine.wired_tick heard.machine)
  have htick : emu.tick = heard.tick := rfl
  have hverbose : heard.machine.verbose = heard.verbose := rfl
  rw [htick]
  obtain ⟨-, h⟩ | ⟨-, machine, hmachine, h⟩ | ⟨-, failure, machine, hmachine, h⟩ :=
    tick_cases hverbose
  · rw [h]
    exact ⟨hheard, rfl⟩
  · rw [hmachine] at hwired
    rw [h]
    exact ⟨hwired, rfl⟩
  · rw [hmachine] at hwired
    rw [h]
    exact ⟨⟨hwired.input, hwired.output, hwired.debug, hwired.outlets⟩, rfl⟩

@[simp] theorem terminalKept_loadedWith (emu : Emulator) (program : Program) :
    (emu.loadedWith program).terminalKept = (emu.lineEdit || emu.terminalKept) := by
  have hkept : (emu.loadedWith program).terminalKept = emu.openTerminal.terminalKept := rfl
  rw [hkept, openTerminal]
  cases emu.lineEdit <;> cases hterminal : emu.terminalKept <;> simp [hterminal]

/-- The terminal is opened with the sink of the console. One that is kept stays as it is. -/
theorem sinks_loadedWith (emu : Emulator) (program : Program) :
    (emu.loadedWith program).consoleSink = emu.consoleSink ∧
      (emu.loadedWith program).terminalSink =
        if emu.lineEdit && !emu.terminalKept then emu.consoleSink else emu.terminalSink := by
  have hsinks := (wired_loadedWith emu program).outlets
  have hopened : emu.openTerminal.consoleSink = emu.consoleSink ∧
      emu.openTerminal.terminalSink =
        if emu.lineEdit && !emu.terminalKept then emu.consoleSink else emu.terminalSink := by
    rw [openTerminal]
    split <;> exact ⟨rfl, rfl⟩
  exact ⟨hsinks.console.trans hopened.1, hsinks.terminal.trans hopened.2⟩

theorem apply_reset (emu : Emulator) : Operation.reset.apply emu =
    match emu.program with
    | none => emu
    | some program => emu.loadedWith program := by
  cases hprogram : emu.program with
  | none => simp [Operation.apply, reset, hprogram]
  | some program => simp [Operation.apply, reset_eq hprogram]

/-- A reset opens the terminal if it finds line editing on, and closing closes it. Nothing else
does. -/
theorem terminalKept_apply (emu : Emulator) (op : Operation) :
    (op.apply emu).terminalKept = true ↔
      (op = .reset ∧ emu.AsksTerminal) ∨ (op ≠ .close ∧ emu.terminalKept = true) := by
  cases op with
  | load program => simp [Operation.apply]
  | lineEdit on => simp [Operation.apply]
  | output sink => simp [Operation.apply, withConsoleSink]
  | tick => simp [Operation.apply, (wired_tick emu).2]
  | close => simp [Operation.apply, close]
  | reset =>
      rw [apply_reset]
      cases hprogram : emu.program with
      | none => simp [AsksTerminal, hprogram]
      | some program => simp [AsksTerminal, hprogram]

/-- While the terminal is kept, it writes where it did. -/
theorem terminalSink_apply (hkept : emu.terminalKept = true) (op : Operation) :
    (op.apply emu).terminalSink = emu.terminalSink := by
  cases op with
  | load program => rfl
  | lineEdit on => rfl
  | output sink => rfl
  | tick => exact (wired_tick emu).1.outlets.terminal
  | close =>
      simp only [Operation.apply, close, hkept]
      rfl
  | reset =>
      rw [apply_reset]
      cases emu.program with
      | none => rfl
      | some program =>
          dsimp only
          rw [(sinks_loadedWith emu program).2, hkept]
          simp

/-- The reset that opens the terminal makes it write where the console writes. -/
theorem terminalSink_reset (hasks : emu.AsksTerminal) (hkept : emu.terminalKept = false) :
    (Operation.reset.apply emu).terminalSink = emu.consoleSink := by
  obtain ⟨hline, hsome⟩ := hasks
  obtain ⟨program, hprogram⟩ := Option.isSome_iff_exists.1 hsome
  rw [apply_reset, hprogram]
  dsimp only
  rw [(sinks_loadedWith emu program).2, hline, hkept]
  rfl

section

variable (hfresh : emu.terminalKept = false)

include hfresh

/-- The terminal is kept exactly if a reset asked for it since the emulator was closed. -/
theorem terminalKept_after (history : List Operation) :
    (emu.after history).terminalKept = true ↔ ∃ before, emu.Asked history before := by
  induction history using List.reverseRecOn with
  | nil => simp [after, hfresh, Asked]
  | append_singleton history op ih =>
      rw [after_concat, terminalKept_apply, ih]
      simp only [asked_concat, exists_or, exists_and_left]
      simp

/-- The terminal writes where the console wrote when it was opened. -/
theorem terminalSink_after (h : emu.OpenedAfter history before) :
    (emu.after history).terminalSink = (emu.after before).consoleSink := by
  obtain ⟨hasked, hfirst⟩ := h
  induction history using List.reverseRecOn with
  | nil => simp [Asked] at hasked
  | append_singleton history op ih =>
      rw [after_concat]
      obtain ⟨rfl, rfl, hasks⟩ | ⟨-, hasked⟩ := asked_concat.1 hasked
      · have hclosed : ¬ (emu.after before).terminalKept = true := by
          rw [terminalKept_after hfresh, not_exists]
          exact hfirst
        exact terminalSink_reset hasks (by simpa using hclosed)
      · have hkept := (terminalKept_after hfresh history).2 ⟨before, hasked⟩
        rw [terminalSink_apply hkept, ih hasked]

end

theorem attached_device (h : emu.reset = .ok now) :
    now.machine.Attached now.device (now.machine.devices.destination (.device now.device)) := by
  obtain ⟨program, -, rfl⟩ := reset_eq_ok.1 h
  have hwired := wired_loadedWith emu program
  have houtput : (emu.loadedWith program).machine.output =
      .device (emu.loadedWith program).device := hwired.output
  exact ⟨hwired.input, houtput, hwired.debug, by rw [houtput]⟩

/-- A reset attaches the machine to the terminal if that is kept by then. -/
theorem attached_terminal (h : emu.reset = .ok now) (hkept : now.terminalKept = true) :
    now.machine.Attached .terminal (Device.terminal.destination now.terminalSink) := by
  have hattached := attached_device h
  rw [device, hkept] at hattached
  exact hattached

/-- Otherwise it attaches the machine to the console. -/
theorem attached_console (h : emu.reset = .ok now) (hkept : now.terminalKept = false) :
    now.machine.Attached .console (Device.console.destination emu.consoleSink) := by
  have hattached := attached_device h
  obtain ⟨program, -, rfl⟩ := reset_eq_ok.1 h
  rw [device, hkept] at hattached
  rw [← (sinks_loadedWith emu program).1]
  exact hattached

theorem after_concat_reset (h : (emu.after history).reset = .ok now) :
    emu.after (history ++ [.reset]) = now := by
  rw [after_concat, Operation.apply, h]

/-- A reset that succeeds with line editing on asks for the terminal itself. -/
theorem asked_of_lineEdit (h : (emu.after history).reset = .ok now)
    (hline : (emu.after history).lineEdit = true) :
    emu.Asked (history ++ [.reset]) history := by
  obtain ⟨program, hprogram, -⟩ := reset_eq_ok.1 h
  have hsome : (emu.after history).program.isSome := by rw [hprogram]; rfl
  exact asked_concat.2 (.inl ⟨rfl, rfl, hline, hsome⟩)

/-- The device that the settings ask for. -/
def askedDevice (emu : Emulator) : Device := if emu.lineEdit then .terminal else .console

/-- The machine of `now` is attached as the settings ask, to the device that line editing selects
and with output to where the console writes. -/
def FollowsSettings (emu now : Emulator) : Prop :=
  now.machine.Attached emu.askedDevice (emu.askedDevice.destination emu.consoleSink)

section

variable (hfresh : emu.terminalKept = false) (hreset : (emu.after history).reset = .ok now)

include hfresh hreset

/-- The terminal is kept exactly if some reset opened it, this one included. -/
theorem terminalKept_iff_opened :
    now.terminalKept = true ↔ ∃ first, emu.OpenedAfter (history ++ [.reset]) first := by
  rw [← after_concat_reset hreset, terminalKept_after hfresh]
  constructor
  · rintro ⟨before, hasked⟩
    exact exists_openedAfter hasked
  · rintro ⟨first, hasked, -⟩
    exact ⟨first, hasked⟩

theorem attached_of_opened {first : List Operation}
    (hfirst : emu.OpenedAfter (history ++ [.reset]) first) :
    now.machine.Attached .terminal (Device.terminal.destination (emu.after first).consoleSink) := by
  rw [← terminalSink_after hfresh hfirst, after_concat_reset hreset]
  exact attached_terminal hreset ((terminalKept_iff_opened hfresh hreset).2 ⟨first, hfirst⟩)

theorem attached_of_not_opened (hnone : ∀ first, ¬ emu.OpenedAfter (history ++ [.reset]) first) :
    now.machine.Attached .console (Device.console.destination (emu.after history).consoleSink) := by
  rw [← not_exists, ← terminalKept_iff_opened hfresh hreset] at hnone
  exact attached_console hreset (by simpa using hnone)

/-- The settings are followed exactly if the terminal has not been opened, or is still what they ask
for. -/
theorem followsSettings_iff :
    (emu.after history).FollowsSettings now ↔
      ∀ first, emu.OpenedAfter (history ++ [.reset]) first →
        (emu.after history).lineEdit = true ∧
          Device.terminal.destination (emu.after first).consoleSink =
            Device.terminal.destination (emu.after history).consoleSink := by
  constructor
  · intro hfollows first hfirst
    have hattached := attached_of_opened hfresh hreset hfirst
    have hdevice : (emu.after history).askedDevice = .terminal :=
      Option.some.inj (hfollows.input.symm.trans hattached.input)
    have hleads := hattached.leads.symm.trans hfollows.leads
    rw [hdevice] at hleads
    refine ⟨?_, hleads⟩
    by_contra hoff
    simp [askedDevice, hoff] at hdevice
  · intro hsettings
    by_cases hopened : ∃ first, emu.OpenedAfter (history ++ [.reset]) first
    · obtain ⟨first, hfirst⟩ := hopened
      obtain ⟨hline, hsink⟩ := hsettings first hfirst
      have hattached := attached_of_opened hfresh hreset hfirst
      rw [hsink] at hattached
      rw [FollowsSettings, askedDevice, if_pos hline]
      exact hattached
    · have hline : ¬ (emu.after history).lineEdit = true := by
        intro hline
        exact hopened (exists_openedAfter (asked_of_lineEdit hreset hline))
      rw [not_exists] at hopened
      rw [FollowsSettings, askedDevice, if_neg hline]
      exact attached_of_not_opened hfresh hreset hopened

end

/-- A reset attaches input, output and debug output to one device, which the history decides. If some
reset since the emulator was closed has found line editing on, this one included, the device is the
terminal, and what is put out goes to where the console wrote when the first of them opened it. If
none has, the device is the console with its present sink. So the settings are followed exactly if
the terminal has not been opened, or line editing is on still and the console writes where it wrote
when the terminal was opened. -/
theorem reset_attaches (hfresh : emu.terminalKept = false)
    (hreset : (emu.after history).reset = .ok now) :
    (∀ first, emu.OpenedAfter (history ++ [.reset]) first →
      now.machine.Attached .terminal (Device.terminal.destination (emu.after first).consoleSink)) ∧
    ((∀ first, ¬ emu.OpenedAfter (history ++ [.reset]) first) →
      now.machine.Attached .console
        (Device.console.destination (emu.after history).consoleSink)) ∧
    ((emu.after history).FollowsSettings now ↔
      ∀ first, emu.OpenedAfter (history ++ [.reset]) first →
        (emu.after history).lineEdit = true ∧
          Device.terminal.destination (emu.after first).consoleSink =
            Device.terminal.destination (emu.after history).consoleSink) ∧
    ∀ token operand mid bytes, Machine.resolve token now.machine = .ok operand mid →
      Machine.shown (operand.get mid.memory.registers) = .ok bytes →
        Machine.perform (.output token) now.machine =
          match now.machine.devices.destination now.machine.output with
          | .nowhere => .ok ⟨⟩ mid
          | .channel c => .ok ⟨⟩ { mid with devices := mid.devices.wrote c bytes }
          | .failing fault => .error fault mid := by
  refine ⟨?_, ?_, followsSettings_iff hfresh hreset, ?_⟩
  · intro first hfirst
    exact attached_of_opened hfresh hreset hfirst
  · intro hnone
    exact attached_of_not_opened hfresh hreset hnone
  · intro token operand mid bytes hres hshown
    exact Machine.perform_output_of_shown hres hshown

def detached : List Operation :=
  [.output (some (.channel .output)), .lineEdit true, .reset, .output none]

theorem reset_attaches_detached :
    ∃ now, ((initial 5).after detached).reset = .ok now ∧
      now.machine.Attached .terminal (.channel .output) ∧
      ¬ ((initial 5).after detached).FollowsSettings now := by
  have hreset : ((initial 5).after detached).reset =
      .ok (((initial 5).after detached).loadedWith .empty) := reset_eq rfl
  have hopened : (initial 5).OpenedAfter (detached ++ [.reset])
      [.output (some (.channel .output)), .lineEdit true] := by
    refine ⟨⟨[.output none, .reset], rfl, by simp, rfl, rfl⟩, ?_⟩
    rintro earlier ⟨between, hhistory, -⟩
    have hmem : Operation.reset ∈ earlier ++ .reset :: between := by simp
    rw [← hhistory] at hmem
    simp at hmem
  obtain ⟨hterminal, -, hfollows, -⟩ := reset_attaches rfl hreset
  refine ⟨_, hreset, hterminal _ hopened, ?_⟩
  rw [hfollows]
  intro hsettings
  obtain ⟨-, hsink⟩ := hsettings _ hopened
  cases hsink

/-- Line editing is turned off after a reset, or the console gets another sink. The next reset does
not attach the machine as the settings ask then. -/
theorem reset_ignores_settings :
    (∃ now, ((initial 5).after [.lineEdit true, .reset, .lineEdit false]).reset = .ok now ∧
      now.machine.input = some .terminal ∧
      ¬ ((initial 5).after [.lineEdit true, .reset, .lineEdit false]).FollowsSettings now) ∧
    ∃ now, ((initial 5).after [.lineEdit true, .reset,
        .output (some (.channel .output))]).reset = .ok now ∧
      now.machine.devices.destination now.machine.output = .channel .standardOutput ∧
      ¬ ((initial 5).after [.lineEdit true, .reset,
        .output (some (.channel .output))]).FollowsSettings now := by
  constructor
  · refine ⟨_, reset_eq rfl, rfl, ?_⟩
    intro hfollows
    cases hfollows.input
  · refine ⟨_, reset_eq rfl, rfl, ?_⟩
    intro hfollows
    cases hfollows.leads

end Emulator

end RegisterMachine

import RegisterMachine.Proofs.Execution

/-!
# Where written bytes go

Writing to an outlet has one of three outcomes, which the attached sinks decide: the bytes are
appended to a channel, they go nowhere, or the write fails. Neither writing nor reading attaches
anything else, and reading writes nothing but the prompt of the terminal.
-/
namespace RegisterMachine

namespace Transcript

def on (t : Transcript) : Channel → Text
  | .output => t.output
  | .debug => t.debug
  | .standardOutput => t.standardOutput

@[simp] theorem on_append_self (t : Transcript) (c : Channel) (bytes : Text) :
    (t.append c bytes).on c = t.on c ++ bytes := by
  cases c <;> rfl

theorem on_append_of_ne (t : Transcript) {c c' : Channel} (h : c' ≠ c) (bytes : Text) :
    (t.append c bytes).on c' = t.on c' := by
  cases c <;> cases c' <;> first | rfl | exact absurd rfl h

end Transcript

/-- What becomes of written bytes. -/
inductive Destination where
  | nowhere
  | channel (c : Channel)
  | failing (fault : Fault)
  deriving DecidableEq, Repr

def Sink.destination : Sink → Destination
  | .channel c => .channel c
  | .broken message => .failing (.device message)

namespace Devices

/-- What becomes of bytes that are written to an outlet. -/
def destination (d : Devices) : Outlet → Destination
  | .discard => .nowhere
  | .sink s => s.destination
  | .device .console =>
      match d.console.sink with
      | .none => .failing .noOutput
      | some s => s.destination
  | .device .terminal => (d.terminal.sink.getD (.channel .standardOutput)).destination

def wrote (d : Devices) (c : Channel) (bytes : Text) : Devices :=
  { d with written := d.written.append c bytes }

/-- The sinks and the prompt are the same. -/
structure SameOutlets (d d' : Devices) : Prop where
  console : d'.console.sink = d.console.sink
  terminal : d'.terminal.sink = d.terminal.sink
  prompt : d'.terminal.prompt = d.terminal.prompt

namespace SameOutlets

theorem refl (d : Devices) : SameOutlets d d := ⟨rfl, rfl, rfl⟩

theorem trans {d d' d'' : Devices} (h : SameOutlets d d') (h' : SameOutlets d' d'') :
    SameOutlets d d'' :=
  ⟨h'.console.trans h.console, h'.terminal.trans h.terminal, h'.prompt.trans h.prompt⟩

theorem destination {d d' : Devices} (h : SameOutlets d d') (outlet : Outlet) :
    d'.destination outlet = d.destination outlet := by
  cases outlet with
  | device device => cases device <;> simp only [Devices.destination, h.console, h.terminal]
  | _ => rfl

end SameOutlets

theorem sameOutlets_wrote (d : Devices) (c : Channel) (bytes : Text) :
    SameOutlets d (d.wrote c bytes) := ⟨rfl, rfl, rfl⟩

/-- The console writes nothing to read a line, and the terminal its prompt at most. -/
theorem readLine_writes (device : Device) (d : Devices) :
    SameOutlets d (d.readLine device).2 ∧
      ((d.readLine device).2.written = d.written ∨ device = .terminal ∧
        (d.readLine device).2.written = d.written.append .standardOutput d.terminal.prompt) := by
  cases device with
  | console =>
      have hkept : SameOutlets d (d.readConsole).2 ∧ (d.readConsole).2.written = d.written := by
        simp only [readConsole]
        repeat' split
        all_goals exact ⟨⟨rfl, rfl, rfl⟩, rfl⟩
      exact ⟨hkept.1, .inl hkept.2⟩
  | terminal =>
      show SameOutlets d (d.readTerminal).2 ∧
        ((d.readTerminal).2.written = d.written ∨ Device.terminal = .terminal ∧
          (d.readTerminal).2.written = d.written.append .standardOutput d.terminal.prompt)
      simp only [readTerminal]
      split
      · exact ⟨.refl d, .inl rfl⟩
      · split
        · exact ⟨.refl d, .inl rfl⟩
        · repeat' split
          all_goals exact ⟨⟨rfl, rfl, rfl⟩, .inr ⟨trivial, rfl⟩⟩

end Devices

namespace Machine

theorem writeTo_apply (outlet : Outlet) (bytes : Text) (m : Machine) :
    writeTo outlet bytes m = match m.devices.destination outlet with
      | .nowhere => .ok ⟨⟩ m
      | .channel c => .ok ⟨⟩ { m with devices := m.devices.wrote c bytes }
      | .failing fault => .error fault m := by
  have hsink (s : Sink) : writeTo (.sink s) bytes m = match s.destination with
      | .nowhere => .ok ⟨⟩ m
      | .channel c => .ok ⟨⟩ { m with devices := m.devices.wrote c bytes }
      | .failing fault => .error fault m := by
    cases s <;> rfl
  cases outlet with
  | discard => rfl
  | sink s => exact hsink s
  | device device =>
      cases device with
      | terminal => exact hsink (m.devices.terminal.sink.getD (.channel .standardOutput))
      | console =>
          simp only [writeTo, Devices.write, Devices.writeConsole, Devices.destination]
          cases m.devices.console.sink with
          | none => rfl
          | some s => exact hsink s

end Machine

end RegisterMachine

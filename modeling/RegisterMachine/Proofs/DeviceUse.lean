import RegisterMachine.Proofs.Device.Writing
import RegisterMachine.Proofs.EffectFrame

/-!
# What instructions do with the devices

An output and a debug instruction write to the channel that their outlet leads to, if it leads to
one, and an input reads a line. Other instructions do not touch the devices, and no instruction
attaches anything. So an outlet leads to the same place for a whole run.
-/
namespace RegisterMachine.Machine

open Stateful

/-- What an instruction makes of the devices. -/
inductive DeviceUse (m : Machine) : Instruction → Devices → Prop
  | idle {inst} : DeviceUse m inst m.devices
  | output {token bytes c} :
      m.devices.destination m.output = .channel c →
      DeviceUse m (.output token) (m.devices.wrote c bytes)
  | debug {token bytes c} :
      m.devices.destination m.debug = .channel c →
      DeviceUse m (.debug token) (m.devices.wrote c bytes)
  | input {token device} :
      m.input = some device → DeviceUse m (.input token) (m.devices.readLine device).2

theorem devices_writeTo (outlet : Outlet) (bytes : Text) (m : Machine) :
    (endState (writeTo outlet bytes m)).devices = m.devices ∨
      ∃ c, m.devices.destination outlet = .channel c ∧
        (endState (writeTo outlet bytes m)).devices = m.devices.wrote c bytes := by
  rw [writeTo_apply]
  cases m.devices.destination outlet with
  | nowhere => exact .inl rfl
  | channel c => exact .inr ⟨c, rfl, rfl⟩
  | failing fault => exact .inl rfl

theorem put_apply (v : Value) (m : Machine) :
    put v m = match shown v with
      | .ok bytes => writeTo m.output bytes m
      | .error fault => .error fault m := by
  rw [put]
  cases shown v <;> rfl

/-- An output resolves its operand and puts its value out. -/
theorem perform_output {token : Text} {operand : Operand} {m mid : Machine}
    (h : resolve token m = .ok operand mid) :
    perform (.output token) m = put (operand.get mid.memory.registers) mid := by
  rw [perform, bind_of_ok h, valueOf_bind_apply]

theorem devices_put (v : Value) (m : Machine) :
    (endState (put v m)).devices = m.devices ∨
      ∃ c bytes, m.devices.destination m.output = .channel c ∧
        (endState (put v m)).devices = m.devices.wrote c bytes := by
  rw [put_apply]
  cases shown v with
  | error fault => exact .inl rfl
  | ok bytes => exact (devices_writeTo m.output bytes m).imp_right fun ⟨c, h⟩ => ⟨c, bytes, h⟩

theorem devices_showState (selector : Value) (m : Machine) :
    (endState (showState selector m)).devices = m.devices ∨
      ∃ c bytes, m.devices.destination m.debug = .channel c ∧
        (endState (showState selector m)).devices = m.devices.wrote c bytes := by
  have hwrite (bytes : Text) : (endState (writeTo m.debug bytes m)).devices = m.devices ∨
      ∃ c bytes', m.devices.destination m.debug = .channel c ∧
        (endState (writeTo m.debug bytes m)).devices = m.devices.wrote c bytes' :=
    (devices_writeTo m.debug bytes m).imp_right fun ⟨c, h⟩ => ⟨c, bytes, h⟩
  rw [showState, get_bind_apply]
  split
  · exact hwrite _
  · split
    · exact hwrite _
    · exact .inl rfl

theorem devices_readLine (m : Machine) :
    (endState (readLine m)).devices = m.devices ∨
      ∃ device, m.input = some device ∧
        (endState (readLine m)).devices = (m.devices.readLine device).2 := by
  cases hinput : m.input with
  | none =>
      simp only [readLine, hinput]
      exact .inl rfl
  | some device =>
      refine .inr ⟨device, rfl, ?_⟩
      simp only [readLine, hinput]
      split <;> rfl

theorem devices_assign (operand : Operand) (v : Value) (m : Machine) :
    (endState (assign operand v m)).devices = m.devices := by
  cases h : assign operand v m with
  | ok u m' =>
      obtain ⟨after, memory, -, rfl⟩ := assign_eq_ok.1 h
      rfl
  | error fault m' =>
      obtain ⟨-, rfl⟩ := assign_eq_error h
      rfl

/-- An instruction that is none of the three leaves the devices alone. -/
theorem deviceUse_of_ne {inst : Instruction} {m : Machine} (hinput : inst.opcode ≠ .input)
    (houtput : inst.opcode ≠ .output) (hdebug : inst.opcode ≠ .debug) :
    DeviceUse m inst (endState (perform inst m)).devices := by
  cases h : perform inst m with
  | ok u m' =>
      obtain ⟨operands, mid, hres, heffect⟩ := perform_eq_ok h
      obtain ⟨-, hmid⟩ := resolveAll_kept hres
      have hdevices := heffect.elsewhere.devices hinput houtput hdebug
      rw [hmid] at hdevices
      exact hdevices ▸ .idle
  | error fault m' =>
      obtain ⟨devices, hdevices, rfl⟩ | ⟨-, -, v, shorter, -, rfl⟩ := perform_residue h
      · exact hdevices hinput houtput hdebug ▸ .idle
      · exact .idle

/-- An instruction uses the devices as its opcode may; what fails at an operand leaves them as they
are. -/
theorem deviceUse_perform (inst : Instruction) (m : Machine) :
    DeviceUse m inst (endState (perform inst m)).devices := by
  have hunary {token : Text} {k : Operand → Action PUnit} {inst : Instruction}
      (hk : ∀ operand memory,
        DeviceUse m inst (endState (k operand (m.withMemory memory))).devices) :
      DeviceUse m inst (endState ((resolve token >>= k) m)).devices := by
    cases hres : resolve token m with
    | error fault mid =>
        rw [bind_of_error hres, resolve_eq_error hres]
        exact .idle
    | ok operand mid =>
        obtain ⟨memory, -, rfl⟩ := resolve_eq_ok.1 hres
        rw [bind_of_ok hres]
        exact hk operand memory
  cases inst with
  | output token =>
      refine hunary fun operand memory => ?_
      rw [valueOf_bind_apply]
      obtain h | ⟨c, bytes, hdest, h⟩ := devices_put _ (m.withMemory memory)
      · exact h ▸ .idle
      · exact h ▸ .output hdest
  | debug token =>
      refine hunary fun operand memory => ?_
      rw [valueOf_bind_apply]
      obtain h | ⟨c, bytes, hdest, h⟩ := devices_showState _ (m.withMemory memory)
      · exact h ▸ .idle
      · exact h ▸ .debug hdest
  | input token =>
      refine hunary fun operand memory => ?_
      have hassign :
          (endState ((do let line ← readLine; assign operand (.text line))
            (m.withMemory memory))).devices =
          (endState (readLine (m.withMemory memory))).devices := by
        rw [bind_apply]
        cases readLine (m.withMemory memory) with
        | error fault last => rfl
        | ok line last => exact devices_assign operand _ last
      rw [hassign]
      obtain h | ⟨device, hinput, h⟩ := devices_readLine (m.withMemory memory)
      · exact h ▸ .idle
      · exact h ▸ .input hinput
  | _ => exact deviceUse_of_ne nofun nofun nofun

theorem DeviceUse.sameOutlets {m : Machine} {inst : Instruction} {d : Devices}
    (h : DeviceUse m inst d) : m.devices.SameOutlets d := by
  cases h with
  | idle => exact .refl _
  | output _ => exact Devices.sameOutlets_wrote _ _ _
  | debug _ => exact Devices.sameOutlets_wrote _ _ _
  | @input _ device _ => exact (Devices.readLine_writes device m.devices).1

/-- The outlets and the input are the same, and what is attached to the devices is too. -/
structure Wired (m m' : Machine) : Prop where
  input : m'.input = m.input
  output : m'.output = m.output
  debug : m'.debug = m.debug
  outlets : m.devices.SameOutlets m'.devices

namespace Wired

theorem refl (m : Machine) : Wired m m := ⟨rfl, rfl, rfl, .refl _⟩

theorem trans {m m' m'' : Machine} (h : Wired m m') (h' : Wired m' m'') : Wired m m'' :=
  ⟨h'.input.trans h.input, h'.output.trans h.output, h'.debug.trans h.debug,
    h.outlets.trans h'.outlets⟩

/-- The output leads to the same place. -/
theorem destination_output {m m' : Machine} (h : Wired m m') :
    m'.devices.destination m'.output = m.devices.destination m.output := by
  rw [h.output, h.outlets.destination]

theorem destination_debug {m m' : Machine} (h : Wired m m') :
    m'.devices.destination m'.debug = m.devices.destination m.debug := by
  rw [h.debug, h.outlets.destination]

end Wired

theorem wired_perform (inst : Instruction) (m : Machine) :
    Wired m (endState (perform inst m)) := by
  have houtlets := (deviceUse_perform inst m).sameOutlets
  obtain ⟨memory, running, slept, devices, h⟩ := endState_perform_eq inst m
  rw [h] at houtlets ⊢
  exact ⟨rfl, rfl, rfl, houtlets⟩

theorem wired_entered (m : Machine) (i : Int64) (inst : Instruction) :
    Wired m (m.entered i inst) ∧ (m.entered i inst).devices = m.devices := by
  rw [entered_eq]
  exact ⟨⟨rfl, rfl, rfl, .refl _⟩, rfl⟩

theorem wired_tick (m : Machine) : Wired m (endState (tick m)) := by
  cases hn : m.nextIndex with
  | error fault =>
      rw [endState_tick_of_error hn]
      exact .refl m
  | ok i =>
      obtain ⟨inst, hx⟩ := exists_executes hn
      obtain ⟨slept, running, ticks, h⟩ := endState_tick_eq hx
      have hperform := (wired_entered m i inst).1.trans (wired_perform inst _)
      rw [h]
      exact ⟨hperform.input, hperform.output, hperform.debug, hperform.outlets⟩

theorem wired_afterTicks (m : Machine) (n : Nat) : Wired m (m.afterTicks n) :=
  afterTicks_induction (.refl m) (fun m' h => h.trans (wired_tick m')) n

/-- What a tick does with the devices is what its instruction does. -/
theorem devices_endState_tick {m : Machine} {i : Int64} {inst : Instruction}
    (hx : m.Executes i inst) :
    (endState (tick m)).devices = (endState (perform inst (m.entered i inst))).devices := by
  obtain ⟨slept, running, ticks, h⟩ := endState_tick_eq hx
  rw [h]

/-- No instruction of the program but an output writes to the channel: not a debug instruction,
and not an input, by the prompt of the terminal. -/
structure OutputsOnly (c : Channel) (m : Machine) : Prop where
  debug : m.devices.destination m.debug = .channel c → ∀ inst ∈ m.code, inst.opcode ≠ .debug
  prompt : c = .standardOutput → m.input = some .terminal → m.devices.terminal.prompt ≠ [] →
    ∀ inst ∈ m.code, inst.opcode ≠ .input

theorem OutputsOnly.afterTicks {c : Channel} {m : Machine} (h : OutputsOnly c m) (n : Nat) :
    OutputsOnly c (m.afterTicks n) := by
  have hwired := wired_afterTicks m n
  constructor
  · rw [hwired.destination_debug, (steady_afterTicks m n).code]
    exact h.debug
  · rw [hwired.input, hwired.outlets.prompt, (steady_afterTicks m n).code]
    exact h.prompt

/-- An instruction of the program that is no output writes nothing to such a channel. -/
theorem OutputsOnly.on_eq {c : Channel} {m : Machine} (h : OutputsOnly c m) {i : Int64}
    {inst : Instruction} (hx : m.Executes i inst) (hop : inst.opcode ≠ .output) :
    (endState (tick m)).devices.written.on c = m.devices.written.on c := by
  have hmem : inst ∈ m.code := Array.mem_of_getElem? hx.2
  obtain ⟨hwired, hdevices⟩ := wired_entered m i inst
  have huse := deviceUse_perform inst (m.entered i inst)
  rw [← devices_endState_tick hx] at huse
  generalize (endState (tick m)).devices = d at huse
  cases huse with
  | idle => rw [hdevices]
  | output _ => exact absurd rfl hop
  | @debug _ bytes c' hdest =>
      rw [hwired.destination_debug] at hdest
      have hne : c ≠ c' := by
        rintro rfl
        exact h.debug hdest _ hmem rfl
      rw [hdevices]
      exact Transcript.on_append_of_ne _ hne bytes
  | @input _ device hinput =>
      rw [hwired.input] at hinput
      rw [hdevices]
      obtain hnone | ⟨rfl, hprompt⟩ := (m.devices.readLine_writes device).2
      · rw [hnone]
      · rw [hprompt]
        by_cases hc : c = .standardOutput
        · subst hc
          have hempty : m.devices.terminal.prompt = [] :=
            Decidable.byContradiction fun hne => h.prompt rfl hinput hne _ hmem rfl
          rw [hempty, Transcript.on_append_self, List.append_nil]
        · exact Transcript.on_append_of_ne _ hc _

end RegisterMachine.Machine

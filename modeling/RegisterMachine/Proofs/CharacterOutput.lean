import RegisterMachine.Proofs.DeviceUse
import RegisterMachine.Proofs.PauseTrace
import RegisterMachine.Proofs.Text.Units

/-!
# Character output

An integer is put out as the character with that code, if it is a Unicode scalar value, and
refused otherwise. What the instructions of a run put out can be read back from the bytes: the
encodings of the characters, one after another, are told apart, so a reader of the channel finds
the integers again.
-/
namespace RegisterMachine

open Text (ofString)

/-- The integer is a Unicode scalar value: a code point that is no surrogate. -/
def Value.IsScalar (n : Int64) : Prop :=
  0 ≤ n.toInt ∧ n.toInt ≤ 0x10FFFF ∧ ¬ (0xD800 ≤ n.toInt ∧ n.toInt ≤ 0xDFFF)

instance : DecidablePred Value.IsScalar := fun _ => inferInstanceAs (Decidable (_ ∧ _))

namespace Machine

open Stateful

def characterOf (n : Int64) : Char := Char.ofNat n.toNatClampNeg

theorem shown_integer (n : Int64) :
    shown (.integer n) = if Value.IsScalar n then .ok (String.utf8EncodeChar (characterOf n))
      else .error (.codePoint n) := by
  have hneg : n < 0 ↔ n.toInt < 0 := by simp [Int64.lt_iff_toInt_lt]
  have hclamp : n.toNatClampNeg = n.toInt.toNat := n.toNat_toInt.symm
  have hiff : (n < 0 || !Text.isScalar n.toNatClampNeg) = true ↔ ¬ Value.IsScalar n := by
    simp only [Bool.or_eq_true, decide_eq_true_eq, Bool.not_eq_true', Text.isScalar,
      Bool.or_eq_false_iff, decide_eq_false_iff_not, Bool.and_eq_false_iff, hneg, hclamp,
      Value.IsScalar]
    omega
  by_cases h : Value.IsScalar n
  · rw [shown, if_neg (fun hrefused => hiff.1 hrefused h), if_pos h, characterOf]
  · rw [shown, if_pos (hiff.2 h), if_neg h]

/-- The code of the character is the integer again. -/
theorem toNat_characterOf {n : Int64} (h : Value.IsScalar n) :
    ((characterOf n).toNat : Int) = n.toInt := by
  obtain ⟨hlow, hhigh, hsurrogate⟩ := h
  have hclamp : n.toNatClampNeg = n.toInt.toNat := n.toNat_toInt.symm
  have hvalid : n.toNatClampNeg.isValidChar := by
    rw [hclamp, Nat.isValidChar]
    omega
  have hcode : (characterOf n).toNat = n.toNatClampNeg := Text.toNat_ofNat hvalid
  rw [hcode, hclamp]
  omega

def shownBytes (ns : List Int64) : Text :=
  ns.flatMap fun n => String.utf8EncodeChar (characterOf n)

/-- The bytes of scalar values are well-formed, and the codes of their characters are those
values. -/
theorem decoded_shownBytes {ns : List Int64} (h : ∀ n ∈ ns, Value.IsScalar n) :
    Text.isUtf8 (shownBytes ns) ∧
      (Text.characters (shownBytes ns)).map (fun c => (c.toNat : Int)) = ns.map Int64.toInt := by
  induction ns with
  | nil => exact ⟨by simp [shownBytes, Text.isUtf8], by simp [shownBytes, Text.characters]⟩
  | cons n ns ih =>
      obtain ⟨hutf8, hcodes⟩ := ih fun k hk => h k (List.mem_cons_of_mem _ hk)
      rw [Text.isUtf8] at hutf8
      rw [Text.characters] at hcodes
      rw [shownBytes, List.flatMap_cons, ← shownBytes, Text.isUtf8, Text.characters,
        Text.units_encode, List.all_cons, List.map_cons, List.map_cons, List.map_cons, hcodes,
        toNat_characterOf (h n List.mem_cons_self)]
      exact ⟨hutf8, rfl⟩

/-- The value that an instruction is to put out, if it is an output. -/
def valueToPut (m : Machine) : Instruction → Option Value
  | .output token =>
      match resolve token m with
      | .ok operand mid => some (operand.get mid.memory.registers)
      | .error _ _ => none
  | _ => none

/-- The character of a scalar value is written. -/
theorem put_of_isScalar {n : Int64} (h : Value.IsScalar n) (m : Machine) :
    put (.integer n) m = writeTo m.output (String.utf8EncodeChar (characterOf n)) m := by
  rw [put_apply, shown_integer, if_pos h]

/-- Any other integer is refused, and nothing is written. -/
theorem put_of_not_isScalar {n : Int64} (h : ¬ Value.IsScalar n) (m : Machine) :
    put (.integer n) m = .error (.codePoint n) m := by
  rw [put_apply, shown_integer, if_neg h]

/-- An output that fails has written nothing. -/
theorem devices_of_output_error {token : Text} {fault : Fault} {m m' : Machine}
    (h : perform (.output token) m = .error fault m') : m'.devices = m.devices := by
  cases hres : resolve token m with
  | error cause mid =>
      rw [perform, bind_of_error hres] at h
      cases h
      rw [resolve_eq_error hres]
  | ok operand mid =>
      obtain ⟨memory, -, rfl⟩ := resolve_eq_ok.1 hres
      rw [perform_output hres, put_apply] at h
      split at h
      · rw [writeTo_apply] at h
        split at h <;> cases h
        rfl
      · cases h
        rfl

/-- An output of an integer that succeeds has put out a scalar value; where the output leads to a
channel, its character is appended there. -/
theorem output_integer {token : Text} {n : Int64} {m m' : Machine}
    (h : perform (.output token) m = .ok ⟨⟩ m')
    (hvalue : m.valueToPut (.output token) = some (.integer n)) :
    Value.IsScalar n ∧ ∀ c, m.devices.destination m.output = .channel c →
      m'.devices = m.devices.wrote c (String.utf8EncodeChar (characterOf n)) := by
  cases hres : resolve token m with
  | error fault mid => simp [valueToPut, hres] at hvalue
  | ok operand mid =>
      obtain ⟨memory, -, rfl⟩ := resolve_eq_ok.1 hres
      have hget : operand.get memory.registers = .integer n := by
        simpa [valueToPut, hres] using hvalue
      rw [perform_output hres, withMemory_memory, hget] at h
      by_cases hn : Value.IsScalar n
      · refine ⟨hn, fun c hdest => ?_⟩
        have hdest' : (m.withMemory memory).devices.destination (m.withMemory memory).output =
            .channel c := hdest
        rw [put_of_isScalar hn, writeTo_apply, hdest'] at h
        cases h
        rfl
      · rw [put_of_not_isScalar hn] at h
        cases h

/-- The value that the next instruction puts out, if it is an output. -/
def outValue? (m : Machine) : Option Value := do
  let i ← m.nextIndex.toOption
  let inst ← m.code[i.toNatClampNeg]?
  (m.entered i inst).valueToPut inst

theorem outValue?_of_executes {m : Machine} {i : Int64} {inst : Instruction}
    (hx : m.Executes i inst) : m.outValue? = (m.entered i inst).valueToPut inst := by
  simp [outValue?, hx.1, hx.2, Except.toOption]

/-- A tick that puts out an integer appends the character with that code to the channel of the
output, and does nothing else with the devices. -/
theorem devices_of_outValue? {m m' : Machine} {n : Int64} (h : tick m = .ok ⟨⟩ m')
    (hvalue : m.outValue? = some (.integer n)) :
    Value.IsScalar n ∧ ∀ c, m.devices.destination m.output = .channel c →
      m'.devices = m.devices.wrote c (String.utf8EncodeChar (characterOf n)) := by
  obtain ⟨i, inst, done, hx, hperform, rfl⟩ := tick_eq_ok.1 h
  rw [outValue?_of_executes hx] at hvalue
  obtain ⟨hwired, hentered⟩ := wired_entered m i inst
  cases inst with
  | output token =>
      obtain ⟨hscalar, hwrote⟩ := output_integer hperform hvalue
      have hdevices := devices_endState_tick hx
      rw [h, hperform] at hdevices
      refine ⟨hscalar, fun c hdest => ?_⟩
      rw [← hentered, ← hwrote c (hwired.destination_output.trans hdest)]
      exact hdevices
  | _ => cases hvalue

/-- A tick that puts nothing out writes nothing to a channel that is for outputs only, and neither
does a tick that fails. An output without a value does not find its operand, so it fails too. -/
theorem on_of_no_output {c : Channel} {m : Machine} (hown : OutputsOnly c m)
    (h : m.outValue? = none ∨ (error? (tick m)).isSome) :
    (endState (tick m)).devices.written.on c = m.devices.written.on c := by
  cases hn : m.nextIndex with
  | error fault => rw [endState_tick_of_error hn]
  | ok i =>
      obtain ⟨inst, hx⟩ := exists_executes hn
      obtain ⟨-, hentered⟩ := wired_entered m i inst
      by_cases hop : inst.opcode = .output
      · obtain ⟨token, rfl⟩ : ∃ token, inst = .output token := by
          cases inst <;> cases hop
          exact ⟨_, rfl⟩
        have hfails : ∃ fault m',
            perform (.output token) (m.entered i (.output token)) = .error fault m' := by
          cases hp : perform (.output token) (m.entered i (.output token)) with
          | error fault m' => exact ⟨fault, m', rfl⟩
          | ok u m' =>
              obtain hnone | hfailed := h
              · rw [outValue?_of_executes hx, valueToPut] at hnone
                obtain ⟨operand, mid, hres, -⟩ := bind_eq_ok.1 hp
                rw [hres] at hnone
                cases hnone
              · rw [tick_of_executes hx, hp] at hfailed
                cases hfailed
        obtain ⟨fault, m', hp⟩ := hfails
        rw [devices_endState_tick hx, hp]
        exact congrArg (fun d => d.written.on c)
          ((devices_of_output_error hp).trans hentered)
      · exact hown.on_eq hx hop

/-- The values that the first `n` ticks put out. -/
def putOut (m : Machine) (n : Nat) : List Value := (m.completed n).filterMap outValue?

theorem putOut_succ_of_ok {m m' : Machine} {n : Nat} (h : tick (m.afterTicks n) = .ok ⟨⟩ m') :
    m.putOut (n + 1) = m.putOut n ++ (m.afterTicks n).outValue?.toList := by
  rw [putOut, completed_succ_of_ok h, List.filterMap_append, ← putOut]
  cases h : (m.afterTicks n).outValue? <;> simp [h]

/-- Integers that were put out are scalar values. -/
theorem isScalar_of_putOut {m : Machine} {n : Nat} {k : Int64}
    (h : .integer k ∈ m.putOut n) : Value.IsScalar k := by
  obtain ⟨s, hs, hvalue⟩ := List.mem_filterMap.1 h
  obtain ⟨i, -, rfl, s', htick⟩ := exists_of_mem_completed hs
  exact (devices_of_outValue? htick hvalue).1

/-- A channel for outputs only grows by the characters that were put out. -/
theorem on_afterTicks {c : Channel} {m : Machine} (hown : OutputsOnly c m)
    (hdest : m.devices.destination m.output = .channel c) {n : Nat} {ns : List Int64}
    (h : m.putOut n = ns.map .integer) :
    (m.afterTicks n).devices.written.on c = m.devices.written.on c ++ shownBytes ns := by
  induction n generalizing ns with
  | zero =>
      obtain rfl : ns = [] := List.map_eq_nil_iff.1 h.symm
      exact (List.append_nil _).symm
  | succ n ih =>
      have hown' := hown.afterTicks n
      have hdest' := (wired_afterTicks m n).destination_output.trans hdest
      rw [afterTicks_succ]
      cases htick : tick (m.afterTicks n) with
      | error failure m' =>
          have hsame := on_of_no_output hown' (.inr (by rw [htick]; rfl))
          rw [putOut, completed_succ_of_error htick, ← putOut] at h
          rw [← htick, hsame, ih h]
      | ok u m' =>
          rw [putOut_succ_of_ok htick] at h
          cases hvalue : (m.afterTicks n).outValue? with
          | none =>
              rw [hvalue, Option.toList_none, List.append_nil] at h
              rw [← htick, on_of_no_output hown' (.inl hvalue), ih h]
          | some v =>
              rw [hvalue, Option.toList_some] at h
              obtain ⟨before, last, rfl, hbefore, hlast⟩ := List.map_eq_append_iff.1 h.symm
              obtain ⟨k, rfl, rfl⟩ := List.map_eq_singleton_iff.1 hlast
              obtain ⟨-, hwrote⟩ := devices_of_outValue? htick hvalue
              show m'.devices.written.on c = _
              rw [hwrote c hdest', Devices.wrote, Transcript.on_append_self, ih hbefore.symm,
                List.append_assoc]
              simp [shownBytes]

/-- An output of an integer writes the character with that code if the integer is a Unicode scalar
value, and otherwise is refused and writes nothing. So if all values that the ticks of a run put
out are integers, their bytes are well-formed and read as exactly these integers. Where the output
leads to a channel, each of the outputs appends its character there, and these bytes are all that
the channel gains if only outputs write to it. -/
theorem output_reads_back (m : Machine) :
    (∀ token operand mid k, resolve token m = .ok operand mid →
      operand.get mid.memory.registers = .integer k →
        (Value.IsScalar k → ((characterOf k).toNat : Int) = k.toInt ∧
          perform (.output token) m =
            writeTo m.output (String.utf8EncodeChar (characterOf k)) mid ∧
          ∀ c, m.devices.destination m.output = .channel c → perform (.output token) m = .ok ⟨⟩
            { mid with devices :=
                m.devices.wrote c (String.utf8EncodeChar (characterOf k)) }) ∧
        (¬ Value.IsScalar k → perform (.output token) m = .error (.codePoint k) mid)) ∧
    (∀ token fault m', perform (.output token) m = .error fault m' → m'.devices = m.devices) ∧
    (∀ n ns, m.putOut n = ns.map .integer →
      Text.isUtf8 (shownBytes ns) ∧
      (Text.characters (shownBytes ns)).map (fun c => (c.toNat : Int)) = ns.map Int64.toInt ∧
      ∀ c, m.devices.destination m.output = .channel c →
        (∀ s ∈ m.completed n, ∀ k, s.outValue? = some (.integer k) →
          (endState (tick s)).devices = s.devices.wrote c (shownBytes [k])) ∧
        (OutputsOnly c m →
          (m.afterTicks n).devices.written.on c = m.devices.written.on c ++ shownBytes ns)) ∧
    ∀ fuel, ∃ n ≤ fuel, ∃ running, (m.run fuel).2 = { m.afterTicks n with running } := by
  refine ⟨fun token operand mid k hres hget => ⟨fun hk => ?_, fun hk => ?_⟩,
    fun token fault m' => devices_of_output_error, fun n ns hvalues => ?_,
    fun fuel => run_eq_afterTicks fuel m⟩
  · obtain ⟨memory, -, rfl⟩ := resolve_eq_ok.1 hres
    have hperform : perform (.output token) m =
        writeTo m.output (String.utf8EncodeChar (characterOf k)) (m.withMemory memory) := by
      rw [perform_output hres, hget, put_of_isScalar hk]
      rfl
    refine ⟨toNat_characterOf hk, hperform, fun c hdest => ?_⟩
    have hdest' : (m.withMemory memory).devices.destination m.output = .channel c := hdest
    rw [hperform, writeTo_apply, hdest']
    rfl
  · rw [perform_output hres, hget, put_of_not_isScalar hk]
  · have hscalar : ∀ k ∈ ns, Value.IsScalar k := fun k hk =>
      isScalar_of_putOut (hvalues ▸ List.mem_map_of_mem hk)
    obtain ⟨hutf8, hcodes⟩ := decoded_shownBytes hscalar
    refine ⟨hutf8, hcodes, fun c hdest => ⟨fun s hs k hvalue => ?_, fun hown => ?_⟩⟩
    · obtain ⟨i, -, rfl, s', htick⟩ := exists_of_mem_completed hs
      obtain ⟨-, hwrote⟩ := devices_of_outValue? htick hvalue
      have hdest' := (wired_afterTicks m i).destination_output.trans hdest
      rw [htick, shownBytes, List.flatMap_singleton]
      exact hwrote c hdest'
    · exact on_afterTicks hown hdest hvalues

def printing : Machine :=
  { initial .empty 1 with
    code := #[.output (ofString "931"), .output (ofString "55296"),
      .output (ofString "4294967403"), .output (ofString "107")]
    output := .sink (.channel .output) }

theorem output_reads_back_printing :
    perform (.output (ofString "931")) printing =
        .ok ⟨⟩ { printing with devices := printing.devices.wrote .output [0xCE, 0xA3] } ∧
      perform (.output (ofString "55296")) printing = .error (.codePoint 55296) printing ∧
      perform (.output (ofString "4294967403")) printing =
        .error (.codePoint 4294967403) printing ∧
      printing.putOut 4 = [.integer 931, .integer 107] ∧
      (printing.afterTicks 4).devices.written.output = [0xCE, 0xA3, 0x6B] ∧
      (Text.characters [0xCE, 0xA3, 0x6B]).map (fun c => (c.toNat : Int)) = [931, 107] := by
  have hvalues : printing.putOut 4 = [931, 107].map .integer := by decide +kernel
  have hown : OutputsOnly .output printing := ⟨nofun, nofun⟩
  obtain ⟨hone, -, hrun, -⟩ := output_reads_back printing
  obtain ⟨hletter, -⟩ := hone (ofString "931") (.constant (.integer 931)) printing 931 rfl rfl
  obtain ⟨-, hsurrogate⟩ :=
    hone (ofString "55296") (.constant (.integer 55296)) printing 55296 rfl rfl
  obtain ⟨-, hbeyond⟩ :=
    hone (ofString "4294967403") (.constant (.integer 4294967403)) printing 4294967403 rfl rfl
  obtain ⟨-, hcodes, hchannel⟩ := hrun 4 [931, 107] hvalues
  exact ⟨(hletter (by decide)).2.2 .output rfl, hsurrogate (by decide), hbeyond (by decide),
    hvalues, (hchannel .output rfl).2 hown, hcodes⟩

end Machine

end RegisterMachine

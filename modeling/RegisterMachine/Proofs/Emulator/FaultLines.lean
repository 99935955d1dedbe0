import RegisterMachine.Proofs.Assembler.Layout
import RegisterMachine.Proofs.Emulator.Ticks

/-!
# Faults name their source line

The emulator finds the source line of a fault before the tick, from the instruction pointer; the
machine finds the instruction in its own way, and both wrap past the end of the program. The two
agree: a failing instruction is named together with the line that it was assembled from, and a
fault without an instruction has line zero.
-/
namespace RegisterMachine

open Text (ofString)
open LineContent (isInstruction)

namespace Machine

/-- Why there is no next instruction. -/
inductive FetchFault (m : Machine) : Fault → Prop
  | empty : m.code = #[] → FetchFault m .programEmpty
  | text {t : Text} : m.code ≠ #[] → m.memory.registers.ip = .text t →
      FetchFault m (.registerKind .ip)
  | negative {ip : Int64} : m.code ≠ #[] → m.memory.registers.ip = .integer ip → ip < 0 →
      FetchFault m (.ipRange ip)

theorem fetchFault_of_nextIndex {m : Machine} {fault : Fault} (h : m.nextIndex = .error fault) :
    FetchFault m fault := by
  by_cases hcode : m.code = #[]
  · rw [nextIndex_of_empty hcode] at h
    cases h
    exact .empty hcode
  cases hip : m.memory.registers.ip with
  | text t =>
      rw [nextIndex_of_text hcode hip] at h
      cases h
      exact .text hcode hip
  | integer ip =>
      rw [nextIndex_of_integer hcode hip] at h
      by_cases hend : (m.code.size : Int) ≤ ip.toInt
      · simp [wrapped, hend] at h
      · rw [wrapped, if_neg hend] at h
        by_cases hneg : ip < 0
        · rw [if_pos hneg] at h
          cases h
          exact .negative hcode hip hneg
        · rw [if_neg hneg] at h; cases h

end Machine

/-- Instruction `i` of the program is `inst`, and was assembled from the line with a number: the
instruction line that has `i` instruction lines above it. -/
structure Program.AssembledFrom (evaluate : Text → Evaluation × Text) (lines : List Text)
    (program : Program) (i : Int64) (inst : Instruction) (number : Int) : Prop where
  lower : 0 ≤ i.toInt
  upper : i.toInt < program.instructions.size
  found : program.instructions[i.toNatClampNeg]? = some inst
  line : ∃ (k : Nat) (text : Text), number = k + 1 ∧ lines[k]? = some text ∧
    isInstruction text ∧ (lines.take k).countP isInstruction = i.toNatClampNeg ∧
    inst.BuiltFrom evaluate text

/-- The line number of an index of a program is the number of the line that the instruction was
assembled from. -/
theorem Program.LaidOut.assembledFrom {evaluate : Text → Evaluation × Text} {entry : Text}
    {lines : List Text} {program : Program} (h : program.LaidOut evaluate entry lines) {i : Int64}
    {inst : Instruction} (hneg : ¬ i < 0)
    (hfound : program.instructions[i.toNatClampNeg]? = some inst) :
    program.AssembledFrom evaluate lines i inst (program.lineNumber i) := by
  have hindex := Memory.natCast_index hneg
  have hlt : i.toNatClampNeg < program.instructions.size :=
    (Array.getElem?_eq_some_iff.1 hfound).1
  obtain ⟨line, hline⟩ : ∃ line, program.lines[i.toNatClampNeg]? = some line :=
    ⟨_, Array.getElem?_eq_getElem (h.size ▸ hlt)⟩
  have hlist : (Source.instructionLines lines)[i.toNatClampNeg]? = some line := by
    rw [← h.numbered, Array.getElem?_toList, hline]
  obtain ⟨k, hnumber, htext, hinst, hcount⟩ := Source.getElem?_instructionLines hlist
  have hlineNumber : program.lineNumber i = line.number := by
    rw [Program.lineNumber, if_neg hneg, hline]
  refine ⟨by omega, by omega, hfound, k, line.text, ?_, htext, hinst, hcount, ?_⟩
  · rw [hlineNumber, hnumber]
  · exact h.instruction _ inst line hfound hline

namespace Emulator

open Machine (FetchFault wrapped)

/-- What a failing tick of an emulator names: the instruction that was fetched, by its index and in
the form of program text, with the source line; or line zero, if the fetch itself failed. -/
inductive Names (evaluate : Text → Evaluation × Text) (lines : List Text) (program : Program)
    (m : Machine) : Failure → Prop
  | instruction {ip i : Int64} {inst : Instruction} {number : Int} {cause : Fault} :
      Machine.fetch m = .ok i (m.atIp i) →
      m.memory.registers.ip = .integer ip → i = wrapped program.instructions.size ip →
      program.AssembledFrom evaluate lines i inst number →
      Names evaluate lines program m
        ⟨[.runtime number, .instruction i inst.disassemble], cause⟩
  | fetch {cause : Fault} :
      Machine.fetch m = .error cause m → FetchFault m cause →
      Names evaluate lines program m ⟨[.runtime 0], cause⟩

/-- A fault of the fetch has no source line. -/
theorem lineNumber_of_fetchFault {program : Program} {emu : Emulator} (h : emu.Loaded program)
    (hsize : program.instructions.size = program.lines.size) {cause : Fault}
    (hfault : FetchFault emu.machine cause) : emu.lineNumber = 0 := by
  have hnegative {ip : Int64} (hneg : ip < 0) : lineNumberIn program ip = 0 := by
    have hend : ¬ (program.instructions.size : Int) ≤ ip.toInt := by
      rw [Int64.lt_iff_toInt_lt, Int64.toInt_zero] at hneg
      omega
    rw [lineNumberIn, if_neg hend, Program.lineNumber, if_pos hneg]
  rw [lineNumber, h.held]
  cases hfault with
  | empty hcode =>
      have hlines : program.lines = #[] := by
        rw [← Array.size_eq_zero_iff, ← hsize, ← h.code, hcode]
        rfl
      show program.lineNumber _ = 0
      simp [Program.lineNumber, hlines]
  | text _ hip =>
      have hminus : emu.ip = -1 := by rw [Emulator.ip, hip]
      rw [hminus]
      exact hnegative (by decide)
  | @negative ip _ hip hneg =>
      have hsame : emu.ip = ip := by rw [Emulator.ip, hip]
      rw [hsame]
      exact hnegative hneg

/-- Where an instruction can be fetched, the line is that of its index. -/
theorem lineNumber_of_nextIndex {program : Program} {emu : Emulator} (h : emu.Loaded program)
    {i : Int64} (hnext : emu.machine.nextIndex = .ok i) :
    emu.lineNumber = program.lineNumber i := by
  obtain ⟨-, -, ip, hip, rfl⟩ := Machine.nextIndex_eq_ok hnext
  have hsame : emu.ip = ip := by rw [Emulator.ip, hip]
  rw [lineNumber, h.held, h.code, ← hsame]
  rfl

/-- Inside a failing tick of the emulator is a failing tick of its machine. -/
theorem tick_eq_failed {emu : Emulator} {failure : Failure}
    (hverbose : emu.machine.verbose = emu.verbose) (h : emu.tick.1 = .failed failure) :
    ∃ inner machine, Machine.tick emu.machine = .error inner machine ∧
      failure = inner.within (.runtime emu.lineNumber) := by
  obtain ⟨-, htick⟩ | ⟨-, machine, -, htick⟩ | ⟨-, inner, machine, hmachine, htick⟩ :=
    tick_cases hverbose
  · rw [htick] at h
    cases h
  · rw [htick] at h
    cases hgoing : machine.running <;> simp [hgoing] at h
  · rw [htick] at h
    cases h
    exact ⟨inner, machine, hmachine, rfl⟩

/-- After a reset with an assembled program and any number of ticks, a tick that fails names the
instruction that was fetched, in the form of program text, and the line of the text that this
instruction was assembled from; if no instruction could be fetched, it names line zero. -/
theorem fault_names_its_line {evaluate : Evaluator} {asm : Assembler} {reader : Reader}
    {program : Program} {emu loaded : Emulator} {n : Nat} {failure : Failure}
    (hparse : (asm.parse evaluate reader).1 = .ok program) (hprogram : emu.program = some program)
    (hreset : emu.reset = .ok loaded) (hfail : (loaded.afterTicks n).tick.1 = .failed failure) :
    Names (evaluate (Assembler.environment asm.predefined program.labels))
      (Source.textLines reader.pending) program (loaded.afterTicks n).machine failure := by
  have hlaid := Assembler.laidOut_of_parse hparse
  rw [Source.lines_ofReader (Assembler.parse_eq_ok.1 hparse).2.1] at hlaid
  have hloaded : (loaded.afterTicks n).Loaded program := by
    rw [reset_eq hprogram] at hreset
    cases hreset
    exact (loaded_loadedWith hprogram).afterTicks n
  obtain ⟨inner, machine, htick, rfl⟩ := tick_eq_failed hloaded.verbose hfail
  obtain ⟨cause, hnext, rfl⟩ | ⟨i, inst, cause, hx, rfl⟩ := Machine.tick_eq_error htick
  · have hfault := Machine.fetchFault_of_nextIndex hnext
    have hfetch : Machine.fetch (loaded.afterTicks n).machine =
        .error cause (loaded.afterTicks n).machine := by rw [Machine.fetch_apply, hnext]
    rw [lineNumber_of_fetchFault hloaded hlaid.size hfault]
    exact .fetch hfetch hfault
  · obtain ⟨-, hneg, ip, hip, hwrapped⟩ := Machine.nextIndex_eq_ok hx.1
    have hfound := hx.2
    rw [hloaded.code] at hwrapped hfound
    rw [lineNumber_of_nextIndex hloaded hx.1]
    exact .instruction (by rw [Machine.fetch_apply, hx.1]) hip hwrapped
      (hlaid.assembledFrom hneg hfound)

def poppingText : Text := ofString "// pops\n!_start\n\npop:rax"

theorem fault_names_its_line_popping :
    let evaluate : Evaluator := fun _ _ => (.failed, [])
    ∃ program loaded, (Assembler.initial.parse evaluate (Reader.ofText poppingText)).1 =
        .ok program ∧
      { Emulator.initial 1 with program := some program }.reset = .ok loaded ∧
      (loaded.afterTicks 1).machine.memory.registers.ip = .integer 1 ∧
      (loaded.afterTicks 1).tick.1 =
        .failed ⟨[.runtime 4, .instruction 0 (ofString "pop:rax")], .stackUnderflow⟩ ∧
      Names (evaluate (Assembler.environment Assembler.initial.predefined program.labels))
        (Source.textLines poppingText) program (loaded.afterTicks 1).machine
        ⟨[.runtime 4, .instruction 0 (ofString "pop:rax")], .stackUnderflow⟩ := by
  intro evaluate
  let program : Program := ⟨#[.pop (ofString "rax")], #[⟨4, ofString "pop:rax"⟩],
    .ofPairs [(ofString "_start", 0)], 0⟩
  let emu := { Emulator.initial 1 with program := some program }
  have hparse : (Assembler.initial.parse evaluate (Reader.ofText poppingText)).1 =
      .ok program := by decide +kernel
  have hreset : emu.reset = .ok (emu.loadedWith program) := reset_eq rfl
  have hfail : ((emu.loadedWith program).afterTicks 1).tick.1 =
      .failed ⟨[.runtime 4, .instruction 0 (ofString "pop:rax")], .stackUnderflow⟩ := by decide
  exact ⟨program, _, hparse, hreset, rfl, hfail, fault_names_its_line hparse rfl hreset hfail⟩

end Emulator

end RegisterMachine

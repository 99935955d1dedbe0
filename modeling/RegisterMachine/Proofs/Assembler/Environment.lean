import RegisterMachine.Emulator
import RegisterMachine.Proofs.Assembler.Constants
import RegisterMachine.Proofs.Assembler.Outcome

/-!
# What names mean in expressions

All expressions of a text are evaluated with the same names, wherever in the text they stand: the
labels of the whole text, then the extra constants of the emulator, then the constants of the
machine. The constants and the labels are handed over as sequences of pairs, in which a later pair
hides an earlier one of the same name; in which order each table yields its pairs makes no
difference.
-/
namespace RegisterMachine

open Text (ofString)
open Source (Declares Faultless LineFaultAt)

namespace Emulator

/-- The constants that every machine has, in the order in which they are written down. -/
def machinePairs (emu : Emulator) : List (Text × Int64) :=
  [(ofString "STACK_CELLS", emu.machine.cells), (ofString "SPEED", emu.machine.speed),
    (ofString "GENERAL_COUNT", Int64.ofNat Register.generalCount)]

def machineConstants (emu : Emulator) : NameTable := .ofPairs emu.machinePairs

/-- The constants as one sequence: those of the machine in some order, then the extra ones in some
order. -/
def YieldsDefines (emu : Emulator) (pairs : List (Text × Int64)) : Prop :=
  ∃ machine extra, emu.machineConstants.Yields machine ∧ emu.defined.Yields extra ∧
    pairs = concatPairs none [machine, extra]

variable {emu : Emulator}

theorem yieldsDefines_defines (emu : Emulator) : emu.YieldsDefines emu.defines := by
  have hnames : (NameTable.empty.names ++ emu.machinePairs.map (·.1)).Nodup := by
    show [ofString "STACK_CELLS", ofString "SPEED", ofString "GENERAL_COUNT"].Nodup
    decide
  refine ⟨emu.machinePairs, emu.defined.entries, ?_, .refl _, ?_⟩
  · exact (NameTable.insertAll_perm hnames).symm
  · simp [concatPairs, defines, machinePairs]

/-- In any order, extra constants hide those of the machine, and these hide what was there before. -/
theorem find?_insertAll_defines {pairs : List (Text × Int64)} (hpairs : emu.YieldsDefines pairs)
    (table : NameTable) (name : Text) :
    (table.insertAll pairs).find? name =
      (emu.defined.find? name).or ((emu.machineConstants.find? name).or (table.find? name)) := by
  obtain ⟨machine, extra, hmachine, hextra, rfl⟩ := hpairs
  rw [concatPairs, List.flatten_cons, List.flatten_singleton, NameTable.insertAll_append,
    NameTable.find?_insertAll_of_yields hextra, NameTable.find?_insertAll_of_yields hmachine]

end Emulator

namespace Assembler

variable {emu : Emulator} {asm : Assembler} {evaluate : Evaluator} {reader : Reader}

/-- All orders of the constants make the same assembler. -/
theorem predefineAll_defines {pairs : List (Text × Int64)} (hpairs : emu.YieldsDefines pairs) :
    asm.predefineAll pairs = asm.predefineAll emu.defines := by
  have hsame : asm.predefined.insertAll pairs = asm.predefined.insertAll emu.defines := by
    refine NameTable.ext_find? fun name => ?_
    rw [Emulator.find?_insertAll_defines hpairs,
      Emulator.find?_insertAll_defines emu.yieldsDefines_defines]
  rw [predefineAll_eq, predefineAll_eq, hsame]

/-- Constants and labels in any order, the labels behind the constants, make up the names. -/
theorem ofPairs_concat_eq_namesOf {constants labels : List (Text × Int64)}
    (hconstants : asm.predefined.Yields constants)
    (hlabels : (asm.parse evaluate reader).2.labels.Yields labels) :
    NameTable.ofPairs (concatPairs none [constants, labels]) = asm.namesOf evaluate reader := by
  rw [concatPairs, List.flatten_cons, List.flatten_singleton, NameTable.ofPairs,
    NameTable.insertAll_append, ← NameTable.ofPairs, NameTable.ofPairs_of_yields hconstants]
  exact NameTable.insertAll_eq_of_yields hlabels (.refl _)

/-- Parsing asks an evaluator for values under these names only. -/
theorem parse_of_evaluate_eq {evaluate' : Evaluator}
    (h : evaluate' (asm.namesOf evaluate reader) = evaluate (asm.namesOf evaluate reader)) :
    asm.parse evaluate' reader = asm.parse evaluate reader := by
  rw [namesOf, labels_parse] at h
  simp only [parse, draft_cleared, finish, h]

/-- A text of which some expression is evaluated has no fault in the first pass. -/
theorem ReachesSecondPass.faultless (h : asm.ReachesSecondPass reader) :
    Faultless (Source.ofReader reader).lines := by
  obtain hnone | ⟨i, line, fault, hfirst⟩ :=
    Source.none_or_first (LineFaultAt (Source.ofReader reader).lines)
  · exact hnone
  · obtain ⟨draft, hadd, -⟩ := Draft.addLines_of_fault hfirst
    have hlines := h.lines
    rw [hadd] at hlines
    cases hlines

theorem find?_labels_parse (h : Faultless (Source.ofReader reader).lines) {name : Text}
    {index : Int64} : (asm.parse evaluate reader).2.labels.find? name = some index ↔
      Declares (Source.ofReader reader).lines name index := by
  obtain ⟨draft, hadd, hreads⟩ := Draft.addLines_of_faultless h
  rw [labels_parse, hadd]
  exact hreads.find?_labels

/-- What names mean in the expressions of lines: a label of the lines its index, any other name the
extra constant of that name, else the constant of the machine. What is none of these is known only
if the assembler knew it before. -/
structure Knows (emu : Emulator) (asm : Assembler) (lines : List Text) (names : NameTable) :
    Prop where
  label : ∀ name index, Declares lines name index → names.find? name = some index
  extra : ∀ name value, (∀ index, ¬ Declares lines name index) →
    emu.defined.find? name = some value → names.find? name = some value
  machine : ∀ name value, (∀ index, ¬ Declares lines name index) →
    emu.defined.find? name = none → emu.machineConstants.find? name = some value →
    names.find? name = some value
  unknown : ∀ name, (∀ index, ¬ Declares lines name index) → emu.defined.find? name = none →
    emu.machineConstants.find? name = none → names.find? name = asm.predefined.find? name

/-- The names are looked up among the labels, then among the constants. -/
theorem knows_namesOf (h : (asm.predefineAll emu.defines).ReachesSecondPass reader) :
    Knows emu asm (Source.ofReader reader).lines
      ((asm.predefineAll emu.defines).namesOf evaluate reader) := by
  have hfind (name : Text) : ((asm.predefineAll emu.defines).namesOf evaluate reader).find? name =
      (((asm.predefineAll emu.defines).parse evaluate reader).2.labels.find? name).or
        ((emu.defined.find? name).or
          ((emu.machineConstants.find? name).or (asm.predefined.find? name))) := by
    rw [namesOf, environment, predefined_predefineAll,
      NameTable.find?_insertAll_of_yields (.refl _),
      Emulator.find?_insertAll_defines emu.yieldsDefines_defines]
  have hnone {name : Text} (hname : ∀ index, ¬ Declares (Source.ofReader reader).lines name index) :
      ((asm.predefineAll emu.defines).parse evaluate reader).2.labels.find? name = none := by
    rw [Option.eq_none_iff_forall_ne_some]
    exact fun index hlabel => hname index ((find?_labels_parse h.faultless).1 hlabel)
  refine ⟨fun name index hlabel => ?_, fun name value hname hextra => ?_,
    fun name value hname hextra hmachine => ?_, fun name hname hextra hmachine => ?_⟩
  · rw [hfind, (find?_labels_parse h.faultless).2 hlabel, Option.some_or]
  · rw [hfind, hnone hname, hextra, Option.none_or, Option.some_or]
  · rw [hfind, hnone hname, hextra, hmachine, Option.none_or, Option.none_or, Option.some_or]
  · rw [hfind, hnone hname, hextra, hmachine, Option.none_or, Option.none_or, Option.none_or]

/-- An assembler that is given all constants of an emulator, and then any text, evaluates all
expressions of the text with the same names, whatever the order in which constants and labels are
yielded to it or to the evaluator: how it parses depends on the evaluator under these names alone,
and each operand `$(e)` of an accepted text, on whatever line, has the token of the value of `e`
under these names. As soon as expressions are evaluated at all, a name means the label that the text
declares on any line, else the extra constant, else the constant of the machine, and else what it
meant to the assembler before, which is nothing if that had no constants. -/
theorem expressions_share_names (emu : Emulator) (asm : Assembler) (evaluate : Evaluator)
    (reader : Reader) :
    let fed := asm.predefineAll emu.defines
    let names := fed.namesOf evaluate reader
    (∀ pairs, emu.YieldsDefines pairs → asm.predefineAll pairs = fed) ∧
    (∀ constants labels, fed.predefined.Yields constants →
      (fed.parse evaluate reader).2.labels.Yields labels →
      NameTable.ofPairs (concatPairs none [constants, labels]) = names) ∧
    (∀ evaluate' : Evaluator, evaluate' names = evaluate names →
      fed.parse evaluate' reader = fed.parse evaluate reader) ∧
    (∀ program i k line op words e, (fed.parse evaluate reader).1 = .ok program →
      HasExpression reader i line op words k e →
      ∃ (n : Nat) (inst : Instruction) (token : Text), program.lines[n]? = some ⟨i + 1, line⟩ ∧
        program.instructions[n]? = some inst ∧
        Scanned.token e (evaluate names e).1 = .ok token ∧
        (k < op.arity → inst.operands[k]? = some token)) ∧
    (fed.ReachesSecondPass reader → Knows emu asm (Source.ofReader reader).lines names) := by
  intro fed names
  refine ⟨fun pairs => predefineAll_defines, fun constants labels => ofPairs_concat_eq_namesOf,
    fun evaluate' => parse_of_evaluate_eq,
    fun program i k line op words e hparse hexpression => ?_, knows_namesOf⟩
  obtain ⟨n, inst, hline, hinst, hbuild⟩ := hexpression.built hparse
  obtain ⟨-, token, htoken, hoperand⟩ := hexpression.token hbuild
  exact ⟨n, inst, token, hline, hinst, htoken, hoperand⟩

def swift : Emulator :=
  { Emulator.initial 5 with defined := .ofPairs [(ofString "SPEED", 7)] }

def naming : Reader :=
  .ofText (ofString "!_start\npush:$(SPEED)\npush:$(STACK_CELLS)\n!STACK_CELLS\nexit\n")

def namingProgram : Program where
  instructions := #[.push (ofString "7"), .push (ofString "2"), .exit]
  lines := #[⟨2, ofString "push:$(SPEED)"⟩, ⟨3, ofString "push:$(STACK_CELLS)"⟩,
    ⟨5, ofString "exit"⟩]
  labels := .ofPairs [(ofString "STACK_CELLS", 2), (ofString "_start", 0)]
  entry := 0

theorem expressions_share_names_swift :
    let fed := initial.predefineAll swift.defines
    let names := fed.namesOf Expression.evaluate naming
    initial.predefineAll [(ofString "GENERAL_COUNT", 6), (ofString "STACK_CELLS", 5),
        (ofString "SPEED", 100), (ofString "SPEED", 7)] = fed ∧
      names.find? (ofString "STACK_CELLS") = some 2 ∧ names.find? (ofString "SPEED") = some 7 ∧
      names.find? (ofString "GENERAL_COUNT") = some 6 ∧ names.find? (ofString "rate") = none ∧
      (fed.parse Expression.evaluate naming).1 = .ok namingProgram := by
  intro fed names
  have hparse : (fed.parse Expression.evaluate naming).1 = .ok namingProgram := by decide +kernel
  have hreach : fed.ReachesSecondPass naming := reachesSecondPass_of_parse hparse
  obtain ⟨horder, -, -, -, hknows⟩ :=
    expressions_share_names swift initial Expression.evaluate naming
  obtain ⟨hlabel, hextra, hmachine, hunknown⟩ := hknows hreach
  have hdeclares (name : Text) (index : Int64) : namingProgram.labels.find? name = some index ↔
      Declares (Source.ofReader naming).lines name index := by
    obtain ⟨-, -, hfinish⟩ := parse_eq_ok.1 hparse
    obtain ⟨entry, instructions, -, -, hprogram⟩ := finish_eq_ok.1 hfinish
    obtain ⟨draft, hadd, hreads⟩ := Draft.addLines_of_faultless hreach.faultless
    rw [hprogram, hadd]
    exact hreads.find?_labels
  have hundeclared (name : Text) (h : namingProgram.labels.find? name = none) (index : Int64) :
      ¬ Declares (Source.ofReader naming).lines name index := by
    intro hname
    rw [(hdeclares name index).2 hname] at h
    cases h
  refine ⟨horder _ ?_, ?_, ?_, ?_, ?_, hparse⟩
  · exact ⟨[(ofString "GENERAL_COUNT", 6), (ofString "STACK_CELLS", 5), (ofString "SPEED", 100)],
      [(ofString "SPEED", 7)], by unfold NameTable.Yields; decide, .refl _, rfl⟩
  · exact hlabel _ _ ((hdeclares _ _).1 (by decide))
  · exact hextra _ _ (hundeclared _ (by decide)) (by decide)
  · exact hmachine _ _ (hundeclared _ (by decide)) (by decide) (by decide)
  · exact hunknown _ (hundeclared _ (by decide)) (by decide) (by decide)

end Assembler

end RegisterMachine

import RegisterMachine.Proofs.Assembler.FirstPass

/-!
# The layout of an assembled program

An accepted text fixes the program: the instruction lines of the text, in order, are its lines and
its instructions; each label line is one label, which points behind the instruction lines above it.
What an assembler was used for before, its predefined constants and its entry label apart, leaves
no trace in the program.
-/
namespace RegisterMachine

open Text (ofString byte)
open LineContent (isInstruction labelName? opcodeWord operandWords)
open Source (Declares)

namespace Source

/-- The instruction lines among some lines, with their numbers counted from one. -/
def instructionLines (lines : List Text) : List SourceLine :=
  ((lines.zipIdx 1).filter fun p => isInstruction p.1).map fun p => ⟨p.2, p.1⟩

def textLines (t : Text) : List Text := (pieces t).map (·.dropTrailing Text.carriageReturn)

theorem lines_withinLimit {ending : Option Fault} {done ps : List Text}
    (h : (withinLimit ending done ps).fault = none) :
    (withinLimit ending done ps).lines =
      done.reverse ++ ps.map (·.dropTrailing Text.carriageReturn) := by
  induction ps generalizing done with
  | nil => simp [withinLimit]
  | cons p ps ih =>
      rw [withinLimit] at h ⊢
      by_cases hlimit : lineLimit ≤ p.length
      · rw [if_pos hlimit] at h
        cases h
      · rw [if_neg hlimit] at h ⊢
        rw [ih h]
        simp

/-- A reader that ends well has delivered all lines of its text. -/
theorem lines_ofReader {reader : Reader} (h : (ofReader reader).fault = none) :
    (ofReader reader).lines = textLines reader.pending := lines_withinLimit h

theorem pairwise_instructionLines (lines : List Text) :
    (instructionLines lines).Pairwise fun line line' => line.number < line'.number := by
  have hnumbers (n : Nat) : (lines.zipIdx n).Pairwise fun p q => p.2 < q.2 := by
    induction lines generalizing n with
    | nil => simp
    | cons line lines ih =>
        rw [List.zipIdx_cons, List.pairwise_cons]
        refine ⟨fun p hp => ?_, ih (n + 1)⟩
        have hle : n + 1 ≤ p.2 := List.le_snd_of_mem_zipIdx hp
        exact hle
  rw [instructionLines, List.pairwise_map]
  refine ((hnumbers 1).filter _).imp fun {p q} hlt => ?_
  exact Int.ofNat_lt.2 hlt

/-- Entry `j` is the instruction line with `j` instruction lines above it. -/
theorem getElem?_instructionLines {lines : List Text} {j : Nat} {line : SourceLine}
    (h : (instructionLines lines)[j]? = some line) :
    ∃ k : Nat, line.number = k + 1 ∧ lines[k]? = some line.text ∧ isInstruction line.text ∧
      (lines.take k).countP isInstruction = j := by
  have hfrom (start : Nat) {lines : List Text} {j : Nat}
      (h : (((lines.zipIdx start).filter fun p => isInstruction p.1).map
        fun p => (⟨p.2, p.1⟩ : SourceLine))[j]? = some line) :
      ∃ k : Nat, line.number = start + k ∧ lines[k]? = some line.text ∧
        isInstruction line.text ∧ (lines.take k).countP isInstruction = j := by
    induction lines generalizing start j with
    | nil => simp at h
    | cons first rest ih =>
        rw [List.zipIdx_cons, List.filter_cons] at h
        by_cases hinst : isInstruction first
        · rw [if_pos hinst, List.map_cons] at h
          cases j with
          | zero =>
              cases h
              exact ⟨0, by simp, rfl, hinst, rfl⟩
          | succ j =>
              obtain ⟨k, hnumber, hline, htext, hcount⟩ := ih (start + 1) h
              refine ⟨k + 1, by omega, hline, htext, ?_⟩
              rw [List.take_succ_cons, List.countP_cons_of_pos hinst, hcount]
        · rw [if_neg hinst] at h
          obtain ⟨k, hnumber, hline, htext, hcount⟩ := ih (start + 1) h
          refine ⟨k + 1, by omega, hline, htext, ?_⟩
          rw [List.take_succ_cons, List.countP_cons_of_neg hinst, hcount]
  obtain ⟨k, hnumber, hrest⟩ := hfrom 1 h
  exact ⟨k, by omega, hrest⟩

theorem map_line_scannedFrom {lines : List Text}
    (h : ∀ line ∈ lines, isInstruction line → ∃ op : Opcode, opcodeWord line = op.name) :
    (Draft.scannedFrom 0 lines).map (·.line) = instructionLines lines := by
  have hfrom (count : Nat) : (Draft.scannedFrom count lines).map (·.line) =
      ((lines.zipIdx (count + 1)).filter fun p => isInstruction p.1).map
        fun p => ⟨p.2, p.1⟩ := by
    induction lines generalizing count with
    | nil => rfl
    | cons line lines ih =>
        have hrest := ih (fun l hl => h l (List.mem_cons_of_mem _ hl)) (count + 1)
        rw [Draft.scannedFrom, List.zipIdx_cons, List.filter_cons]
        by_cases hinst : isInstruction line
        · obtain ⟨op, hop⟩ := h line (by simp) hinst
          simp [LineContent.ofLine_of_opcode hinst hop, hinst, hrest]
        · split
          · rename_i op words hline
            exact absurd (LineContent.words_of_ofLine hline).1 hinst
          · simp [hinst, hrest]
  exact hfrom 0

end Source

/-- The instruction of a line: its opcode and the first operands of the line, as many as the opcode
consumes, with the expressions among them evaluated. -/
def Instruction.BuiltFrom (evaluate : Text → Evaluation × Text) (line : Text)
    (inst : Instruction) : Prop :=
  opcodeWord line = inst.opcode.name ∧
    ∃ tokens, ((operandWords line).mapM fun word => (Scanned.evaluateWord evaluate word).1) =
        .ok tokens ∧
      inst.opcode.arity ≤ tokens.length ∧ inst.operands = tokens.take inst.opcode.arity

/-- The program is laid out as the lines say, with the label `entry` for its entry. -/
structure Program.LaidOut (evaluate : Text → Evaluation × Text) (entry : Text) (lines : List Text)
    (program : Program) : Prop where
  size : program.instructions.size = program.lines.size
  numbered : program.lines.toList = Source.instructionLines lines
  ascending : program.lines.toList.Pairwise fun line line' => line.number < line'.number
  instruction : ∀ (j : Nat) (inst : Instruction) (line : SourceLine),
    program.instructions[j]? = some inst → program.lines[j]? = some line →
    inst.BuiltFrom evaluate line.text
  label : ∀ name index, program.labels.find? name = some index ↔ Declares lines name index
  distinct : (lines.filterMap labelName?).Nodup
  count : program.labels.entries.length = (lines.filterMap labelName?).length
  index : program.instructions.size < 9223372036854775808 → ∀ name index,
    program.labels.find? name = some index →
    0 ≤ index.toInt ∧ index.toInt ≤ program.instructions.size
  entry : program.labels.find? entry = some program.entry

namespace Source

/-- An index of a label is a number of instruction lines. -/
theorem Declares.bounds {lines : List Text} {name : Text} {index : Int64}
    (h : Declares lines name index) (hfits : lines.countP isInstruction < 9223372036854775808) :
    0 ≤ index.toInt ∧ index.toInt ≤ lines.countP isInstruction := by
  obtain ⟨k, -, rfl⟩ := h
  have hle : (lines.take k).countP isInstruction ≤ lines.countP isInstruction :=
    (List.take_sublist k lines).countP_le
  rw [Int64.toInt_ofNat_of_lt (by omega)]
  omega

end Source

namespace Scanned

/-- Instructions built from scanned lines are aligned with these. -/
theorem forall_getElem?_of_buildAll {evaluate : Text → Evaluation × Text} {scanned : List Scanned}
    {instructions : Array Instruction}
    (h : (buildAll evaluate #[] scanned).1 = .ok instructions) :
    instructions.size = scanned.length ∧
      ∀ (j : Nat) (s : Scanned) (inst : Instruction), scanned[j]? = some s →
        instructions[j]? = some inst → (s.build evaluate).1 = .ok inst := by
  obtain ⟨built, rfl, hmap⟩ := buildAll_eq_ok.1 h
  have hlength := congrArg List.length hmap
  rw [List.length_map, List.length_map] at hlength
  refine ⟨by simp [hlength], fun j s inst hs hinst => ?_⟩
  have hj := congrArg (·[j]?) hmap
  have hbuilt : built[j]? = some inst := by simpa using hinst
  simpa [hs, hbuilt] using hj

/-- What is built from a scanned line is built from the text of the line. -/
theorem builtFrom_of_build {evaluate : Text → Evaluation × Text} {s : Scanned}
    {inst : Instruction} (hline : LineContent.ofLine s.line.text = .ok (.instruction s.op s.words))
    (h : (s.build evaluate).1 = .ok inst) : inst.BuiltFrom evaluate s.line.text := by
  obtain ⟨-, hop, hwords⟩ := LineContent.words_of_ofLine hline
  obtain ⟨tokens, htokens, hmake⟩ := build_eq_ok.1 h
  obtain ⟨hopcode, hoperands, harity⟩ := Instruction.make_eq_ok hmake
  rw [evaluateWords_fst, hwords] at htokens
  rw [← hopcode] at hop hoperands harity
  exact ⟨hop, tokens, htokens, harity, hoperands⟩

end Scanned

namespace Assembler

/-- An accepted text has no line at fault, and the draft of its lines becomes the program. -/
theorem reads_of_parse {evaluate : Evaluator} {asm : Assembler} {reader : Reader}
    {program : Program} (h : (asm.parse evaluate reader).1 = .ok program) :
    ∃ draft, Draft.Reads (Source.ofReader reader).lines draft ∧
      (asm.finish evaluate draft).1 = .ok program := by
  obtain ⟨hlines, -, hfinish⟩ := parse_eq_ok.1 h
  obtain hfaultless | ⟨i, line, fault, hfirst⟩ :=
    Source.none_or_first (Source.LineFaultAt (Source.ofReader reader).lines)
  · obtain ⟨draft, hadd, hreads⟩ := Draft.addLines_of_faultless hfaultless
    rw [hadd] at hfinish
    exact ⟨draft, hreads, hfinish⟩
  · obtain ⟨draft, hadd, -⟩ := Draft.addLines_of_fault hfirst
    rw [hadd] at hlines
    cases hlines

theorem laidOut_of_parse {evaluate : Evaluator} {asm : Assembler} {reader : Reader}
    {program : Program} (h : (asm.parse evaluate reader).1 = .ok program) :
    program.LaidOut (evaluate (environment asm.predefined program.labels)) asm.entry
      (Source.ofReader reader).lines := by
  obtain ⟨draft, hreads, hfinish⟩ := reads_of_parse h
  obtain ⟨entry, instructions, hentry, hbuild, rfl⟩ := finish_eq_ok.1 hfinish
  obtain ⟨hsize, hbuilt⟩ := Scanned.forall_getElem?_of_buildAll hbuild
  have hlines : (draft.scanned.map (·.line)).toList =
      Source.instructionLines (Source.ofReader reader).lines := by
    rw [Array.toList_map, hreads.scanned, Source.map_line_scannedFrom hreads.opcode]
  have hcount : instructions.size = (Source.ofReader reader).lines.countP isInstruction := by
    rw [hsize, Array.length_toList, hreads.size_scanned]
  have hlabel (name : Text) (index : Int64) : draft.labels.find? name = some index ↔
      Declares (Source.ofReader reader).lines name index := hreads.find?_labels
  refine ⟨?_, hlines, ?_, ?_, hlabel, hreads.distinct, ?_, ?_, hentry⟩
  · rw [hsize, Array.length_toList, Array.size_map]
  · rw [hlines]
    exact Source.pairwise_instructionLines _
  · intro j inst line hinst hline
    rw [Array.getElem?_map, Option.map_eq_some_iff] at hline
    obtain ⟨s, hs, rfl⟩ := hline
    have hmem : s ∈ Draft.scannedFrom 0 (Source.ofReader reader).lines := by
      rw [← hreads.scanned, Array.mem_toList_iff]
      exact Array.mem_of_getElem? hs
    have hat : draft.scanned.toList[j]? = some s := by rw [Array.getElem?_toList, hs]
    obtain ⟨-, -, -, hcontent⟩ := Draft.mem_scannedFrom hmem
    exact Scanned.builtFrom_of_build hcontent (hbuilt j s inst hat hinst)
  · rw [hreads.labels, (Source.labelTable_perm hreads.distinct).length_eq,
      ← Source.map_labelsFrom 0, List.length_map]
  · intro hfits name index hfind
    rw [hcount] at hfits ⊢
    exact ((hlabel name index).1 hfind).bounds hfits

/-- One use of an assembler: a parse, or a setting that is changed. -/
inductive Use where
  | parse (reader : Reader)
  | predefine (name : Text) (value : Int64)
  | entryLabel (label : Text)
  | verbose (on : Bool)
  deriving DecidableEq

def Use.isParse : Use → Bool
  | .parse _ => true
  | _ => false

def used (evaluate : Evaluator) (asm : Assembler) : Use → Assembler
  | .parse reader => (asm.parse evaluate reader).2
  | .predefine name value => asm.predefine name value
  | .entryLabel label => { asm with entryLabel := label }
  | .verbose on => { asm with verbose := on }

def after (evaluate : Evaluator) (asm : Assembler) (uses : List Use) : Assembler :=
  uses.foldl (used evaluate) asm

/-- Two assemblers agree on what a program depends on. -/
structure SameSettings (asm asm' : Assembler) : Prop where
  entryLabel : asm.entryLabel = asm'.entryLabel
  predefined : asm.predefined = asm'.predefined

theorem SameSettings.used {asm asm' : Assembler} (h : SameSettings asm asm')
    (evaluate : Evaluator) (use : Use) :
    SameSettings (asm.used evaluate use) (asm'.used evaluate use) := by
  cases use with
  | parse reader => exact ⟨h.entryLabel, h.predefined⟩
  | predefine name value =>
      refine ⟨h.entryLabel, ?_⟩
      show asm.predefined.insert name value = asm'.predefined.insert name value
      rw [h.predefined]
  | entryLabel label => exact ⟨rfl, h.predefined⟩
  | verbose on => exact ⟨h.entryLabel, h.predefined⟩

/-- Parses in between do not change the settings. -/
theorem SameSettings.after {asm asm' : Assembler} (h : SameSettings asm asm')
    (evaluate : Evaluator) (uses : List Use) :
    SameSettings (asm.after evaluate uses)
      (asm'.after evaluate (uses.filter fun use => !use.isParse)) := by
  induction uses generalizing asm asm' with
  | nil => exact h
  | cons use uses ih =>
      rw [Assembler.after, List.foldl_cons, List.filter_cons]
      cases use with
      | parse reader =>
          have hparse : SameSettings (asm.parse evaluate reader).2 asm' :=
            ⟨h.entryLabel, h.predefined⟩
          exact ih hparse
      | predefine name value => exact ih (h.used evaluate (.predefine name value))
      | entryLabel label => exact ih (h.used evaluate (.entryLabel label))
      | verbose on => exact ih (h.used evaluate (.verbose on))

/-- A parse looks at the entry, the constants and the text, and at nothing else. -/
theorem parse_congr (evaluate : Evaluator) {asm asm' : Assembler} {reader reader' : Reader}
    (hentry : asm.entry = asm'.entry) (hpredefined : asm.predefined = asm'.predefined)
    (hpending : reader.pending = reader'.pending) (hending : reader.ending = reader'.ending) :
    (asm.parse evaluate reader).1 = (asm'.parse evaluate reader').1 := by
  have hsource : Source.ofReader reader = Source.ofReader reader' := by
    rw [Source.ofReader, Source.ofReader, hpending, hending]
  have hfinish (draft : Draft) : asm.finish evaluate draft = asm'.finish evaluate draft := by
    rw [finish, finish, hentry, hpredefined]
  simp only [parse, draft_cleared, hsource, hfinish]

/-- Whatever an assembler was used for, an accepted text gives a program that is laid out as the
lines of the text say. The outcome depends on the text, the entry and the predefined constants
alone, and these do not depend on earlier parses. -/
theorem text_determines_program (evaluate : Evaluator) (asm : Assembler) (uses : List Use)
    (reader : Reader) :
    (∀ program, ((asm.after evaluate uses).parse evaluate reader).1 = .ok program →
      program.LaidOut
        (evaluate (environment (asm.after evaluate uses).predefined program.labels))
        (asm.after evaluate uses).entry (Source.textLines reader.pending)) ∧
    (∀ (asm' : Assembler) (uses' : List Use) (reader' : Reader),
      (asm'.after evaluate uses').entry = (asm.after evaluate uses).entry →
      (asm'.after evaluate uses').predefined = (asm.after evaluate uses).predefined →
      reader'.pending = reader.pending → reader'.ending = reader.ending →
      ((asm'.after evaluate uses').parse evaluate reader').1 =
        ((asm.after evaluate uses).parse evaluate reader).1) ∧
    SameSettings (asm.after evaluate uses)
      (asm.after evaluate (uses.filter fun use => !use.isParse)) := by
  refine ⟨fun program h => ?_, fun asm' uses' reader' hentry hpredefined hpending hending => ?_, ?_⟩
  · have hlaid := laidOut_of_parse h
    rwa [Source.lines_ofReader (parse_eq_ok.1 h).2.1] at hlaid
  · exact parse_congr evaluate hentry hpredefined hpending hending
  · have hsame : SameSettings asm asm := ⟨rfl, rfl⟩
    exact hsame.after evaluate uses

def layoutText : Text := ofString "// t\n!a // x\n!s\n\n out:$(a)\n!z"

theorem text_determines_program_after_failure :
    let evaluate : Evaluator := fun names e =>
      ((names.find? e).elim .failed fun n => .integer n.toInt, [])
    let asm := Assembler.initial.after evaluate
      [.parse (Reader.ofText (ofString "!a\n!a")), .entryLabel (ofString "s")]
    ∃ program, (asm.parse evaluate (Reader.ofText layoutText)).1 = .ok program ∧
      program.lines = #[⟨5, ofString " out:$(a)"⟩] ∧
      program.labels.find? (ofString "z") = some 1 ∧
      program.LaidOut (evaluate (environment asm.predefined program.labels)) (ofString "s")
        (Source.textLines layoutText) := by
  intro evaluate asm
  have hparse : (asm.parse evaluate (Reader.ofText layoutText)).1 =
      .ok ⟨#[.output (ofString "0")], #[⟨5, ofString " out:$(a)"⟩],
        .ofPairs [(ofString "a", 0), (ofString "s", 0), (ofString "z", 1)], 0⟩ := by
    decide +kernel
  have hlaid := (text_determines_program evaluate Assembler.initial
    [.parse (Reader.ofText (ofString "!a\n!a")), .entryLabel (ofString "s")]
    (Reader.ofText layoutText)).1 _ hparse
  exact ⟨_, hparse, rfl, by decide, hlaid⟩

end Assembler

end RegisterMachine

import RegisterMachine.Proofs.Assembler.Lines
import RegisterMachine.Proofs.Assembler.Passes
import RegisterMachine.Proofs.Text.Decimal

/-!
# The listing is program text

Without the indexes of its instructions the listing of a program is program text again:
it is accepted and gives the same instructions, labels and entry. The program has to come
from a text without expressions whose instructions have all the operands that they consume
and no others, since neither expressions nor idle operands are in the listing.
-/
namespace RegisterMachine

open Text (ofString byte newline ofLines Trimmed)
open LineContent (labelLine IsLabelName compact)

/-- A line of a listing without the index of its instruction; label lines have none. -/
def withoutIndex (line : Text) : Text :=
  if line.head? = some (byte '!') then line else (line.dropWhile Text.isDigit).drop 2

def withoutIndexes (listing : Text) : Text :=
  Text.join [newline] ((Text.splitOn newline listing).map withoutIndex)

namespace Program

def indexed (index : Nat) (inst : Instruction) : Text :=
  Text.paddedDecimal 3 index ++ ofString ": " ++ inst.disassemble

/-- The lines of instructions from index `n` on, each after the lines of its labels. -/
def listed (labels : NameTable) (shown : Nat → Instruction → Text) : Nat → List Instruction →
    List Text
  | n, [] => (labels.namesOf (Int64.ofNat n)).map labelLine
  | n, inst :: rest =>
      (labels.namesOf (Int64.ofNat n)).map labelLine ++
        shown n inst :: listed labels shown (n + 1) rest

end Program

theorem Text.ofLines_append (lines lines' : List Text) :
    ofLines (lines ++ lines') = ofLines lines ++ ofLines lines' := List.flatMap_append

theorem Text.ofLines_cons (line : Text) (lines : List Text) :
    ofLines (line :: lines) = line ++ [newline] ++ ofLines lines := List.flatMap_cons

namespace Program

theorem labelLines_eq (program : Program) (index : Nat) :
    program.labelLines index =
      ofLines ((program.labels.namesOf (Int64.ofNat index)).map labelLine) := by
  rw [labelLines, ofLines, List.flatMap_map]
  rfl

theorem listing_eq (program : Program) :
    program.listing = ofLines (listed program.labels indexed 0 program.instructions.toList) := by
  have hfrom (n : Nat) (insts : List Instruction) :
      ((insts.zipIdx n).flatMap fun p => program.labelLines p.2 ++ instructionLine p.2 p.1)
        ++ program.labelLines (n + insts.length) =
      ofLines (listed program.labels indexed n insts) := by
    induction insts generalizing n with
    | nil => exact labelLines_eq program n
    | cons inst insts ih =>
        rw [listed, Text.ofLines_append, Text.ofLines_cons, ← ih (n + 1), ← labelLines_eq,
          List.zipIdx_cons, List.flatMap_cons, List.length_cons]
        simp [instructionLine, indexed, Nat.add_assoc, Nat.add_comm 1]
  have := hfrom 0 program.instructions.toList
  rw [Nat.zero_add, Array.length_toList] at this
  exact this

theorem mem_listed {labels : NameTable} {shown : Nat → Instruction → Text} {n : Nat}
    {insts : List Instruction} {line : Text} (h : line ∈ listed labels shown n insts) :
    (∃ name ∈ labels.names, line = labelLine name) ∨ ∃ k, ∃ inst ∈ insts, line = shown k inst := by
  have hlabel {value : Int64} (hmem : line ∈ (labels.namesOf value).map labelLine) :
      ∃ name ∈ labels.names, line = labelLine name := by
    obtain ⟨name, hname, rfl⟩ := List.mem_map.1 hmem
    refine ⟨name, ?_, rfl⟩
    rw [NameTable.namesOf, List.mem_map] at hname
    obtain ⟨entry, hentry, rfl⟩ := hname
    exact List.mem_map.2 ⟨entry, (List.mem_filter.1 hentry).1, rfl⟩
  induction insts generalizing n with
  | nil => exact .inl (hlabel h)
  | cons inst insts ih =>
      rw [listed, List.mem_append, List.mem_cons] at h
      obtain h | rfl | h := h
      · exact .inl (hlabel h)
      · exact .inr ⟨n, inst, by simp, rfl⟩
      · obtain h | ⟨k, inst', hmem, rfl⟩ := ih h
        · exact .inl h
        · exact .inr ⟨k, inst', List.mem_cons_of_mem _ hmem, rfl⟩

end Program

theorem withoutIndex_labelLine (name : Text) : withoutIndex (labelLine name) = labelLine name :=
  if_pos rfl

theorem withoutIndex_indexed (index : Nat) (inst : Instruction) :
    withoutIndex (Program.indexed index inst) = inst.disassemble := by
  have hdigits : ∀ b ∈ Text.paddedDecimal 3 index, Text.isDigit b := fun b hb =>
    Text.isDigit_of_mem_paddedDecimal hb
  have hhead : (Program.indexed index inst).head? ≠ some (byte '!') := by
    rw [Program.indexed, List.append_assoc]
    cases hpadded : Text.paddedDecimal 3 index with
    | nil => exact fun h => absurd (Option.some.inj h) (by decide)
    | cons b rest =>
        rintro ⟨⟩
        exact absurd (hdigits (byte '!') (by rw [hpadded]; simp)) (by decide)
  rw [withoutIndex, if_neg hhead, Program.indexed, List.append_assoc,
    List.dropWhile_append_of_pos hdigits]
  rfl

theorem map_withoutIndex_listed (labels : NameTable) (n : Nat) (insts : List Instruction) :
    (Program.listed labels Program.indexed n insts).map withoutIndex =
      Program.listed labels (fun _ inst => inst.disassemble) n insts := by
  have hlabels (names : List Text) :
      (names.map labelLine).map withoutIndex = names.map labelLine := by
    rw [List.map_map]
    exact List.map_congr_left fun name _ => withoutIndex_labelLine name
  induction insts generalizing n with
  | nil => exact hlabels _
  | cons inst insts ih =>
      rw [Program.listed, Program.listed, List.map_append, List.map_cons, hlabels, ih,
        withoutIndex_indexed]

theorem Instruction.newline_not_mem_disassemble (inst : Instruction) :
    newline ∉ inst.disassemble := by
  rw [disassemble, List.map_cons, show ofString ":" = [byte ':'] from rfl, Text.join_cons,
    List.mem_append, List.mem_flatMap]
  rintro (h | ⟨word, hword, h⟩)
  · exact newline_not_mem_escapeWord _ h
  · obtain ⟨operand, -, rfl⟩ := List.mem_map.1 hword
    obtain h | h := List.mem_cons.1 h
    · exact absurd h (by decide)
    · exact newline_not_mem_escapeWord _ h

theorem newline_not_mem_indexed (index : Nat) (inst : Instruction) :
    newline ∉ Program.indexed index inst := by
  rw [Program.indexed, List.mem_append, List.mem_append]
  rintro ((h | h) | h)
  · exact absurd (Text.isDigit_of_mem_paddedDecimal h) (by decide)
  · exact absurd h (by decide)
  · exact inst.newline_not_mem_disassemble h

/-- Without indexes the listing consists of label lines and instructions. -/
theorem withoutIndexes_listing {program : Program}
    (h : ∀ name ∈ program.labels.names, newline ∉ name) :
    withoutIndexes program.listing = ofLines (Program.listed program.labels
      (fun _ inst => inst.disassemble) 0 program.instructions.toList) := by
  have hlines : ∀ line ∈ Program.listed program.labels Program.indexed 0
      program.instructions.toList, newline ∉ line := by
    intro line hline
    obtain ⟨name, hname, rfl⟩ | ⟨k, inst, -, rfl⟩ := Program.mem_listed hline
    · rw [labelLine, List.mem_cons, not_or]
      exact ⟨by decide, h name hname⟩
    · exact newline_not_mem_indexed k inst
  rw [withoutIndexes, Program.listing_eq, Text.splitOn_ofLines hlines, List.map_append,
    map_withoutIndex_listed]
  exact Text.join_append_nil _

namespace NameTable

/-- The entries of a table that point to an index. -/
def entriesAt (table : NameTable) (n : Nat) : List (Text × Int64) :=
  table.entries.filter (·.2 == Int64.ofNat n)

/-- The entries that point to an index from `n` on, up to `count` behind it. -/
def entriesFrom (table : NameTable) : Nat → Nat → List (Text × Int64)
  | n, 0 => table.entriesAt n
  | n, count + 1 => table.entriesAt n ++ table.entriesFrom (n + 1) count

theorem count_entriesAt (table : NameTable) (n : Nat) (entry : Text × Int64) :
    (table.entriesAt n).count entry =
      if entry.2 = Int64.ofNat n then table.entries.count entry else 0 := by
  rw [entriesAt]
  split
  · rename_i h
    exact List.count_filter (by simpa using h)
  · rename_i h
    rw [List.count_eq_zero, List.mem_filter]
    exact fun hmem => h (by simpa using hmem.2)

theorem ofNat_inj {m n : Nat} (hm : m < 9223372036854775808) (hn : n < 9223372036854775808)
    (h : Int64.ofNat m = Int64.ofNat n) : m = n := by
  have := congrArg Int64.toInt h
  rw [Int64.toInt_ofNat_of_lt hm, Int64.toInt_ofNat_of_lt hn] at this
  omega

theorem count_entriesFrom {table : NameTable} {entry : Text × Int64} {k : Nat}
    (hk : entry.2 = Int64.ofNat k) {n count : Nat} (hfits : n + count < 9223372036854775808)
    (hlt : k < 9223372036854775808) :
    (table.entriesFrom n count).count entry =
      if n ≤ k ∧ k ≤ n + count then table.entries.count entry else 0 := by
  have hat (n : Nat) (hn : n < 9223372036854775808) : entry.2 = Int64.ofNat n ↔ k = n := by
    rw [hk]
    exact ⟨ofNat_inj hlt hn, fun h => by rw [h]⟩
  induction count generalizing n with
  | zero =>
      rw [entriesFrom, count_entriesAt]
      simp only [hat n (by omega)]
      split <;> split <;> first | rfl | omega
  | succ count ih =>
      rw [entriesFrom, List.count_append, count_entriesAt, ih (by omega)]
      simp only [hat n (by omega)]
      split <;> split <;> split <;> first | rfl | omega

theorem mem_of_mem_entriesFrom {table : NameTable} {entry : Text × Int64} {n count : Nat}
    (h : entry ∈ table.entriesFrom n count) : entry ∈ table.entries := by
  induction count generalizing n with
  | zero => exact (List.mem_filter.1 h).1
  | succ count ih =>
      obtain h | h := List.mem_append.1 h
      · exact (List.mem_filter.1 h).1
      · exact ih h

/-- Index by index, all entries of a table come up. -/
theorem entriesFrom_perm {table : NameTable} {count : Nat} (hfits : count < 9223372036854775808)
    (h : ∀ entry ∈ table.entries, ∃ n ≤ count, entry.2 = Int64.ofNat n) :
    (table.entriesFrom 0 count).Perm table.entries := by
  rw [List.perm_iff_count]
  intro entry
  by_cases hmem : entry ∈ table.entries
  · obtain ⟨k, hle, hk⟩ := h entry hmem
    rw [count_entriesFrom hk (by omega) (by omega), if_pos ⟨by omega, by omega⟩]
  · rw [List.count_eq_zero.2 hmem, List.count_eq_zero]
    exact fun h => hmem (mem_of_mem_entriesFrom h)

/-- What is fresh together is fresh one after the other. -/
theorem nodup_insertAll {table : NameTable} {pairs pairs' : List (Text × Int64)}
    (h : (table.names ++ (pairs ++ pairs').map (·.1)).Nodup) :
    ((table.insertAll pairs).names ++ pairs'.map (·.1)).Nodup := by
  rw [List.map_append, ← List.append_assoc] at h
  have hperm := (insertAll_perm (List.nodup_append.1 h).1).map (·.1)
  rw [List.map_append] at hperm
  exact ((hperm.append_right _).nodup_iff).2 h

end NameTable

namespace Draft

theorem addLines_labels {entries : List (Text × Int64)} {draft : Draft}
    (hnames : ∀ entry ∈ entries, IsLabelName entry.1 ∧ entry.2 = Int64.ofNat draft.scanned.size)
    (hfresh : (draft.labels.names ++ entries.map (·.1)).Nodup) (count : Nat) (rest : List Text) :
    ∃ count', draft.addLines count (entries.map (labelLine ·.1) ++ rest) =
      ({ draft with labels := draft.labels.insertAll entries } : Draft).addLines count' rest := by
  induction entries generalizing draft count with
  | nil => exact ⟨count, rfl⟩
  | cons entry entries ih =>
      obtain ⟨hname, hindex⟩ := hnames entry (by simp)
      have hnew : ¬ draft.labels.contains entry.1 := by
        rw [NameTable.contains_iff]
        exact fun hmem => (List.nodup_append.1 hfresh).2.2 _ hmem _ (by simp) rfl
      have hadd : draft.addLine ⟨count + 1, labelLine entry.1⟩ =
          .ok { draft with labels := draft.labels.insert entry.1 entry.2 } := by
        rw [addLine, LineContent.ofLine_labelLine hname]
        simp only [if_neg hnew, hindex]
      have hstep : ((draft.labels.insertAll [entry]).names ++ entries.map (·.1)).Nodup :=
        NameTable.nodup_insertAll hfresh
      rw [List.map_cons, List.cons_append, addLines, hadd]
      exact @ih { draft with labels := draft.labels.insert entry.1 entry.2 }
        (fun e he => hnames e (List.mem_cons_of_mem _ he)) hstep (count + 1)

theorem addLines_instruction {text : Text} {op : Opcode} {words : List Text}
    (h : LineContent.ofLine text = .ok (.instruction op words)) (draft : Draft) (count : Nat)
    (rest : List Text) :
    draft.addLines count (text :: rest) =
      ({ draft with scanned := draft.scanned.push ⟨⟨count + 1, text⟩, op, words⟩ } : Draft).addLines
        (count + 1) rest := by
  rw [addLines, addLine, h]

def form (scanned : Scanned) : Opcode × List Text := (scanned.op, scanned.words)

/-- Reading the listed lines gives the labels and the instructions back. -/
theorem addLines_listed {labels : NameTable}
    (hnames : ∀ entry ∈ labels.entries, IsLabelName entry.1)
    {insts : List Instruction}
    (hinsts : ∀ inst ∈ insts, LineContent.ofLine inst.disassemble =
      .ok (.instruction inst.opcode inst.operands))
    (draft : Draft) (count : Nat)
    (hfresh : (draft.labels.names ++
      (labels.entriesFrom draft.scanned.size insts.length).map (·.1)).Nodup) :
    ∃ draft' count', draft.addLines count (Program.listed labels
        (fun _ inst => inst.disassemble) draft.scanned.size insts) = (draft', count', none) ∧
      draft'.labels =
        draft.labels.insertAll (labels.entriesFrom draft.scanned.size insts.length) ∧
      draft'.scanned.toList.map form =
        draft.scanned.toList.map form ++ insts.map fun inst => (inst.opcode, inst.operands) := by
  have hlabels (n : Nat) : (labels.namesOf (Int64.ofNat n)).map labelLine =
      (labels.entriesAt n).map (labelLine ·.1) := by
    rw [NameTable.namesOf, List.map_map]
    rfl
  have hat (n : Nat) : ∀ entry ∈ labels.entriesAt n,
      IsLabelName entry.1 ∧ entry.2 = Int64.ofNat n := by
    intro entry hentry
    obtain ⟨hmem, hindex⟩ := List.mem_filter.1 hentry
    exact ⟨hnames entry hmem, by simpa using hindex⟩
  induction insts generalizing draft count with
  | nil =>
      obtain ⟨count', h⟩ := addLines_labels (hat draft.scanned.size) hfresh count []
      refine ⟨{ draft with labels := draft.labels.insertAll (labels.entriesAt draft.scanned.size) },
        count', ?_, rfl, by simp⟩
      rw [List.append_nil] at h
      rw [Program.listed, hlabels, h]
      rfl
  | cons inst insts ih =>
      rw [List.length_cons, NameTable.entriesFrom] at hfresh
      have hhere : (draft.labels.names ++
          (labels.entriesAt draft.scanned.size).map (·.1)).Nodup := by
        rw [List.map_append, ← List.append_assoc] at hfresh
        exact (List.nodup_append.1 hfresh).1
      obtain ⟨count', h⟩ := addLines_labels (hat draft.scanned.size) hhere count
        (inst.disassemble :: Program.listed labels (fun _ inst => inst.disassemble)
          (draft.scanned.size + 1) insts)
      rw [addLines_instruction (hinsts inst (by simp))] at h
      obtain ⟨last, count'', hrest, hlast, hform⟩ := ih
        (fun inst' hinst' => hinsts inst' (List.mem_cons_of_mem _ hinst'))
        ⟨draft.labels.insertAll (labels.entriesAt draft.scanned.size), draft.scanned.push
          ⟨⟨(count' : Int) + 1, inst.disassemble⟩, inst.opcode, inst.operands⟩⟩ (count' + 1)
        (by simpa using NameTable.nodup_insertAll hfresh)
      rw [Array.size_push] at hrest hlast
      refine ⟨last, count'', ?_, ?_, ?_⟩
      · rw [Program.listed, hlabels, h, hrest]
      · rw [hlast, List.length_cons, NameTable.entriesFrom, NameTable.insertAll_append]
      · rw [hform]
        simp [form]

end Draft

/-- If the line holds an instruction, it has as many operands as its opcode consumes, and no
expression among them. -/
def LineContent.Plain (line : Text) : Prop :=
  ∀ op words, ofLine line = .ok (.instruction op words) →
    words.length = op.arity ∧ ∀ word ∈ words, Scanned.expression? word = none

namespace Scanned

/-- From a plain line the instruction is built with the opcode and the operands of the line. -/
theorem build_of_plain {evaluate : Text → Evaluation × Text} {scanned : Scanned}
    {inst : Instruction} (hlength : scanned.words.length = scanned.op.arity)
    (hplain : ∀ word ∈ scanned.words, expression? word = none)
    (h : (scanned.build evaluate).1 = .ok inst) :
    inst.opcode = scanned.op ∧ inst.operands = scanned.words := by
  obtain ⟨tokens, htokens, hmake⟩ := build_eq_ok.1 h
  rw [evaluateWords_of_plain hplain] at htokens
  cases htokens
  obtain ⟨hop, hoperands, -⟩ := Instruction.make_eq_ok hmake
  rw [← hlength, List.take_length] at hoperands
  exact ⟨hop, hoperands⟩

/-- Opcode and operands of plain instructions are built into these instructions. -/
theorem map_build_of_form {evaluate : Text → Evaluation × Text} {scanned : List Scanned}
    {insts : List Instruction}
    (hplain : ∀ inst ∈ insts, ∀ word ∈ inst.operands, expression? word = none)
    (h : scanned.map Draft.form = insts.map fun inst => (inst.opcode, inst.operands)) :
    scanned.map (fun s => (s.build evaluate).1) = insts.map .ok := by
  have hbuild : (fun s : Scanned => (s.build evaluate).1) =
      (fun form : Opcode × List Text =>
        (evaluateWords evaluate form.2).1.bind (Instruction.make form.1)) ∘ Draft.form := rfl
  rw [hbuild, ← List.map_map, h, List.map_map]
  refine List.map_congr_left fun inst hinst => ?_
  show (evaluateWords evaluate inst.operands).1.bind (Instruction.make inst.opcode) = .ok inst
  rw [evaluateWords_of_plain (hplain inst hinst)]
  exact inst.make_opcode_operands

end Scanned

/-- A plain text that is accepted comes with a draft whose lines are the instructions. -/
theorem Assembler.parse_plain {evaluate : Evaluator} {asm : Assembler} {reader : Reader}
    {program : Program} (h : (asm.parse evaluate reader).1 = .ok program)
    (hplain : ∀ line ∈ (Source.ofReader reader).lines, LineContent.Plain line) :
    ∃ draft : Draft, draft.Sound (Source.ofReader reader).lines ∧
      draft.labels = program.labels ∧ draft.scanned.map (·.line) = program.lines ∧
      draft.labels.find? asm.entry = some program.entry ∧
      draft.scanned.toList.map Draft.form =
        program.instructions.toList.map fun inst => (inst.opcode, inst.operands) := by
  obtain ⟨-, -, hfinish⟩ := parse_eq_ok.1 h
  have hsound := Draft.sound_ofLines (Source.ofReader reader).lines 0
  generalize (Draft.empty.addLines 0 (Source.ofReader reader).lines).1 = draft at hfinish hsound
  obtain ⟨entry, instructions, hentry, hbuild, rfl⟩ := finish_eq_ok.1 hfinish
  refine ⟨draft, hsound, rfl, rfl, hentry, ?_⟩
  obtain ⟨built, rfl, hmap⟩ := Scanned.buildAll_eq_ok.1 hbuild
  rw [Array.empty_append, List.toList_toArray]
  refine List.ext_getElem? fun n => ?_
  have hn := congrArg (·[n]?) hmap
  simp only [List.getElem?_map] at hn ⊢
  cases hs : draft.scanned.toList[n]? with
  | none =>
      rw [hs] at hn
      cases hb : built[n]? with
      | none => rfl
      | some inst => rw [hb] at hn; cases hn
  | some scanned =>
      rw [hs] at hn
      cases hb : built[n]? with
      | none => rw [hb] at hn; cases hn
      | some inst =>
          rw [hb] at hn
          obtain ⟨hline, hcontent⟩ := hsound.scanned scanned
            (Array.mem_toList_iff.1 (List.mem_of_getElem? hs))
          obtain ⟨hlength, hwords⟩ := hplain _ hline _ _ hcontent
          obtain ⟨hop, hoperands⟩ := Scanned.build_of_plain hlength hwords (Option.some.inj hn)
          simp [Draft.form, hop, hoperands]

/-- An instruction that was read from a line is written as a line of its own. -/
theorem Instruction.ofLine_disassemble {line : Text} {inst : Instruction}
    (h : LineContent.ofLine line = .ok (.instruction inst.opcode inst.operands))
    (hfits : Source.Fits line) :
    LineContent.ofLine inst.disassemble = .ok (.instruction inst.opcode inst.operands) ∧
      Trimmed inst.disassemble ∧ Source.Fits inst.disassemble := by
  rw [LineContent.disassemble_eq_compact h hfits.noBreak]
  exact ⟨LineContent.ofLine_compact h, LineContent.trimmed_compact h,
    LineContent.newline_not_mem_compact h hfits.noBreak,
    Nat.lt_of_le_of_lt (LineContent.length_compact_le h) hfits.length_lt⟩

theorem LineContent.fits_labelLine {line name : Text} (h : ofLine line = .ok (.label name))
    (hfits : Source.Fits line) : Source.Fits (labelLine name) := by
  obtain ⟨-, rest, hstrip, hname⟩ := ofLine_eq_label h
  have hline : Source.Fits (byte '!' :: rest) := by
    rw [← hstrip]
    exact hfits.of_isInfix (strip_isInfix line)
  refine ⟨?_, ?_⟩
  · rw [labelLine, List.mem_cons, not_or]
    exact ⟨by decide, fun hmem => hline.noBreak (List.mem_cons_of_mem _ (hname.subset hmem))⟩
  · have hle := hname.length_le
    have hlt := hline.length_lt
    rw [labelLine, List.length_cons]
    rw [List.length_cons] at hlt
    omega

/-- The program can be written out as program text. -/
structure Program.Writable (program : Program) : Prop where
  instruction : ∀ inst ∈ program.instructions.toList,
    LineContent.ofLine inst.disassemble = .ok (.instruction inst.opcode inst.operands) ∧
      Trimmed inst.disassemble ∧ Source.Fits inst.disassemble
  plain : ∀ inst ∈ program.instructions.toList, ∀ word ∈ inst.operands,
    Scanned.expression? word = none
  label : ∀ entry ∈ program.labels.entries,
    IsLabelName entry.1 ∧ Source.Fits (labelLine entry.1)
  index : ∀ entry ∈ program.labels.entries,
    ∃ n ≤ program.instructions.size, entry.2 = Int64.ofNat n

/-- The instruction at an index was read from the line at that index. -/
theorem Draft.Sound.line_of_instruction {lines : List Text} {draft : Draft}
    (hsound : draft.Sound lines) {insts : Array Instruction}
    (hforms : draft.scanned.toList.map form =
      insts.toList.map fun inst => (inst.opcode, inst.operands))
    {n : Nat} {inst : Instruction} (hn : insts[n]? = some inst) :
    ∃ line, (draft.scanned.map (·.line))[n]? = some line ∧ line.text ∈ lines ∧
      LineContent.ofLine line.text = .ok (.instruction inst.opcode inst.operands) := by
  have hform := congrArg (·[n]?) hforms
  simp only [List.getElem?_map, Array.getElem?_toList, hn, Option.map_some] at hform
  obtain ⟨scanned, hs, he⟩ := Option.map_eq_some_iff.1 hform
  obtain ⟨hop, hwords⟩ := Prod.mk.inj he
  obtain ⟨hline, hcontent⟩ := hsound.scanned scanned (Array.mem_of_getElem? hs)
  rw [hop, hwords] at hcontent
  exact ⟨scanned.line, by rw [Array.getElem?_map, hs]; rfl, hline, hcontent⟩

theorem Program.writable_of_draft {reader : Reader} {draft : Draft} {program : Program}
    (hplain : ∀ line ∈ (Source.ofReader reader).lines, LineContent.Plain line)
    (hsound : draft.Sound (Source.ofReader reader).lines) (hlabels : draft.labels = program.labels)
    (hforms : draft.scanned.toList.map Draft.form =
      program.instructions.toList.map fun inst => (inst.opcode, inst.operands)) :
    program.Writable := by
  have hread (inst : Instruction) (hinst : inst ∈ program.instructions.toList) :
      ∃ line ∈ (Source.ofReader reader).lines,
        LineContent.ofLine line = .ok (.instruction inst.opcode inst.operands) := by
    obtain ⟨n, hn⟩ := List.mem_iff_getElem?.1 hinst
    rw [Array.getElem?_toList] at hn
    obtain ⟨line, -, hline, hcontent⟩ := hsound.line_of_instruction hforms hn
    exact ⟨line.text, hline, hcontent⟩
  have hsize : draft.scanned.size = program.instructions.size := by
    have := congrArg List.length hforms
    simpa using this
  refine ⟨fun inst hinst => ?_, fun inst hinst => ?_, fun entry hentry => ?_, ?_⟩
  · obtain ⟨line, hline, hcontent⟩ := hread inst hinst
    exact inst.ofLine_disassemble hcontent (Source.fits_of_mem_lines hline)
  · obtain ⟨line, hline, hcontent⟩ := hread inst hinst
    exact (hplain line hline _ _ hcontent).2
  · rw [← hlabels] at hentry
    obtain ⟨line, hline, hcontent⟩ := hsound.label entry hentry
    exact ⟨(LineContent.ofLine_eq_label hcontent).1,
      LineContent.fits_labelLine hcontent (Source.fits_of_mem_lines hline)⟩
  · rw [← hlabels, ← hsize]
    exact hsound.index

/-- Without indexes the listing is read line by line as it was written. -/
theorem Program.Writable.lines_eq {program : Program} (h : program.Writable) :
    Source.ofReader (Reader.ofText (withoutIndexes program.listing)) =
      ⟨Program.listed program.labels (fun _ inst => inst.disassemble) 0
        program.instructions.toList, none⟩ := by
  have hname (name : Text) (hmem : name ∈ program.labels.names) :
      IsLabelName name ∧ Source.Fits (labelLine name) := by
    obtain ⟨entry, hentry, rfl⟩ := List.mem_map.1 hmem
    exact h.label entry hentry
  rw [withoutIndexes_listing fun name hmem => ?_, Source.ofReader_ofLines]
  · intro line hline
    obtain ⟨name, hmem, rfl⟩ | ⟨k, inst, hinst, rfl⟩ := Program.mem_listed hline
    · exact (hname name hmem).2
    · exact (h.instruction inst hinst).2.2
  · intro line hline
    obtain ⟨name, hmem, rfl⟩ | ⟨k, inst, hinst, rfl⟩ := Program.mem_listed hline
    · exact (hname name hmem).1.trimmed_labelLine
    · exact (h.instruction inst hinst).2.1
  · exact fun hbreak => (hname name hmem).2.noBreak (List.mem_cons_of_mem _ hbreak)

/-- A program that can be written out is read back from its listing. -/
theorem Program.Writable.parse_listing {program : Program} (h : program.Writable)
    (hfits : program.instructions.size < 9223372036854775808) (evaluate : Evaluator)
    {asm : Assembler} (hentry : program.labels.find? asm.entry = some program.entry) :
    ∃ again, (asm.parse evaluate (Reader.ofText (withoutIndexes program.listing))).1 = .ok again ∧
      again.instructions = program.instructions ∧ again.labels = program.labels ∧
      again.entry = program.entry := by
  have hperm := NameTable.entriesFrom_perm hfits h.index
  have hfresh : (NameTable.empty.names ++
      (program.labels.entriesFrom 0 program.instructions.toList.length).map (·.1)).Nodup := by
    rw [Array.length_toList]
    exact (hperm.map Prod.fst).nodup_iff.2 program.labels.nodup_names
  obtain ⟨draft, count, hadd, hlabels, hforms⟩ := Draft.addLines_listed
    (fun entry hentry => (h.label entry hentry).1)
    (fun inst hinst => (h.instruction inst hinst).1) Draft.empty 0 hfresh
  have htable : draft.labels = program.labels := by
    rw [hlabels]
    refine NameTable.eq_of_perm ?_
    refine (NameTable.insertAll_perm hfresh).trans ?_
    rw [Array.length_toList]
    exact hperm
  have hbuild : draft.scanned.toList.map (fun s =>
      (s.build (evaluate (Assembler.environment asm.predefined draft.labels))).1) =
      program.instructions.toList.map .ok := Scanned.map_build_of_form h.plain hforms
  refine ⟨⟨program.instructions, draft.scanned.map (·.line), draft.labels, program.entry⟩,
    Assembler.parse_eq_ok.2 ?_, rfl, htable, rfl⟩
  rw [h.lines_eq]
  have hadd' : Draft.empty.addLines 0 (Program.listed program.labels
    (fun _ inst => inst.disassemble) 0 program.instructions.toList) = (draft, count, none) := hadd
  rw [hadd']
  refine ⟨rfl, rfl, Assembler.finish_eq_ok.2 ⟨program.entry, program.instructions, ?_, ?_, rfl⟩⟩
  · rw [htable, hentry]
  · exact Scanned.buildAll_eq_ok.2 ⟨program.instructions.toList, by simp, hbuild⟩

/-- The listing of a plain program without indexes is accepted again, by any assembler with that
entry, and gives the same instructions, labels and entry; each instruction is written as its line
without comment and blanks. The number of instructions is a machine integer, as labels need it. -/
theorem listing_round_trip {evaluate : Evaluator} {asm : Assembler} {reader : Reader}
    {program : Program} (h : (asm.parse evaluate reader).1 = .ok program)
    (hplain : ∀ line ∈ (Source.ofReader reader).lines, LineContent.Plain line)
    (hfits : program.instructions.size < 9223372036854775808) :
    (∀ (n : Nat) (inst : Instruction) (line : SourceLine),
      program.instructions[n]? = some inst → program.lines[n]? = some line →
      inst.disassemble = compact line.text) ∧
    ∀ (evaluate' : Evaluator) (asm' : Assembler), asm'.entry = asm.entry →
      ∃ again, (asm'.parse evaluate' (Reader.ofText (withoutIndexes program.listing))).1 =
          .ok again ∧
        again.instructions = program.instructions ∧ again.labels = program.labels ∧
        again.entry = program.entry := by
  obtain ⟨draft, hsound, hlabels, hlines, hentry, hforms⟩ := Assembler.parse_plain h hplain
  have hwritable := Program.writable_of_draft hplain hsound hlabels hforms
  refine ⟨fun n inst line hn hline => ?_, fun evaluate' asm' hasm => ?_⟩
  · obtain ⟨line', hline', hmem, hcontent⟩ := hsound.line_of_instruction hforms hn
    rw [hlines] at hline'
    obtain rfl : line' = line := Option.some.inj (hline'.symm.trans hline)
    exact LineContent.disassemble_eq_compact hcontent (Source.fits_of_mem_lines hmem).noBreak
  · refine hwritable.parse_listing hfits evaluate' ?_
    rw [hasm, ← hlabels, hentry]

def roundTripText : Text := ofString "!s//e\n in :\\n\n!z\n"

def roundTripProgram : Program where
  instructions := #[.input (ofString "\n")]
  lines := #[⟨2, ofString " in :\\n"⟩]
  labels := .ofPairs [(ofString "s", 0), (ofString "z", 1)]
  entry := 0

theorem listing_round_trip_text :
    let asm := { Assembler.initial with entryLabel := ofString "s" }
    (asm.parse (fun _ _ => (.failed, [])) (Reader.ofText roundTripText)).1 = .ok roundTripProgram ∧
      ∃ again, (asm.parse (fun _ _ => (.failed, [])) (Reader.ofText
          (ofString "!s\nin:\\n\n!z\n"))).1 = .ok again ∧
        again.instructions = roundTripProgram.instructions ∧
        again.labels = roundTripProgram.labels ∧ again.entry = 0 := by
  intro asm
  have h : (asm.parse (fun _ _ => (.failed, [])) (Reader.ofText roundTripText)).1 =
      .ok roundTripProgram := by
    decide +kernel
  have hlisting : withoutIndexes roundTripProgram.listing = ofString "!s\nin:\\n\n!z\n" := by
    decide +kernel
  have hlines : (Source.ofReader (Reader.ofText roundTripText)).lines =
      [ofString "!s//e", ofString " in :\\n", ofString "!z"] := by
    decide
  have hinput : LineContent.ofLine (ofString " in :\\n") =
      .ok (.instruction .input [ofString "\n"]) := by
    decide +kernel
  have hlabels : LineContent.ofLine (ofString "!s//e") = .ok (.label (ofString "s")) ∧
      LineContent.ofLine (ofString "!z") = .ok (.label (ofString "z")) := ⟨by decide +kernel, by decide +kernel⟩
  have hplain : ∀ line ∈ (Source.ofReader (Reader.ofText roundTripText)).lines,
      LineContent.Plain line := by
    rw [hlines]
    simp only [List.forall_mem_cons]
    refine ⟨?_, ?_, ?_, by simp⟩
    all_goals
      intro op words hcontent
      simp only [hlabels, hinput] at hcontent
      cases hcontent
    exact ⟨rfl, by decide⟩
  obtain ⟨-, hagain⟩ := listing_round_trip h hplain (by decide)
  rw [hlisting] at hagain
  exact ⟨h, hagain _ asm rfl⟩

end RegisterMachine

import Mathlib.Data.Nat.Find
import RegisterMachine.Proofs.Assembler.Lines
import RegisterMachine.Proofs.Assembler.Passes

/-!
# The first pass, line by line

Whether a line is blank, declares a label or is an instruction line can be seen from the line
alone; whether it is at fault, from the line and the labels above it. As long as no line is at
fault, `Draft.Reads` says what the draft has become: the instruction lines with their numbers,
and the labels, each with the number of instruction lines above it. The first line at fault ends
the pass and leaves the draft of the lines above.
-/
namespace RegisterMachine

open Text (ofString byte)

namespace LineContent

/-- The name that a label line declares; empty if the name is missing. -/
def labelName? (line : Text) : Option Text :=
  match strip line with
  | [] => none
  | first :: rest => if first = byte '!' then some (Text.trim rest) else none

/-- The line is neither blank, with or without a comment, nor a label line. -/
def isInstruction (line : Text) : Bool :=
  match strip line with
  | [] => false
  | first :: _ => first != byte '!'

/-- The word of an instruction line that names its opcode. -/
def opcodeWord (line : Text) : Text := ((Text.splitOn (byte ':') (strip line)).headD []).trim

/-- The operand words of an instruction line. -/
def operandWords (line : Text) : List Text :=
  (Text.splitOn (byte ':') (strip line)).tail.map unescapeWord

theorem kind_cases (line : Text) :
    (strip line = [] ∧ labelName? line = none ∧ isInstruction line = false) ∨
      (∃ name, labelName? line = some name ∧ isInstruction line = false) ∨
      (labelName? line = none ∧ isInstruction line = true) := by
  simp only [labelName?, isInstruction]
  cases strip line with
  | nil => exact .inl ⟨rfl, rfl, rfl⟩
  | cons first rest =>
      by_cases hmark : first = byte '!'
      · exact .inr (.inl ⟨Text.trim rest, if_pos hmark, by simp [hmark]⟩)
      · exact .inr (.inr ⟨if_neg hmark, by simp [hmark]⟩)

theorem ofLine_of_blank {line : Text} (h : strip line = []) : ofLine line = .ok .blank := by
  rw [ofLine, h]

theorem ofLine_of_label {line name : Text} (h : labelName? line = some name) :
    ofLine line = if name.isEmpty then .error .labelName else .ok (.label name) := by
  rw [labelName?] at h
  rw [ofLine]
  cases hstrip : strip line with
  | nil => rw [hstrip] at h; cases h
  | cons first rest =>
      rw [hstrip] at h
      dsimp only at h ⊢
      by_cases hmark : first = byte '!'
      · rw [if_pos hmark] at h ⊢
        cases h
        rfl
      · rw [if_neg hmark] at h
        cases h

theorem ofLine_of_instruction {line : Text} (h : isInstruction line) :
    ofLine line = (Opcode.parse (opcodeWord line)).map (.instruction · (operandWords line)) := by
  rw [isInstruction] at h
  rw [ofLine, opcodeWord, operandWords]
  cases hstrip : strip line with
  | nil => rw [hstrip] at h; cases h
  | cons first rest =>
      rw [hstrip] at h
      have hmark : first ≠ byte '!' := by simpa using h
      obtain ⟨word, raw, hsplit⟩ :=
        List.exists_cons_of_ne_nil (Text.splitOn_ne_nil (byte ':') (first :: rest))
      simp only [if_neg hmark, hsplit, ofWords, List.headD_cons, List.tail_cons]
      cases Opcode.parse word.trim <;> rfl

theorem ofLine_of_opcode {line : Text} {op : Opcode} (h : isInstruction line)
    (hop : opcodeWord line = op.name) :
    ofLine line = .ok (.instruction op (operandWords line)) := by
  rw [ofLine_of_instruction h, hop, Opcode.parse_name]
  rfl

/-- A line that holds an instruction is an instruction line with these words. -/
theorem words_of_ofLine {line : Text} {op : Opcode} {words : List Text}
    (h : ofLine line = .ok (.instruction op words)) :
    isInstruction line ∧ opcodeWord line = op.name ∧ words = operandWords line := by
  obtain ⟨hblank, -, -⟩ | ⟨name, hname, -⟩ | ⟨-, hinst⟩ := kind_cases line
  · rw [ofLine_of_blank hblank] at h
    cases h
  · rw [ofLine_of_label hname] at h
    split at h <;> cases h
  · rw [ofLine_of_instruction hinst] at h
    cases hparse : Opcode.parse (opcodeWord line) with
    | error fault => rw [hparse] at h; cases h
    | ok found =>
        rw [hparse] at h
        cases h
        exact ⟨hinst, Opcode.parse_eq_ok hparse, rfl⟩

end LineContent

theorem Opcode.parse_eq_error {word : Text} (h : ∀ op : Opcode, word ≠ op.name) :
    Opcode.parse word = .error (.unknownOpcode word) := by
  cases hparse : Opcode.parse word with
  | ok op => exact absurd (Opcode.parse_eq_ok hparse) (h op)
  | error fault =>
      rw [parse] at hparse
      split at hparse
      · cases hparse
      · exact hparse.symm

namespace Source

open LineContent

/-- The labels that lines declare, each with the number of instruction lines above it, where
`above` of them stand above the first line. -/
def labelsFrom (above : Nat) : List Text → List (Text × Int64)
  | [] => []
  | line :: rest =>
      match labelName? line with
      | some name => (name, Int64.ofNat above) :: labelsFrom above rest
      | none => labelsFrom (if isInstruction line then above + 1 else above) rest

def labelTable (lines : List Text) : NameTable := .ofPairs (labelsFrom 0 lines)

/-- The lines declare a label for an instruction index: on some line, below so many instruction
lines. -/
def Declares (lines : List Text) (name : Text) (index : Int64) : Prop :=
  ∃ k, lines[k]?.bind labelName? = some name ∧
    index = Int64.ofNat ((lines.take k).countP isInstruction)

theorem labelsFrom_append (above : Nat) (lines lines' : List Text) :
    labelsFrom above (lines ++ lines') =
      labelsFrom above lines ++ labelsFrom (above + lines.countP isInstruction) lines' := by
  induction lines generalizing above with
  | nil => rfl
  | cons line lines ih =>
      rw [List.cons_append, labelsFrom, labelsFrom, List.countP_cons]
      obtain ⟨-, hname, hinst⟩ | ⟨name, hname, hinst⟩ | ⟨hname, hinst⟩ := kind_cases line
      · simp [hname, hinst, ih]
      · simp [hname, hinst, ih]
      · have hcount : above + 1 + lines.countP isInstruction =
            above + (lines.countP isInstruction + 1) := by omega
        simp [hname, hinst, ih, hcount]

theorem map_labelsFrom (above : Nat) (lines : List Text) :
    (labelsFrom above lines).map (·.1) = lines.filterMap labelName? := by
  induction lines generalizing above with
  | nil => rfl
  | cons line lines ih =>
      rw [labelsFrom]
      cases hname : labelName? line with
      | some name => rw [List.map_cons, ih, List.filterMap_cons_some hname]
      | none => rw [ih, List.filterMap_cons_none hname]

theorem mem_labelsFrom {above : Nat} {lines : List Text} {name : Text} {index : Int64} :
    (name, index) ∈ labelsFrom above lines ↔
      ∃ k, lines[k]?.bind labelName? = some name ∧
        index = Int64.ofNat (above + (lines.take k).countP isInstruction) := by
  induction lines generalizing above with
  | nil => simp [labelsFrom]
  | cons line lines ih =>
      rw [labelsFrom, ← Nat.or_exists_add_one]
      simp only [List.getElem?_cons_zero, List.getElem?_cons_succ, List.take_zero,
        List.take_succ_cons, List.countP_nil, List.countP_cons, Option.bind_some]
      obtain ⟨-, hname, hinst⟩ | ⟨found, hname, hinst⟩ | ⟨hname, hinst⟩ := kind_cases line
      · simp [hname, hinst, ih]
      · simp [hname, hinst, ih, eq_comm]
      · have hcount (k : Nat) : above + 1 + (lines.take k).countP isInstruction =
            above + ((lines.take k).countP isInstruction + 1) := by omega
        simp [hname, hinst, ih, hcount]

theorem mem_labelsFrom_zero {lines : List Text} {name : Text} {index : Int64} :
    (name, index) ∈ labelsFrom 0 lines ↔ Declares lines name index := by
  rw [mem_labelsFrom]
  simp only [Nat.zero_add, Declares]

theorem mem_names_labelTable {lines : List Text} {name : Text} :
    name ∈ (labelTable lines).names ↔ name ∈ lines.filterMap labelName? := by
  rw [labelTable, NameTable.ofPairs, NameTable.mem_names_insertAll, map_labelsFrom]
  simp [NameTable.names, NameTable.empty]

theorem labelTable_append (lines lines' : List Text) :
    labelTable (lines ++ lines') =
      (labelTable lines).insertAll (labelsFrom (lines.countP isInstruction) lines') := by
  rw [labelTable, labelsFrom_append, Nat.zero_add, NameTable.ofPairs, NameTable.insertAll,
    List.foldl_append]
  rfl

/-- Labels with names of their own have one entry each. -/
theorem labelTable_perm {lines : List Text} (h : (lines.filterMap labelName?).Nodup) :
    (labelTable lines).entries.Perm (labelsFrom 0 lines) := by
  refine NameTable.insertAll_perm ?_
  rw [map_labelsFrom]
  exact h

theorem find?_labelTable {lines : List Text} (h : (lines.filterMap labelName?).Nodup) {name : Text}
    {index : Int64} : (labelTable lines).find? name = some index ↔ Declares lines name index := by
  rw [NameTable.find?_eq_some_iff, (labelTable_perm h).mem_iff, mem_labelsFrom_zero]

/-- A fault that a line below the lines `above` has in the first pass. -/
inductive LineFault (above : List Text) (line : Text) : Fault → Prop
  | name : labelName? line = some [] → LineFault above line .labelName
  | duplicate {name : Text} : labelName? line = some name → name ≠ [] →
      name ∈ above.filterMap labelName? → LineFault above line .labelDuplicate
  | opcode : isInstruction line → (∀ op : Opcode, opcodeWord line ≠ op.name) →
      LineFault above line (.unknownOpcode (opcodeWord line))

/-- Line `i` of some lines is at fault in the first pass. -/
structure LineFaultAt (lines : List Text) (i : Nat) (line : Text) (fault : Fault) : Prop where
  found : lines[i]? = some line
  atFault : LineFault (lines.take i) line fault

/-- No line is at fault in the first pass. -/
def Faultless (lines : List Text) : Prop := ∀ i line fault, ¬ LineFaultAt lines i line fault

/-- The first line with a fault of some kind. -/
structure First (faultAt : Nat → Text → Fault → Prop) (i : Nat) (line : Text) (fault : Fault) :
    Prop where
  here : faultAt i line fault
  least : ∀ j < i, ∀ line fault, ¬ faultAt j line fault

theorem none_or_first (faultAt : Nat → Text → Fault → Prop) :
    (∀ i line fault, ¬ faultAt i line fault) ∨ ∃ i line fault, First faultAt i line fault := by
  classical
  by_cases h : ∃ i line fault, faultAt i line fault
  · obtain ⟨line, fault, hfault⟩ := Nat.find_spec h
    refine .inr ⟨Nat.find h, line, fault, hfault, fun j hj line' fault' hfault' => ?_⟩
    exact Nat.find_min h hj ⟨line', fault', hfault'⟩
  · exact .inl fun i line fault hfault => h ⟨i, line, fault, hfault⟩

theorem First.faultless_take {lines : List Text} {i : Nat} {line : Text} {fault : Fault}
    (h : First (LineFaultAt lines) i line fault) : Faultless (lines.take i) := by
  rintro j line' fault' ⟨hline, hfault⟩
  obtain ⟨hlt, -⟩ := List.getElem?_eq_some_iff.1 hline
  have hj : j < i := by
    rw [List.length_take] at hlt
    omega
  refine h.least j hj line' fault' ⟨?_, ?_⟩
  · rwa [List.getElem?_take_of_lt hj] at hline
  · rwa [List.take_take, Nat.min_eq_left (Nat.le_of_lt hj)] at hfault

end Source

namespace Draft

open LineContent Source

/-- What the draft has become after reading lines that are not at fault. -/
structure Reads (lines : List Text) (draft : Draft) : Prop where
  scanned : draft.scanned.toList = scannedFrom 0 lines
  labels : draft.labels = labelTable lines
  opcode : ∀ line ∈ lines, isInstruction line → ∃ op : Opcode, opcodeWord line = op.name
  distinct : (lines.filterMap labelName?).Nodup

theorem reads_empty : Reads [] empty where
  scanned := rfl
  labels := rfl
  opcode := by simp
  distinct := by simp

variable {above rest : List Text} {draft : Draft} {line : Text} {fault : Fault}

theorem Reads.find?_labels (h : draft.Reads above) {name : Text} {index : Int64} :
    draft.labels.find? name = some index ↔ Declares above name index := by
  rw [h.labels, find?_labelTable h.distinct]

theorem length_scannedFrom {count : Nat} {lines : List Text}
    (h : ∀ line ∈ lines, isInstruction line → ∃ op : Opcode, opcodeWord line = op.name) :
    (scannedFrom count lines).length = lines.countP isInstruction := by
  induction lines generalizing count with
  | nil => rfl
  | cons line lines ih =>
      have hrest := @ih (count + 1) fun l hl => h l (List.mem_cons_of_mem _ hl)
      rw [scannedFrom, List.countP_cons]
      by_cases hinst : isInstruction line
      · obtain ⟨op, hop⟩ := h line (by simp) hinst
        simp [ofLine_of_opcode hinst hop, hinst, hrest]
      · have hother : ∀ op words, ofLine line ≠ .ok (.instruction op words) :=
          fun op words hline => hinst (words_of_ofLine hline).1
        split
        · rename_i op words hline
          exact absurd hline (hother op words)
        · simp [hinst, hrest]

/-- What was scanned on a line is what the line holds, and the line is numbered from one. -/
theorem mem_scannedFrom {count : Nat} {lines : List Text} {s : Scanned}
    (h : s ∈ scannedFrom count lines) :
    ∃ j : Nat, lines[j]? = some s.line.text ∧ s.line.number = count + j + 1 ∧
      ofLine s.line.text = .ok (.instruction s.op s.words) := by
  induction lines generalizing count with
  | nil => cases h
  | cons line lines ih =>
      have hrest (hmem : s ∈ scannedFrom (count + 1) lines) :
          ∃ j : Nat, (line :: lines)[j]? = some s.line.text ∧ s.line.number = count + j + 1 ∧
            ofLine s.line.text = .ok (.instruction s.op s.words) := by
        obtain ⟨j, hj, hnumber, hcontent⟩ := ih hmem
        exact ⟨j + 1, hj, by rw [hnumber]; omega, hcontent⟩
      rw [scannedFrom] at h
      split at h
      · rename_i op words hline
        obtain rfl | hmem := List.mem_cons.1 h
        · exact ⟨0, rfl, by simp, hline⟩
        · exact hrest hmem
      · exact hrest h

theorem Reads.size_scanned (h : draft.Reads above) :
    draft.scanned.size = above.countP isInstruction := by
  rw [← Array.length_toList, h.scanned, length_scannedFrom h.opcode]

/-- A line at fault does not fit. -/
theorem Reads.addLine_of_fault (h : draft.Reads above) (hfault : LineFault above line fault)
    (number : Int) : draft.addLine ⟨number, line⟩ = .error fault := by
  rw [addLine]
  cases hfault with
  | name hname => rw [ofLine_of_label hname]; rfl
  | duplicate hname hne hmem =>
      have hcontains : draft.labels.contains _ :=
        NameTable.contains_iff.2 (by rw [h.labels]; exact mem_names_labelTable.2 hmem)
      rw [ofLine_of_label hname, if_neg (by simpa using hne)]
      exact if_pos hcontains
  | opcode hinst hop => rw [ofLine_of_instruction hinst, Opcode.parse_eq_error hop]; rfl

/-- Reading one more line, in terms of what the line adds. -/
theorem Reads.append {next : Draft} (h : draft.Reads above)
    (hscanned : next.scanned.toList = draft.scanned.toList ++ scannedFrom above.length [line])
    (hlabels : next.labels = draft.labels.insertAll (labelsFrom draft.scanned.size [line]))
    (hopcode : isInstruction line → ∃ op : Opcode, opcodeWord line = op.name)
    (hdistinct : ∀ name, labelName? line = some name → name ∉ above.filterMap labelName?) :
    next.Reads (above ++ [line]) where
  scanned := by rw [hscanned, h.scanned, scannedFrom_append, Nat.zero_add]
  labels := by rw [hlabels, h.labels, h.size_scanned, labelTable_append]
  opcode := by
    intro l hl
    obtain hl | hl := List.mem_append.1 hl
    · exact h.opcode l hl
    · rw [List.mem_singleton.1 hl]
      exact hopcode
  distinct := by
    rw [List.filterMap_append, List.nodup_append]
    refine ⟨h.distinct, ?_, ?_⟩
    · cases hname : labelName? line <;> simp [hname]
    · rintro name hname other hother rfl
      have hother : labelName? line = some name := by simpa using hother
      exact hdistinct name hother hname

/-- A line that is not at fault is read. -/
theorem Reads.addLine (h : draft.Reads above) (hfault : ∀ fault, ¬ LineFault above line fault) :
    ∃ next, draft.addLine ⟨above.length + 1, line⟩ = .ok next ∧ next.Reads (above ++ [line]) := by
  obtain ⟨hblank, hname, hinst⟩ | ⟨name, hname, hinst⟩ | ⟨hname, hinst⟩ := kind_cases line
  · have hline := ofLine_of_blank hblank
    refine ⟨draft, by rw [Draft.addLine, hline], h.append ?_ ?_ ?_ ?_⟩
    · simp [scannedFrom, hline]
    · simp [labelsFrom, hname, NameTable.insertAll]
    · simp [hinst]
    · simp [hname]
  · have hne : name ≠ [] := by
      rintro rfl
      exact hfault _ (.name hname)
    have hfresh : name ∉ above.filterMap labelName? := fun hmem =>
      hfault _ (.duplicate hname hne hmem)
    have hline : ofLine line = .ok (.label name) := by
      rw [ofLine_of_label hname, if_neg (by simpa using hne)]
    have hcontains : ¬ draft.labels.contains name := by
      rw [NameTable.contains_iff, h.labels, mem_names_labelTable]
      exact hfresh
    refine ⟨{ draft with labels := draft.labels.insert name (Int64.ofNat draft.scanned.size) },
      ?_, h.append ?_ ?_ ?_ ?_⟩
    · rw [Draft.addLine, hline]
      exact if_neg hcontains
    · simp [scannedFrom, hline]
    · simp [labelsFrom, hname, NameTable.insertAll]
    · simp [hinst]
    · rintro other hother
      rw [hname] at hother
      cases hother
      exact hfresh
  · have hop : ∃ op : Opcode, opcodeWord line = op.name := by
      by_contra hnone
      exact hfault _ (.opcode hinst (not_exists.1 hnone))
    obtain ⟨op, hop⟩ := hop
    have hline := ofLine_of_opcode hinst hop
    refine ⟨{ draft with
      scanned := draft.scanned.push ⟨⟨above.length + 1, line⟩, op, operandWords line⟩ },
      by rw [Draft.addLine, hline], h.append ?_ ?_ ?_ ?_⟩
    · simp [scannedFrom, hline]
    · simp [labelsFrom, hname, NameTable.insertAll]
    · exact fun _ => ⟨op, hop⟩
    · simp [hname]

/-- Lines of which none is at fault are read to the end. -/
theorem Reads.addLines (h : draft.Reads above) (hrest : Faultless (above ++ rest)) :
    ∃ next, draft.addLines above.length rest = (next, (above ++ rest).length, none) ∧
      next.Reads (above ++ rest) := by
  induction rest generalizing above draft with
  | nil =>
      rw [List.append_nil]
      exact ⟨draft, rfl, h⟩
  | cons line rest ih =>
      have hline (fault : Fault) : ¬ LineFault above line fault := fun hfault =>
        hrest above.length line fault ⟨by simp, by simpa using hfault⟩
      obtain ⟨mid, hadd, hmid⟩ := h.addLine hline
      rw [List.append_cons] at hrest ⊢
      obtain ⟨next, hnext, hreads⟩ := ih hmid hrest
      refine ⟨next, ?_, hreads⟩
      rw [Draft.addLines, hadd]
      simpa using hnext

theorem addLines_append {next : Draft} {count count' : Nat} {lines : List Text}
    (h : draft.addLines count lines = (next, count', none)) (lines' : List Text) :
    draft.addLines count (lines ++ lines') = next.addLines count' lines' := by
  induction lines generalizing draft count with
  | nil =>
      cases h
      rfl
  | cons line lines ih =>
      rw [List.cons_append]
      rw [Draft.addLines] at h ⊢
      cases hadd : draft.addLine ⟨count + 1, line⟩ with
      | error fault => rw [hadd] at h; cases h
      | ok mid =>
          rw [hadd] at h
          exact ih h

/-- The first pass over lines of which none is at fault. -/
theorem addLines_of_faultless {lines : List Text} (h : Faultless lines) :
    ∃ draft, empty.addLines 0 lines = (draft, lines.length, none) ∧ draft.Reads lines :=
  reads_empty.addLines h

/-- The first pass ends at the first line at fault, with the draft of the lines above. -/
theorem addLines_of_fault {lines : List Text} {i : Nat} (h : First (LineFaultAt lines) i line fault) :
    ∃ draft, empty.addLines 0 lines =
        (draft, i + 1, some ⟨[.source (i + 1) line], fault⟩) ∧
      draft.Reads (lines.take i) := by
  obtain ⟨hlt, rfl⟩ := List.getElem?_eq_some_iff.1 h.here.found
  obtain ⟨draft, hadd, hreads⟩ := addLines_of_faultless h.faultless_take
  rw [List.length_take, Nat.min_eq_left (Nat.le_of_lt hlt)] at hadd
  refine ⟨draft, ?_, hreads⟩
  have hsplit := addLines_append hadd (lines.drop i)
  rw [List.take_append_drop, List.drop_eq_getElem_cons hlt] at hsplit
  rw [hsplit, Draft.addLines, hreads.addLine_of_fault h.here.atFault]

end Draft

end RegisterMachine

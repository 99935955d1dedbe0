import RegisterMachine.Proofs.Assembler.Expressions
import RegisterMachine.Proofs.Assembler.FirstPass

/-!
# Why a text is rejected

A text is rejected for the first of these: a line at fault in the first pass, the end of the
reader, a missing entry, an instruction line at fault in the second pass. Within a pass the first
line at fault counts, within a line the first expression, and expressions count before the number
of operands. A text without any of these is accepted.
-/
namespace RegisterMachine

open Text (ofString byte)
open LineContent (isInstruction labelName? opcodeWord operandWords)
open Source (First LineFaultAt Faultless Declares)

namespace Scanned

/-- The word can be an operand: it is no expression, or its value can be an operand. -/
def Usable (evaluate : Text → Evaluation × Text) (word : Text) : Prop :=
  ∀ e, expression? word = some e → (evaluate e).1.IsOperand

/-- A fault that an instruction line has in the second pass. -/
inductive OperandFault (evaluate : Text → Evaluation × Text) (line : Text) : Fault → Prop
  | expression {k : Nat} {word e : Text} : (operandWords line)[k]? = some word →
      expression? word = some e → ¬ (evaluate e).1.IsOperand →
      (∀ earlier ∈ (operandWords line).take k, Usable evaluate earlier) →
      OperandFault evaluate line ((evaluate e).1.fault e)
  | extra : (∀ word ∈ operandWords line, Usable evaluate word) → 3 < (operandWords line).length →
      OperandFault evaluate line .operandExtra
  | missing {op : Opcode} : (∀ word ∈ operandWords line, Usable evaluate word) →
      opcodeWord line = op.name → (operandWords line).length < op.arity →
      OperandFault evaluate line .operandMissing

variable {evaluate : Text → Evaluation × Text} {words : List Text} {line : Text} {fault : Fault}

theorem token_eq_ok {value : Evaluation} (h : value.IsOperand) (e : Text) :
    ∃ t, token e value = .ok t := by
  cases value with
  | integer n =>
      have hrange : ¬ (n < 0 ∨ 9223372036854775808 ≤ n) := by
        simp only [Evaluation.IsOperand] at h
        omega
      exact ⟨Text.signedDecimal n, by rw [token, if_neg hrange]⟩
  | text t => exact ⟨_, rfl⟩
  | other => cases h
  | failed => cases h

theorem Usable.evaluateWord {word : Text} (h : Usable evaluate word) :
    ∃ t, (evaluateWord evaluate word).1 = .ok t := by
  cases he : expression? word with
  | none => exact ⟨word, by rw [Scanned.evaluateWord, he]⟩
  | some e =>
      rw [evaluateWord_of_expression he]
      exact token_eq_ok (h e he) e

theorem evaluateWords_of_usable (h : ∀ word ∈ words, Usable evaluate word) :
    ∃ tokens, (evaluateWords evaluate words).1 = .ok tokens ∧ tokens.length = words.length := by
  induction words with
  | nil => exact ⟨[], rfl, rfl⟩
  | cons word words ih =>
      obtain ⟨token, htoken⟩ := (h word (by simp)).evaluateWord
      obtain ⟨tokens, htokens, hlength⟩ := ih fun w hw => h w (List.mem_cons_of_mem _ hw)
      refine ⟨token :: tokens, ?_, by simp [hlength]⟩
      rw [evaluateWords_cons, htoken, htokens]
      rfl

/-- All words can be operands, or there is a first one that cannot. -/
theorem usable_or_first (evaluate : Text → Evaluation × Text) (words : List Text) :
    (∀ word ∈ words, Usable evaluate word) ∨
      ∃ (k : Nat) (word e : Text), words[k]? = some word ∧ expression? word = some e ∧
        ¬ (evaluate e).1.IsOperand ∧ ∀ earlier ∈ words.take k, Usable evaluate earlier := by
  induction words with
  | nil => exact .inl (by simp)
  | cons first words ih =>
      by_cases hfirst : Usable evaluate first
      · obtain hall | ⟨k, word, e, hk, he, hvalue, hearlier⟩ := ih
        · exact .inl (List.forall_mem_cons.2 ⟨hfirst, hall⟩)
        · refine .inr ⟨k + 1, word, e, hk, he, hvalue, ?_⟩
          rw [List.take_succ_cons]
          exact List.forall_mem_cons.2 ⟨hfirst, hearlier⟩
      · simp only [Usable, not_forall] at hfirst
        obtain ⟨e, he, hvalue⟩ := hfirst
        exact .inr ⟨0, first, e, rfl, he, hvalue, by simp⟩

theorem evaluateWords_of_first {k : Nat} {word e : Text} (hk : words[k]? = some word)
    (he : expression? word = some e) (hvalue : ¬ (evaluate e).1.IsOperand)
    (hearlier : ∀ earlier ∈ words.take k, Usable evaluate earlier) :
    (evaluateWords evaluate words).1 = .error ((evaluate e).1.fault e) := by
  obtain ⟨hlt, rfl⟩ := List.getElem?_eq_some_iff.1 hk
  have hword : (evaluateWord evaluate words[k]).1 = .error ((evaluate e).1.fault e) := by
    rw [evaluateWord_of_expression he, token_eq_error hvalue]
  have hall : (evaluateWords evaluate (words.take k ++ words[k] :: words.drop (k + 1))).1 =
      .error ((evaluate e).1.fault e) :=
    evaluateWords_eq_error (fun w hw => (hearlier w hw).evaluateWord) hword
  rwa [← List.drop_eq_getElem_cons hlt, List.take_append_drop] at hall

end Scanned

theorem Opcode.name_injective {op op' : Opcode} (h : op.name = op'.name) : op = op' := by
  have hparse := Opcode.parse_name op
  rw [h, Opcode.parse_name] at hparse
  exact (Except.ok.inj hparse).symm

theorem Opcode.arity_le_two (op : Opcode) : op.arity ≤ 2 := by cases op <;> decide

namespace Instruction

theorem make_of_extra {op : Opcode} {tokens : List Text} (h : 3 < tokens.length) :
    make op tokens = .error .operandExtra := by
  unfold make
  exact if_pos h

theorem make_of_missing {op : Opcode} {tokens : List Text} (h : tokens.length < op.arity) :
    make op tokens = .error .operandMissing := by
  have harity := op.arity_le_two
  have hlimit : ¬ operandLimit < tokens.length := by
    show ¬ 3 < tokens.length
    omega
  unfold make
  rw [if_neg hlimit]
  match tokens with
  | [] => cases op <;> first | rfl | exact absurd h (by simp [Opcode.arity])
  | [a] => cases op <;> first | rfl | exact absurd h (by simp [Opcode.arity])
  | a :: b :: rest =>
      rw [List.length_cons, List.length_cons] at h
      omega

theorem make_of_arity {op : Opcode} {tokens : List Text} (hlimit : tokens.length ≤ 3)
    (h : op.arity ≤ tokens.length) : ∃ inst, make op tokens = .ok inst := by
  have hmost : ¬ operandLimit < tokens.length := Nat.not_lt.2 hlimit
  unfold make
  rw [if_neg hmost]
  match tokens with
  | [] => cases op <;> first | exact ⟨_, rfl⟩ | exact absurd h (by simp [Opcode.arity])
  | [a] => cases op <;> first | exact ⟨_, rfl⟩ | exact absurd h (by simp [Opcode.arity])
  | a :: b :: rest => cases op <;> exact ⟨_, rfl⟩

end Instruction

namespace Scanned

variable {evaluate : Text → Evaluation × Text} {lines : List Text} {line : Text} {fault : Fault}
  {i : Nat} {op : Opcode}

theorem build_of_operandFault (h : OperandFault evaluate line fault)
    (hop : opcodeWord line = op.name) (source : SourceLine) :
    (build evaluate ⟨source, op, operandWords line⟩).1 = .error fault := by
  rw [build]
  cases h with
  | expression hk he hvalue hearlier =>
      simp only [evaluateWords_of_first hk he hvalue hearlier]
      rfl
  | extra husable hlength =>
      obtain ⟨tokens, htokens, hsame⟩ := evaluateWords_of_usable husable
      rw [← hsame] at hlength
      simp only [htokens]
      exact Instruction.make_of_extra hlength
  | missing husable hname hlength =>
      obtain ⟨tokens, htokens, hsame⟩ := evaluateWords_of_usable husable
      obtain rfl := Opcode.name_injective (hop.symm.trans hname)
      rw [← hsame] at hlength
      simp only [htokens]
      exact Instruction.make_of_missing hlength

theorem build_of_faultless (h : ∀ fault, ¬ OperandFault evaluate line fault)
    (hop : opcodeWord line = op.name) (source : SourceLine) :
    ∃ inst, (build evaluate ⟨source, op, operandWords line⟩).1 = .ok inst := by
  obtain husable | ⟨k, word, e, hk, he, hvalue, hearlier⟩ :=
    usable_or_first evaluate (operandWords line)
  · obtain ⟨tokens, htokens, hsame⟩ := evaluateWords_of_usable husable
    have hlimit : tokens.length ≤ 3 := by
      by_contra hextra
      exact h _ (.extra husable (by omega))
    have harity : op.arity ≤ tokens.length := by
      by_contra hmissing
      exact h _ (.missing husable hop (by omega))
    obtain ⟨inst, hinst⟩ := Instruction.make_of_arity hlimit harity
    exact ⟨inst, build_eq_ok.2 ⟨tokens, htokens, hinst⟩⟩
  · exact absurd (.expression hk he hvalue hearlier) (h _)

/-- Line `i` of some lines is at fault in the second pass. -/
structure OperandFaultAt (evaluate : Text → Evaluation × Text) (lines : List Text) (i : Nat)
    (line : Text) (fault : Fault) : Prop where
  found : lines[i]? = some line
  instruction : isInstruction line
  atFault : OperandFault evaluate line fault

/-- Lines that are not at fault in the second pass are built. -/
theorem build_of_mem_scannedFrom {lines' : List Text} (hbegin : lines' <+: lines)
    (h : ∀ j < lines'.length, ∀ line fault, ¬ OperandFaultAt evaluate lines j line fault)
    {s : Scanned} (hs : s ∈ Draft.scannedFrom 0 lines') :
    ∃ inst, (s.build evaluate).1 = .ok inst := by
  obtain ⟨j, hj, -, hcontent⟩ := Draft.mem_scannedFrom hs
  obtain ⟨hinst, hop, hwords⟩ := LineContent.words_of_ofLine hcontent
  obtain ⟨hlt, -⟩ := List.getElem?_eq_some_iff.1 hj
  have hfound : lines[j]? = some s.line.text := by
    obtain ⟨after, rfl⟩ := hbegin
    rw [List.getElem?_append_left hlt, hj]
  have hbuild := build_of_faultless
    (fun fault hfault => h j hlt s.line.text fault ⟨hfound, hinst, hfault⟩) hop s.line
  rwa [← hwords] at hbuild

end Scanned

namespace Assembler

open Scanned (OperandFaultAt)

/-- The meaning of the expressions of a text. -/
def meaning (evaluate : Evaluator) (asm : Assembler) (reader : Reader) :
    Text → Evaluation × Text :=
  evaluate (environment asm.predefined (Source.labelTable (Source.ofReader reader).lines))

/-- The failures for which a text is rejected. -/
inductive Rejected (evaluate : Evaluator) (asm : Assembler) (reader : Reader) : Failure → Prop
  /-- A label without a name or with a name declared above, or an unknown opcode. -/
  | line {i : Nat} {line : Text} {fault : Fault} :
      First (LineFaultAt (Source.ofReader reader).lines) i line fault →
      Rejected evaluate asm reader ⟨[.source (i + 1) line], fault⟩
  /-- The reader fails or comes to a line that is too long. -/
  | ending {fault : Fault} : Faultless (Source.ofReader reader).lines →
      (Source.ofReader reader).fault = some fault →
      Rejected evaluate asm reader
        ⟨[.source ((Source.ofReader reader).lines.length + 1) []], fault⟩
  /-- The entry is not declared. -/
  | entry : Faultless (Source.ofReader reader).lines → (Source.ofReader reader).fault = none →
      asm.entry ∉ (Source.ofReader reader).lines.filterMap labelName? →
      Rejected evaluate asm reader (.ofFault (.entryMissing asm.entry))
  /-- An expression has no value for an operand, or the number of operands is wrong. -/
  | operand {i : Nat} {line : Text} {fault : Fault} :
      Faultless (Source.ofReader reader).lines → (Source.ofReader reader).fault = none →
      asm.entry ∈ (Source.ofReader reader).lines.filterMap labelName? →
      First (OperandFaultAt (asm.meaning evaluate reader) (Source.ofReader reader).lines) i line
        fault →
      Rejected evaluate asm reader ⟨[.source (i + 1) line], fault⟩

/-- No reason to reject the text. -/
structure Accepted (evaluate : Evaluator) (asm : Assembler) (reader : Reader) : Prop where
  lines : Faultless (Source.ofReader reader).lines
  ending : (Source.ofReader reader).fault = none
  entry : asm.entry ∈ (Source.ofReader reader).lines.filterMap labelName?
  operands : ∀ i line fault,
    ¬ OperandFaultAt (asm.meaning evaluate reader) (Source.ofReader reader).lines i line fault

variable {evaluate : Evaluator} {asm : Assembler} {reader : Reader} {i : Nat} {line : Text}
  {fault : Fault}

/-- The draft of lines that are not at fault in the first pass. -/
theorem addLines_ofReader (h : Faultless (Source.ofReader reader).lines) :
    ∃ draft, Draft.empty.addLines 0 (Source.ofReader reader).lines =
        (draft, (Source.ofReader reader).lines.length, none) ∧
      draft.labels = Source.labelTable (Source.ofReader reader).lines := by
  obtain ⟨draft, hadd, hreads⟩ := Draft.addLines_of_faultless h
  exact ⟨draft, hadd, hreads.labels⟩

theorem labels_of_faultless (h : Faultless (Source.ofReader reader).lines) :
    (asm.parse evaluate reader).2.labels =
      Source.labelTable (Source.ofReader reader).lines := by
  obtain ⟨draft, hadd, hlabels⟩ := addLines_ofReader h
  rw [labels_parse, hadd, hlabels]

/-- The entry is in the table exactly if some line declares it. -/
theorem find?_entry {lines : List Text} :
    (Source.labelTable lines).find? asm.entry = none ↔
      asm.entry ∉ lines.filterMap labelName? := by
  rw [← Source.mem_names_labelTable, ← NameTable.contains_iff, NameTable.contains]
  simp

theorem parse_of_lineFault (h : First (LineFaultAt (Source.ofReader reader).lines) i line fault) :
    (asm.parse evaluate reader).1 = .error ⟨[.source (i + 1) line], fault⟩ ∧
      (asm.parse evaluate reader).2.labels =
        Source.labelTable ((Source.ofReader reader).lines.take i) := by
  obtain ⟨draft, hadd, hreads⟩ := Draft.addLines_of_fault h
  rw [labels_parse, parse, draft_cleared, hadd]
  exact ⟨rfl, hreads.labels⟩

theorem parse_of_ending (h : Faultless (Source.ofReader reader).lines)
    (hending : (Source.ofReader reader).fault = some fault) :
    (asm.parse evaluate reader).1 =
      .error ⟨[.source ((Source.ofReader reader).lines.length + 1) []], fault⟩ := by
  obtain ⟨draft, hadd, -⟩ := addLines_ofReader h
  simp only [parse, draft_cleared, hadd, hending]

theorem parse_of_noEntry (h : Faultless (Source.ofReader reader).lines)
    (hending : (Source.ofReader reader).fault = none)
    (hentry : asm.entry ∉ (Source.ofReader reader).lines.filterMap labelName?) :
    (asm.parse evaluate reader).1 = .error (.ofFault (.entryMissing asm.entry)) := by
  obtain ⟨draft, hadd, hlabels⟩ := addLines_ofReader h
  rw [← find?_entry, ← hlabels] at hentry
  simp only [parse, draft_cleared, hadd, hending, finish, hentry]

theorem reachesSecondPass_of_faultless (h : Faultless (Source.ofReader reader).lines)
    (hending : (Source.ofReader reader).fault = none)
    (hentry : asm.entry ∈ (Source.ofReader reader).lines.filterMap labelName?) :
    asm.ReachesSecondPass reader := by
  obtain ⟨draft, hadd, hlabels⟩ := addLines_ofReader h
  refine ⟨by rw [hadd], hending, ?_⟩
  rw [hadd, Option.isSome_iff_ne_none]
  dsimp only
  rw [hlabels, Ne, find?_entry, not_not]
  exact hentry

theorem parse_of_operandFault (h : Faultless (Source.ofReader reader).lines)
    (hending : (Source.ofReader reader).fault = none)
    (hentry : asm.entry ∈ (Source.ofReader reader).lines.filterMap labelName?)
    (hfirst : First (OperandFaultAt (asm.meaning evaluate reader)
      (Source.ofReader reader).lines) i line fault) :
    (asm.parse evaluate reader).1 = .error ⟨[.source (i + 1) line], fault⟩ := by
  have hreach := reachesSecondPass_of_faultless h hending hentry
  obtain ⟨draft, -, hreads⟩ := Draft.addLines_of_faultless h
  obtain ⟨hfound, hinst, hfault⟩ := hfirst.here
  obtain ⟨op, hop⟩ := hreads.opcode line (List.mem_of_getElem? hfound) hinst
  refine hreach.parse_eq_error ?_
  rw [labels_of_faultless h,
    Draft.scannedFrom_split hfound (LineContent.ofLine_of_opcode hinst hop)]
  refine Scanned.buildAll_eq_error (fun s hs => ?_) (Scanned.build_of_operandFault hfault hop _)
  refine Scanned.build_of_mem_scannedFrom (List.take_prefix i _) (fun j hj => ?_) hs
  rw [List.length_take] at hj
  exact hfirst.least j (by omega)

theorem exists_map_ok {α β ε : Type} {f : α → Except ε β} {xs : List α}
    (h : ∀ x ∈ xs, ∃ y, f x = .ok y) : ∃ ys : List β, xs.map f = ys.map .ok := by
  induction xs with
  | nil => exact ⟨[], rfl⟩
  | cons x xs ih =>
      obtain ⟨y, hy⟩ := h x (by simp)
      obtain ⟨ys, hys⟩ := ih fun x' hx' => h x' (List.mem_cons_of_mem _ hx')
      exact ⟨y :: ys, by rw [List.map_cons, List.map_cons, hy, hys]⟩

theorem Accepted.parse (h : Accepted evaluate asm reader) :
    ∃ program, (asm.parse evaluate reader).1 = .ok program := by
  obtain ⟨draft, hadd, hreads⟩ := Draft.addLines_of_faultless h.lines
  have hbuild (s : Scanned) (hs : s ∈ draft.scanned.toList) :
      ∃ inst, (s.build (asm.meaning evaluate reader)).1 = .ok inst := by
    rw [hreads.scanned] at hs
    exact Scanned.build_of_mem_scannedFrom List.prefix_rfl (fun j _ => h.operands j) hs
  obtain ⟨built, hbuilt⟩ := exists_map_ok hbuild
  have hentry : draft.labels.find? asm.entry ≠ none := by
    rw [hreads.labels, Ne, find?_entry, not_not]
    exact h.entry
  obtain ⟨entry, hfound⟩ := Option.ne_none_iff_exists'.1 hentry
  have hall : (Scanned.buildAll (evaluate (environment asm.predefined draft.labels)) #[]
      draft.scanned.toList).1 = .ok (#[] ++ built.toArray) := by
    rw [hreads.labels]
    exact Scanned.buildAll_eq_ok.2 ⟨built, rfl, hbuilt⟩
  have hfinish := finish_eq_ok.2 ⟨entry, _, hfound, hall, rfl⟩
  exact ⟨_, parse_eq_ok.2 ⟨by rw [hadd], h.ending, by rw [hadd]; exact hfinish⟩⟩

/-- A reason to reject a text is a failure of the parse. -/
theorem Rejected.parse {failure : Failure} (h : Rejected evaluate asm reader failure) :
    (asm.parse evaluate reader).1 = .error failure := by
  cases h with
  | line hfirst => exact (parse_of_lineFault hfirst).1
  | ending hlines hending => exact parse_of_ending hlines hending
  | entry hlines hending hentry => exact parse_of_noEntry hlines hending hentry
  | operand hlines hending hentry hfirst =>
      exact parse_of_operandFault hlines hending hentry hfirst

/-- No text is without an outcome. -/
theorem accepted_or_rejected (evaluate : Evaluator) (asm : Assembler) (reader : Reader) :
    Accepted evaluate asm reader ∨ ∃ failure, Rejected evaluate asm reader failure := by
  obtain hlines | ⟨i, line, fault, hfirst⟩ :=
    Source.none_or_first (LineFaultAt (Source.ofReader reader).lines)
  · cases hending : (Source.ofReader reader).fault with
    | some fault => exact .inr ⟨_, .ending hlines hending⟩
    | none =>
        by_cases hentry : asm.entry ∈ (Source.ofReader reader).lines.filterMap labelName?
        · obtain hnone | ⟨i, line, fault, hfirst⟩ := Source.none_or_first
            (OperandFaultAt (asm.meaning evaluate reader) (Source.ofReader reader).lines)
          · exact .inl ⟨hlines, hending, hentry, hnone⟩
          · exact .inr ⟨_, .operand hlines hending hentry hfirst⟩
        · exact .inr ⟨_, .entry hlines hending hentry⟩
  · exact .inr ⟨_, .line hfirst⟩

/-- A parse fails exactly with the first reason to reject the text, and succeeds exactly if there
is none. A line at fault in the first pass leaves the labels of the lines above it. -/
theorem parse_outcome (evaluate : Evaluator) (asm : Assembler) (reader : Reader) :
    (∀ failure, (asm.parse evaluate reader).1 = .error failure ↔
      Rejected evaluate asm reader failure) ∧
    ((∃ program, (asm.parse evaluate reader).1 = .ok program) ↔ Accepted evaluate asm reader) ∧
    ∀ i line fault, First (LineFaultAt (Source.ofReader reader).lines) i line fault →
      ∀ name index, (asm.parse evaluate reader).2.labels.find? name = some index ↔
        Declares ((Source.ofReader reader).lines.take i) name index := by
  refine ⟨fun failure => ⟨fun h => ?_, Rejected.parse⟩, ⟨fun ⟨program, h⟩ => ?_, Accepted.parse⟩,
    fun i line fault hfirst name index => ?_⟩
  · obtain haccepted | ⟨failure', hrejected⟩ := accepted_or_rejected evaluate asm reader
    · obtain ⟨program, hparse⟩ := haccepted.parse
      rw [hparse] at h
      cases h
    · have hparse := hrejected.parse
      rw [h] at hparse
      cases hparse
      exact hrejected
  · obtain haccepted | ⟨failure, hrejected⟩ := accepted_or_rejected evaluate asm reader
    · exact haccepted
    · rw [hrejected.parse] at h
      cases h
  · obtain ⟨draft, -, hreads⟩ := Draft.addLines_of_fault hfirst
    rw [(parse_of_lineFault hfirst).2, Source.find?_labelTable hreads.distinct]

def faultyText : Text := ofString "!s\nmov:1\nfoo\n!s"

theorem first_fault_of_faultyText :
    First (LineFaultAt (Source.ofReader (Reader.ofText faultyText)).lines) 2 (ofString "foo")
      (.unknownOpcode (ofString "foo")) := by
  have hlines : (Source.ofReader (Reader.ofText faultyText)).lines =
      [ofString "!s", ofString "mov:1", ofString "foo", ofString "!s"] := by decide
  have hlabel : labelName? (ofString "!s") = some (ofString "s") := by decide +kernel
  have hmov : labelName? (ofString "mov:1") = none ∧
      opcodeWord (ofString "mov:1") = Opcode.mov.name := by decide +kernel
  have hfoo : isInstruction (ofString "foo") ∧ opcodeWord (ofString "foo") = ofString "foo" := by
    decide +kernel
  have hunknown : Source.LineFault [ofString "!s", ofString "mov:1"] (ofString "foo")
      (.unknownOpcode (opcodeWord (ofString "foo"))) :=
    .opcode hfoo.1 (by rw [hfoo.2]; intro op; cases op <;> decide)
  rw [hfoo.2] at hunknown
  rw [hlines]
  refine ⟨⟨rfl, hunknown⟩, fun j hj line fault hfault => ?_⟩
  obtain ⟨hfound, hfault⟩ := hfault
  obtain rfl | rfl : j = 0 ∨ j = 1 := by omega
  · cases hfound
    cases hfault with
    | name hname => rw [hlabel] at hname; cases hname
    | duplicate _ _ hmem => cases hmem
    | opcode hinst _ => exact absurd hinst (by decide +kernel)
  · cases hfound
    cases hfault with
    | name hname => rw [hmov.1] at hname; cases hname
    | duplicate hname _ _ => rw [hmov.1] at hname; cases hname
    | opcode _ hop => exact hop .mov hmov.2

theorem parse_outcome_of_faultyText :
    (initial.parse (fun _ _ => (.failed, [])) (Reader.ofText faultyText)).1 =
        .error ⟨[.source 3 (ofString "foo")], .unknownOpcode (ofString "foo")⟩ ∧
      (initial.parse (fun _ _ => (.failed, [])) (Reader.ofText faultyText)).2.labels.find?
        (ofString "s") = some 0 := by
  have hfirst := first_fault_of_faultyText
  obtain ⟨hrejected, -, hlabels⟩ :=
    parse_outcome (fun _ _ => (.failed, [])) initial (Reader.ofText faultyText)
  refine ⟨(hrejected _).2 (.line hfirst), (hlabels _ _ _ hfirst _ _).2 ⟨0, ?_, rfl⟩⟩
  decide +kernel

end Assembler

end RegisterMachine

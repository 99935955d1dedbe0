import RegisterMachine.Proofs.Assembler.Expressions
import RegisterMachine.Proofs.Expression.Names
import RegisterMachine.Settings.Basic

/-!
# Constants in program texts

An operand that is the name of a constant is assembled to the numeral of its value: a text is
accepted as soon as it is accepted with the numeral in place of the name, and then as the same
program. That holds for every name that settings may have and that is free in expressions. With any
other name that settings may have, no text is accepted.
-/
namespace RegisterMachine

open Text (ofString byte)

namespace Settings

/-- Some valid settings have a constant of that name. -/
def AcceptsName (name : Text) : Prop :=
  ∃ s : Settings, s.validate = .ok s ∧ s.defines.contains name

theorem validate_eq_ok {s : Settings} : s.validate = .ok s ↔ s.issues = [] := by
  rw [validate]
  cases hissues : s.issues with
  | nil => simp
  | cons issue rest => simp

/-- There is no issue with the name of a constant exactly if it is an identifier. -/
theorem nameIssues_eq_nil {s : Settings} :
    s.nameIssues = [] ↔ ∀ entry ∈ s.defines.entries, entry.1.isIdentifier := by
  have hlength : s.nameIssues.length =
      (s.defines.entries.filter fun entry => !Text.isIdentifier entry.1).length := by
    rw [nameIssues, List.length_mergeSort, List.length_map]
  rw [← List.length_eq_zero_iff, hlength, List.length_eq_zero_iff, List.filter_eq_nil_iff]
  simp

/-- Exactly identifiers may be names of constants. -/
theorem acceptsName_iff {name : Text} : AcceptsName name ↔ name.isIdentifier := by
  constructor
  · rintro ⟨s, hvalid, hname⟩
    rw [validate_eq_ok, issues, List.append_eq_nil_iff, nameIssues_eq_nil] at hvalid
    obtain ⟨entry, hentry, rfl⟩ := List.mem_map.1 (NameTable.contains_iff.1 hname)
    exact hvalid.2 entry hentry
  · intro h
    have hinitial : initial.issues = [] := by decide +kernel
    rw [issues, List.append_eq_nil_iff] at hinitial
    refine ⟨{ initial with defines := .ofPairs [(name, 0)] }, ?_, ?_⟩
    · rw [validate_eq_ok, issues, List.append_eq_nil_iff, nameIssues_eq_nil]
      exact ⟨hinitial.1, by simpa using h⟩
    · simp [NameTable.contains, NameTable.find?]

end Settings

namespace Assembler

def predefineAll (asm : Assembler) (pairs : List (Text × Int64)) : Assembler :=
  pairs.foldl (fun asm pair => asm.predefine pair.1 pair.2) asm

/-- The last definition of the name was with that value. -/
def LastPredefined (asm : Assembler) (name : Text) (value : Int64) : Prop :=
  ∃ (start : Assembler) (later : List (Text × Int64)),
    asm = (start.predefine name value).predefineAll later ∧ name ∉ later.map (·.1)

theorem predefineAll_eq (asm : Assembler) (pairs : List (Text × Int64)) :
    asm.predefineAll pairs = { asm with predefined := asm.predefined.insertAll pairs } := by
  induction pairs generalizing asm with
  | nil => rfl
  | cons pair pairs ih => exact ih (asm.predefine pair.1 pair.2)

theorem predefined_predefineAll (asm : Assembler) (pairs : List (Text × Int64)) :
    (asm.predefineAll pairs).predefined = asm.predefined.insertAll pairs := by
  rw [predefineAll_eq]

theorem LastPredefined.find? {asm : Assembler} {name : Text} {value : Int64}
    (h : asm.LastPredefined name value) : asm.predefined.find? name = some value := by
  obtain ⟨start, later, rfl, hlater⟩ := h
  have hpredefined : (start.predefine name value).predefined = start.predefined.insert name value :=
    rfl
  rw [predefined_predefineAll, NameTable.find?_insertAll_of_not_mem hlater, hpredefined,
    NameTable.find?_insert, if_pos rfl]

variable {evaluate : Evaluator} {asm : Assembler} {reader reader' : Reader} {name : Text}
  {value : Int64}

/-- No line of the text declares a label of that name. -/
def NoLabel (reader : Reader) (name : Text) : Prop :=
  ∀ line ∈ (Source.ofReader reader).lines, LineContent.ofLine line ≠ .ok (.label name)

/-- A constant is known to the expressions of a text that declares no label of its name. -/
theorem find?_namesOf (hlast : asm.LastPredefined name value) (hlabel : NoLabel reader name) :
    (asm.namesOf evaluate reader).find? name = some value := by
  have hfresh : name ∉ (asm.parse evaluate reader).2.labels.entries.map (·.1) := by
    rw [labels_parse]
    intro hmem
    obtain ⟨entry, hentry, rfl⟩ := List.mem_map.1 hmem
    obtain ⟨line, hline, hcontent⟩ :=
      (Draft.sound_ofLines (Source.ofReader reader).lines 0).label entry hentry
    exact hlabel line hline hcontent
  rw [namesOf, environment, NameTable.find?_insertAll_of_not_mem hfresh, hlast.find?]

end Assembler

namespace Scanned

/-- A word with a token in place of `$(name)`. -/
def substituteWord (name token word : Text) : Text :=
  if expression? word = some name then token else word

/-- An instruction line with a token in place of each operand `$(name)`. -/
def substitute (name token : Text) (s : Scanned) : Scanned :=
  { s with words := s.words.map (substituteWord name token) }

variable {evaluate : Text → Evaluation × Text} {name token : Text}

theorem expression?_decimal (n : Nat) : expression? (Text.decimal n) = none := by
  have hdigits (b : UInt8) (hb : b ∈ Text.decimal n) : b ≠ byte '$' := by
    rintro rfl
    exact absurd (Text.isDigit_of_mem_decimal hb) (by decide)
  rcases htext : Text.decimal n with _ | ⟨first, _ | ⟨second, rest⟩⟩
  · rfl
  · rfl
  · have hfirst : first ≠ byte '$' := hdigits first (by simp [htext])
    simp [expression?, hfirst]

/-- What a token has to be to stand for an expression: the token of its value, and no expression
itself. -/
structure StandsFor (evaluate : Text → Evaluation × Text) (name token : Text) : Prop where
  plain : expression? token = none
  token : (Scanned.token name (evaluate name).1) = .ok token

theorem evaluateWord_substitute (h : StandsFor evaluate name token) (word : Text) :
    (evaluateWord evaluate (substituteWord name token word)).1 =
      (evaluateWord evaluate word).1 := by
  rw [substituteWord]
  by_cases hword : expression? word = some name
  · rw [if_pos hword, evaluateWord_of_expression hword, h.token, evaluateWord, h.plain]
  · rw [if_neg hword]

theorem evaluateWords_substitute (h : StandsFor evaluate name token) (words : List Text) :
    (evaluateWords evaluate (words.map (substituteWord name token))).1 =
      (evaluateWords evaluate words).1 := by
  induction words with
  | nil => rfl
  | cons word words ih =>
      rw [List.map_cons, evaluateWords_cons, evaluateWords_cons, evaluateWord_substitute h, ih]

/-- A line is built as it is with the token in place of the name. -/
theorem build_substitute (h : StandsFor evaluate name token) {s s' : Scanned}
    (hop : s'.op = s.op) (hwords : s'.words = s.words.map (substituteWord name token)) :
    (s'.build evaluate).1 = (s.build evaluate).1 := by
  rw [build, build]
  simp only [hwords, hop, evaluateWords_substitute h]

end Scanned

namespace LineContent

/-- The content of a line with a token in place of each operand `$(name)`. -/
def substitute (name token : Text) : LineContent → LineContent
  | .instruction op words => .instruction op (words.map (Scanned.substituteWord name token))
  | content => content

/-- A line with a token in place of each operand `$(name)`. -/
def Substituted (name token line line' : Text) : Prop :=
  ofLine line' = (ofLine line).map (substitute name token)

theorem Substituted.of_ok {name token line line' : Text} {content' : LineContent}
    (h : Substituted name token line line') (hc : ofLine line' = .ok content') :
    ∃ content, ofLine line = .ok content ∧ content' = content.substitute name token := by
  rw [Substituted, hc] at h
  cases hcontent : ofLine line with
  | error fault => rw [hcontent] at h; cases h
  | ok content =>
      rw [hcontent] at h
      cases h
      exact ⟨content, rfl, rfl⟩

end LineContent

namespace Draft

open LineContent (Substituted)

/-- Drafts with the same labels, of which one has a token in place of each operand `$(name)`. -/
structure Alike (name token : Text) (draft draft' : Draft) : Prop where
  labels : draft'.labels = draft.labels
  scanned : List.Forall₂
    (fun s s' : Scanned => s'.op = s.op ∧ s'.words = s.words.map (Scanned.substituteWord name token))
    draft.scanned.toList draft'.scanned.toList

variable {name token : Text} {draft draft' next' : Draft}

theorem Alike.size (h : Alike name token draft draft') :
    draft'.scanned.size = draft.scanned.size := by
  have hlength := h.scanned.length_eq
  simpa using hlength.symm

/-- A line that fits with the token fits without. -/
theorem Alike.addLine (h : Alike name token draft draft') {n : Int} {line line' : Text}
    (hline : Substituted name token line line') (hadd : draft'.addLine ⟨n, line'⟩ = .ok next') :
    ∃ next, draft.addLine ⟨n, line⟩ = .ok next ∧ Alike name token next next' := by
  obtain ⟨hc, rfl⟩ | ⟨label, hc, hfresh, rfl⟩ | ⟨op, words, hc, rfl⟩ := addLine_eq_ok hadd
  all_goals
    obtain ⟨content, hcontent, hsame⟩ := hline.of_ok hc
    cases content <;> cases hsame
  · exact ⟨draft, by simp only [Draft.addLine, hcontent], h⟩
  · rw [h.labels] at hfresh
    have hcontains : ¬ draft.labels.contains label := fun hmem =>
      hfresh (NameTable.contains_iff.1 hmem)
    refine ⟨{ draft with labels := draft.labels.insert label (Int64.ofNat draft.scanned.size) },
      by simp only [Draft.addLine, hcontent, if_neg hcontains], ?_, h.scanned⟩
    rw [h.labels, h.size]
  · rename_i words
    refine ⟨{ draft with scanned := draft.scanned.push ⟨⟨n, line⟩, op, words⟩ },
      by simp only [Draft.addLine, hcontent], h.labels, ?_⟩
    simp only [Array.toList_push]
    exact List.rel_append h.scanned (.cons ⟨rfl, rfl⟩ .nil)

/-- Lines that fit with the token fit without. -/
theorem Alike.addLines (h : Alike name token draft draft') {count : Nat} {lines lines' : List Text}
    (hlines : List.Forall₂ (Substituted name token) lines lines')
    (hnone : (draft'.addLines count lines').2.2 = none) :
    (draft.addLines count lines).2.2 = none ∧
      Alike name token (draft.addLines count lines).1 (draft'.addLines count lines').1 := by
  induction hlines generalizing draft draft' count with
  | nil => exact ⟨rfl, h⟩
  | cons hline _ ih =>
      rename_i line line' lines lines' _
      cases hadd : draft'.addLine ⟨count + 1, line'⟩ with
      | error fault =>
          simp only [addLines, hadd] at hnone
          cases hnone
      | ok next' =>
          obtain ⟨next, hnext, halike⟩ := h.addLine hline hadd
          simp only [addLines, hadd, hnext] at hnone ⊢
          exact ih halike hnone

theorem alike_empty (name token : Text) : Alike name token empty empty := ⟨rfl, .nil⟩

end Draft

/-- The same instructions, labels and entry, though other lines. -/
structure Program.SameCode (program program' : Program) : Prop where
  instructions : program.instructions = program'.instructions
  labels : program.labels = program'.labels
  entry : program.entry = program'.entry

namespace Assembler

open Scanned (StandsFor)
open LineContent (Substituted)

/-- The text of the second reader is that of the first with a token in place of each operand
`$(name)`. -/
structure TextSubstituted (name token : Text) (reader reader' : Reader) : Prop where
  lines : List.Forall₂ (Substituted name token) (Source.ofReader reader).lines
    (Source.ofReader reader').lines
  fault : (Source.ofReader reader').fault = (Source.ofReader reader).fault

variable {evaluate : Evaluator} {asm : Assembler} {reader reader' : Reader} {name token : Text}
  {value : Int64}

/-- A text is accepted if it is accepted with the token of an expression in place of it. -/
theorem parse_of_substituted (hsub : TextSubstituted name token reader reader')
    (hstands : StandsFor (evaluate (asm.namesOf evaluate reader)) name token) {program' : Program}
    (h : (asm.parse evaluate reader').1 = .ok program') :
    ∃ program, (asm.parse evaluate reader).1 = .ok program ∧ program.SameCode program' := by
  obtain ⟨hlines', hfault', hfinish'⟩ := parse_eq_ok.1 h
  obtain ⟨entry, instructions, hentry, hbuild, rfl⟩ := finish_eq_ok.1 hfinish'
  obtain ⟨hlines, halike⟩ := (Draft.alike_empty name token).addLines hsub.lines hlines'
  obtain ⟨built, hinstructions, hbuilt⟩ := Scanned.buildAll_eq_ok.1 hbuild
  have hall : (Scanned.buildAll (evaluate (environment asm.predefined
      (Draft.empty.addLines 0 (Source.ofReader reader).lines).1.labels)) #[]
      (Draft.empty.addLines 0 (Source.ofReader reader).lines).1.scanned.toList).1 =
        .ok instructions := by
    refine Scanned.buildAll_eq_ok.2 ⟨built, hinstructions, ?_⟩
    rw [← hbuilt, halike.labels]
    have hsame := halike.scanned.imp fun s s' hs =>
      (Scanned.build_substitute hstands hs.1 hs.2).symm
    rw [← List.forall₂_map_right_iff, ← List.forall₂_map_left_iff, List.forall₂_eq_eq_eq] at hsame
    exact hsame
  rw [halike.labels] at hentry
  have hfinish := finish_eq_ok.2 ⟨entry, instructions, hentry, hall, rfl⟩
  exact ⟨_, parse_eq_ok.2 ⟨hlines, hsub.fault ▸ hfault', hfinish⟩, rfl, halike.labels.symm, rfl⟩

/-- In an accepted text the operand `$(name)` became the token that stands for it. -/
theorem HasExpression.operand {i k : Nat} {line : Text} {op : Opcode} {words : List Text}
    (h : HasExpression reader i line op words k name)
    (hstands : StandsFor (evaluate (asm.namesOf evaluate reader)) name token) {program : Program}
    (hparse : (asm.parse evaluate reader).1 = .ok program) (hk : k < op.arity) :
    ∃ (n : Nat) (inst : Instruction), program.lines[n]? = some ⟨i + 1, line⟩ ∧
      program.instructions[n]? = some inst ∧ inst.opcode = op ∧ inst.operands[k]? = some token := by
  obtain ⟨n, inst, hline, hinst, hbuild⟩ := h.built hparse
  obtain ⟨hop, token', htoken, hoperand⟩ := h.token hbuild
  rw [hstands.token] at htoken
  cases htoken
  exact ⟨n, inst, hline, hinst, hop, hoperand hk⟩

end Assembler

/-- What is relied on of expressions that are names: a free name has the value that it is bound to,
and a reserved word and the variable of the value have none, whatever they are bound to. -/
structure Evaluator.ReadsNames (evaluate : Evaluator) : Prop where
  free : ∀ {names : NameTable} {name : Text} {value : Int64}, name.isIdentifier →
    Expression.IsFree name → names.find? name = some value →
    (evaluate names name).1 = .integer value.toInt
  reserved : ∀ {names : NameTable} {name : Text} {value : Int64}, name.isIdentifier →
    name ∈ Expression.words.map (·.1) ∨ name ∈ Expression.reservedWords →
    names.find? name = some value → (evaluate names name).1 = .failed
  result : ∀ {names : NameTable} {value : Int64},
    names.find? Expression.resultName = some value →
    (evaluate names Expression.resultName).1 = .failed

theorem Expression.readsNames_evaluate : Evaluator.ReadsNames Expression.evaluate where
  free hname hfree hfind := by rw [evaluate_of_free hname hfree hfind]
  reserved hname hword _ := by rw [evaluate_of_word hname hword]
  result hfind := by rw [evaluate_of_result hfind]

/-- A name that is not free has no value. -/
theorem Evaluator.ReadsNames.of_not_free {evaluate : Evaluator} (h : evaluate.ReadsNames)
    {names : NameTable} {name : Text} {value : Int64} (hname : name.isIdentifier)
    (hfree : ¬ Expression.IsFree name) (hfind : names.find? name = some value) :
    (evaluate names name).1 = .failed := by
  by_cases hword : name ∈ Expression.words.map (·.1) ∨ name ∈ Expression.reservedWords
  · exact h.reserved hname hword hfind
  · rw [not_or] at hword
    by_cases hresult : name = Expression.resultName
    · subst hresult
      exact h.result hfind
    · exact absurd ⟨hword.1, hword.2, hresult⟩ hfree

namespace Assembler

open Scanned (StandsFor)
open LineContent (Substituted)

variable {evaluate : Evaluator} {asm : Assembler} {reader : Reader} {name : Text} {value : Int64}

/-- The numeral of a constant that is not negative stands for its name, if the name is free. -/
theorem standsFor_of_free (hreads : evaluate.ReadsNames) (hname : name.isIdentifier)
    (hfree : Expression.IsFree name) (hlast : asm.LastPredefined name value)
    (hlabel : NoLabel reader name) (hvalue : 0 ≤ value) :
    StandsFor (evaluate (asm.namesOf evaluate reader)) name
      (Text.decimal value.toNatClampNeg) where
  plain := Scanned.expression?_decimal _
  token := by
    have hnat : (value.toNatClampNeg : Int) = value.toInt :=
      Memory.natCast_index (Int64.not_lt.2 hvalue)
    have hlt : value.toInt < 9223372036854775808 := Int64.toInt_lt value
    have hrange : ¬ (value.toInt < 0 ∨ 9223372036854775808 ≤ value.toInt) := by omega
    have hsign : ¬ value.toInt < 0 := by omega
    have habs : value.toInt.natAbs = value.toNatClampNeg := by omega
    rw [hreads.free hname hfree (find?_namesOf hlast hlabel)]
    simp only [Scanned.token, if_neg hrange, Text.signedDecimal, if_neg hsign, habs]

/-- A name that is not free stands for nothing, though a constant has it. -/
theorem HasExpression.rejected {i k : Nat} {line : Text} {op : Opcode} {words : List Text}
    (h : HasExpression reader i line op words k name) (hreads : evaluate.ReadsNames)
    (hname : name.isIdentifier) (hfree : ¬ Expression.IsFree name)
    (hlast : asm.LastPredefined name value) (hlabel : NoLabel reader name) (program : Program) :
    (asm.parse evaluate reader).1 ≠ .ok program := by
  intro hparse
  obtain ⟨hoperand, -⟩ := h.accepted hparse
  rw [hreads.of_not_free hname hfree (find?_namesOf hlast hlabel)] at hoperand
  exact hoperand

/-- A constant with a name that valid settings may have and a value that is not negative, under any
evaluator that reads names as it should: if the name is free in expressions, each text without a
label of that name is accepted as soon as it is accepted with the numeral of the value in place of
`$(name)`, with the same instructions, labels and entry; and in an accepted text the operand
`$(name)` is that numeral. If the name is not free, no text with that operand is accepted. -/
theorem constant_assembles_to_numeral (hreads : evaluate.ReadsNames)
    (hname : Settings.AcceptsName name) (hlast : asm.LastPredefined name value)
    (hvalue : 0 ≤ value) (hlabel : NoLabel reader name) :
    (Expression.IsFree name →
      (∀ reader' program',
        TextSubstituted name (Text.decimal value.toNatClampNeg) reader reader' →
        (asm.parse evaluate reader').1 = .ok program' →
        ∃ program, (asm.parse evaluate reader).1 = .ok program ∧ program.SameCode program') ∧
      ∀ i k line op words program, HasExpression reader i line op words k name →
        (asm.parse evaluate reader).1 = .ok program → k < op.arity →
        ∃ (n : Nat) (inst : Instruction), program.lines[n]? = some ⟨i + 1, line⟩ ∧
          program.instructions[n]? = some inst ∧ inst.opcode = op ∧
          inst.operands[k]? = some (Text.decimal value.toNatClampNeg)) ∧
    (¬ Expression.IsFree name →
      ∀ i k line op words program, HasExpression reader i line op words k name →
        (asm.parse evaluate reader).1 ≠ .ok program) := by
  rw [Settings.acceptsName_iff] at hname
  refine ⟨fun hfree => ?_, fun hfree => ?_⟩
  · have hstands := standsFor_of_free hreads hname hfree hlast hlabel hvalue
    refine ⟨fun reader' program' hsub hparse => parse_of_substituted hsub hstands hparse, ?_⟩
    intro i k line op words program hexpression hparse hk
    exact hexpression.operand hstands hparse hk
  · intro i k line op words program hexpression
    exact hexpression.rejected hreads hname hfree hlast hlabel program

def sized : Assembler :=
  ((initial.predefine (ofString "size") 3).predefine (ofString "size") 7).predefineAll
    [(ofString "rc", 9)]

def pushing (name : Text) : Reader :=
  .ofText (ofString "!_start\npush:$(" ++ name ++ ofString ")\n")

def pushingSeven : Reader := .ofText (ofString "!_start\npush:7\n")

def sevenProgram : Program :=
  ⟨#[.push (ofString "7")], #[⟨2, ofString "push:7"⟩], .ofPairs [(ofString "_start", 0)], 0⟩

theorem textSubstituted_pushing (hname : name = ofString "size" ∨ name = ofString "rc") :
    TextSubstituted name (Text.decimal 7) (pushing name) pushingSeven := by
  have hseven : Text.decimal 7 = ofString "7" := by
    rw [Text.decimal]
    rfl
  have hlines : (Source.ofReader pushingSeven).lines = [ofString "!_start", ofString "push:7"] := by
    decide
  rw [hseven]
  rcases hname with rfl | rfl
  · have hname : (Source.ofReader (pushing (ofString "size"))).lines =
        [ofString "!_start", ofString "push:$(size)"] := by decide
    refine ⟨?_, by decide⟩
    rw [hlines, hname]
    unfold Substituted
    exact .cons (by decide +kernel) (.cons (by decide +kernel) .nil)
  · have hname : (Source.ofReader (pushing (ofString "rc"))).lines =
        [ofString "!_start", ofString "push:$(rc)"] := by decide
    refine ⟨?_, by decide⟩
    rw [hlines, hname]
    unfold Substituted
    exact .cons (by decide +kernel) (.cons (by decide +kernel) .nil)

theorem constant_assembles_to_numeral_size :
    sized.LastPredefined (ofString "size") 7 ∧ sized.LastPredefined (ofString "rc") 9 ∧
      (∃ program, (sized.parse Expression.evaluate (pushing (ofString "size"))).1 = .ok program ∧
        program.instructions = #[.push (ofString "7")]) ∧
      ∀ program, (sized.parse Expression.evaluate (pushing (ofString "rc"))).1 ≠ .ok program := by
  have hsize : sized.LastPredefined (ofString "size") 7 :=
    ⟨initial.predefine (ofString "size") 3, [(ofString "rc", 9)], rfl, by decide⟩
  have hresult : sized.LastPredefined (ofString "rc") 9 :=
    ⟨(initial.predefine (ofString "size") 3).predefine (ofString "size") 7, [], rfl, by decide⟩
  have hsizeName : Settings.AcceptsName (ofString "size") :=
    Settings.acceptsName_iff.2 (by decide)
  have hresultName : Settings.AcceptsName (ofString "rc") := Settings.acceptsName_iff.2 (by decide)
  have hsizeLabel : NoLabel (pushing (ofString "size")) (ofString "size") := by
    unfold NoLabel
    decide +kernel
  have hresultLabel : NoLabel (pushing (ofString "rc")) (ofString "rc") := by
    unfold NoLabel
    decide +kernel
  have hfree : Expression.IsFree (ofString "size") := ⟨by decide, by decide, by decide⟩
  have hnotFree : ¬ Expression.IsFree (ofString "rc") := fun h => h.result rfl
  have hseven : (sized.parse Expression.evaluate pushingSeven).1 = .ok sevenProgram := by
    decide +kernel
  have hexpression : HasExpression (pushing (ofString "rc")) 1 (ofString "push:$(rc)") .push
      [ofString "$(rc)"] 0 (ofString "rc") := ⟨by decide, by decide +kernel, by decide⟩
  obtain ⟨hnumeral, -⟩ := constant_assembles_to_numeral Expression.readsNames_evaluate hsizeName
    hsize (by decide) hsizeLabel
  obtain ⟨-, hrejected⟩ := constant_assembles_to_numeral Expression.readsNames_evaluate hresultName
    hresult (by decide) hresultLabel
  obtain ⟨program, hparse, hsame⟩ :=
    (hnumeral hfree).1 _ _ (textSubstituted_pushing (.inl rfl)) hseven
  refine ⟨hsize, hresult, ⟨program, hparse, hsame.instructions⟩, fun program => ?_⟩
  exact hrejected hnotFree 1 0 _ _ _ program hexpression

/-- Valid settings may have a constant `rc`, but an operand `$(rc)` is not its value. -/
theorem constant_rc_fails :
    Settings.AcceptsName (ofString "rc") ∧
      (initial.predefine (ofString "rc") 7).LastPredefined (ofString "rc") 7 ∧
      NoLabel (pushing (ofString "rc")) (ofString "rc") ∧
      TextSubstituted (ofString "rc") (Text.decimal 7) (pushing (ofString "rc")) pushingSeven ∧
      ((initial.predefine (ofString "rc") 7).parse Expression.evaluate pushingSeven).1 =
        .ok sevenProgram ∧
      ((initial.predefine (ofString "rc") 7).parse Expression.evaluate
        (pushing (ofString "rc"))).1 =
          .error ⟨[.source 2 (ofString "push:$(rc)")], .expressionFailed (ofString "rc")⟩ := by
  refine ⟨Settings.acceptsName_iff.2 (by decide), ⟨initial, [], rfl, by decide⟩, ?_,
    textSubstituted_pushing (.inr rfl), by decide +kernel, by decide +kernel⟩
  unfold NoLabel
  decide +kernel

end Assembler

end RegisterMachine

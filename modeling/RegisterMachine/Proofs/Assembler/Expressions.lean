import RegisterMachine.Proofs.Assembler.Passes
import RegisterMachine.Proofs.Execution
import RegisterMachine.Proofs.Text.Decimal

/-!
# Expressions at load time, constants at run time

The value of an expression passes through an operand token: an integer as a numeral, a
text between quotes. Whatever the evaluator, and whatever the state in which the token
is resolved later, it is resolved to that value, and the state is left alone. A text
with an expression that has no such value is not accepted.
-/
namespace RegisterMachine

open Text (ofString byte)

namespace Evaluation

/-- The value can be an operand: a text, or an integer that is not negative and fits a word. -/
def IsOperand : Evaluation → Prop
  | .integer n => 0 ≤ n ∧ n < 9223372036854775808
  | .text _ => True
  | .other | .failed => False

/-- The value of the expression is the value `v` of the machine. -/
def Denotes : Evaluation → Value → Prop
  | .integer n, .integer i => i.toInt = n
  | .text t, .text s => s = t
  | _, _ => False

/-- The fault of an expression whose value cannot be an operand. -/
def fault (value : Evaluation) (expression : Text) : Fault :=
  if value = .failed then .expressionFailed expression else .expressionValue expression

end Evaluation

namespace Operand

/-- A numeral is never taken for anything else. -/
theorem resolve_decimal {n : Nat} (h : n < 9223372036854775808) (labels : NameTable) (m : Memory) :
    resolve labels (Text.decimal n) m = .ok (.constant (.integer (Int64.ofNat n))) m := by
  have hnumeral : numeral? (Text.decimal n) = some (Int64.ofNat n) := by
    rw [numeral?, Text.digitsValue_decimal]
    exact if_pos h
  rw [resolve_of_isDigits (Text.isDigits_decimal n), hnumeral]

/-- The text of an integer that is not negative is a numeral for it. -/
theorem resolve_ofInt64 {n : Int64} (h : 0 ≤ n.toInt) (labels : NameTable) (m : Memory) :
    resolve labels (Text.ofInt64 n) m = .ok (.constant (.integer n)) m := by
  have hlt : n.toInt.natAbs < 9223372036854775808 := by
    have := n.toInt_lt
    omega
  have hof : Int64.ofNat n.toInt.natAbs = n := by
    rw [← Int64.toInt_inj, Int64.toInt_ofNat_of_lt hlt]
    omega
  rw [Text.ofInt64, Text.signedDecimal, if_neg (by omega), resolve_decimal hlt, hof]

/-- A quoted text is never taken for anything else, whatever its bytes. -/
theorem resolve_quoted (t : Text) (labels : NameTable) (m : Memory) :
    resolve labels (byte '"' :: (t ++ [byte '"'])) m = .ok (.constant (.text t)) m := by
  have hplain : bracketed? (byte '"' :: (t ++ [byte '"'])) = none := by
    simp [bracketed?, show byte '"' ≠ byte '[' from by decide]
  have hdigits : ¬ Text.isDigits (byte '"' :: (t ++ [byte '"'])) := by
    simp [Text.isDigits, show Text.isDigit (byte '"') = false from by decide]
  have hquoted : unquoted? (byte '"' :: (t ++ [byte '"'])) = some t := by
    simp [unquoted?]
  rw [resolve_of_plain hplain, resolvePlain, if_neg (by decide), if_neg hdigits, hquoted]

end Operand

namespace Scanned

/-- Exactly the values that can be operands have a token. -/
theorem token_eq_error {value : Evaluation} (h : ¬ value.IsOperand) (expression : Text) :
    token expression value = .error (value.fault expression) := by
  cases value with
  | integer n =>
      have hrange : n < 0 ∨ 9223372036854775808 ≤ n := by
        simp only [Evaluation.IsOperand] at h
        omega
      rw [token, if_pos hrange]
      rfl
  | text t => exact absurd trivial h
  | other => rfl
  | failed => rfl

/-- The token of a value is resolved to that value in every state, which it leaves alone. -/
theorem resolve_token {value : Evaluation} {expression t : Text}
    (h : token expression value = .ok t) :
    value.IsOperand ∧ ∃ v, value.Denotes v ∧
      ∀ m, Machine.resolve t m = .ok (.constant v) m := by
  cases value with
  | integer n =>
      rw [token] at h
      split at h
      · cases h
      · rename_i hrange
        cases h
        have hn : n = n.natAbs := by omega
        have hlt : n.natAbs < 9223372036854775808 := by omega
        refine ⟨⟨by omega, by omega⟩, .integer (Int64.ofNat n.natAbs), ?_, fun m => ?_⟩
        · exact (Int64.toInt_ofNat_of_lt hlt).trans hn.symm
        · rw [Text.signedDecimal, if_neg (by omega)]
          exact Machine.resolve_eq_ok.2 ⟨m.memory, Operand.resolve_decimal hlt _ _, rfl⟩
  | text t =>
      cases h
      exact ⟨trivial, .text t, rfl, fun m =>
        Machine.resolve_eq_ok.2 ⟨m.memory, Operand.resolve_quoted t _ _, rfl⟩⟩
  | other => cases h
  | failed => cases h

theorem evaluateWord_of_expression {evaluate : Text → Evaluation × Text} {word expression : Text}
    (h : expression? word = some expression) :
    (evaluateWord evaluate word).1 = token expression (evaluate expression).1 := by
  rw [evaluateWord, h]

end Scanned

namespace Assembler

/-- The names that the expressions of a text know. -/
def namesOf (evaluate : Evaluator) (asm : Assembler) (reader : Reader) : NameTable :=
  environment asm.predefined (asm.parse evaluate reader).2.labels

/-- Word `k` of line `i` of a text is the operand `$(e)` of an instruction. -/
structure HasExpression (reader : Reader) (i : Nat) (line : Text) (op : Opcode)
    (words : List Text) (k : Nat) (e : Text) : Prop where
  source : (Source.ofReader reader).lines[i]? = some line
  content : LineContent.ofLine line = .ok (.instruction op words)
  word : words[k]?.bind Scanned.expression? = some e

/-- No fault of the second pass comes before word `k` of line `i`. -/
structure NoneBefore (evaluate : Text → Evaluation × Text) (lines : List Text) (i : Nat)
    (words : List Text) (k : Nat) : Prop where
  lines : ∀ s ∈ Draft.scannedFrom 0 (lines.take i), ∃ inst, (s.build evaluate).1 = .ok inst
  words : ∀ word ∈ words.take k, ∃ token, (Scanned.evaluateWord evaluate word).1 = .ok token

variable {evaluate : Evaluator} {asm : Assembler} {reader : Reader} {i k : Nat} {line e : Text}
  {op : Opcode} {words : List Text}

/-- In an accepted text an instruction line became an instruction. -/
theorem built_of_parse {program : Program} (hparse : (asm.parse evaluate reader).1 = .ok program)
    (hline : (Source.ofReader reader).lines[i]? = some line)
    (hcontent : LineContent.ofLine line = .ok (.instruction op words)) :
    ∃ (n : Nat) (inst : Instruction), program.lines[n]? = some ⟨i + 1, line⟩ ∧
      program.instructions[n]? = some inst ∧
      (Scanned.build (evaluate (asm.namesOf evaluate reader)) ⟨⟨i + 1, line⟩, op, words⟩).1 =
        .ok inst := by
  have hscanned := (reachesSecondPass_of_parse hparse).scanned
  obtain ⟨-, -, hfinish⟩ := parse_eq_ok.1 hparse
  obtain ⟨entry, instructions, -, hbuild, rfl⟩ := finish_eq_ok.1 hfinish
  obtain ⟨built, rfl, hmap⟩ := Scanned.buildAll_eq_ok.1 hbuild
  rw [Draft.scannedFrom_split hline hcontent] at hscanned
  generalize hn : (Draft.scannedFrom 0 ((Source.ofReader reader).lines.take i)).length = n
  have hat : (Draft.empty.addLines 0 (Source.ofReader reader).lines).1.scanned.toList[n]? =
      some ⟨⟨i + 1, line⟩, op, words⟩ := by
    rw [hscanned, ← hn, List.getElem?_append_right (Nat.le_refl _), Nat.sub_self]
    rfl
  have hinst := congrArg (·[n]?) hmap
  simp only [List.getElem?_map, hat, Option.map_some] at hinst
  obtain ⟨inst, hinst, hok⟩ := Option.map_eq_some_iff.1 hinst.symm
  refine ⟨n, inst, ?_, ?_, hok.symm⟩
  · rw [Array.getElem?_map, ← Array.getElem?_toList, hat]
    rfl
  · simpa using hinst

theorem HasExpression.built (h : HasExpression reader i line op words k e) {program : Program}
    (hparse : (asm.parse evaluate reader).1 = .ok program) :
    ∃ (n : Nat) (inst : Instruction), program.lines[n]? = some ⟨i + 1, line⟩ ∧
      program.instructions[n]? = some inst ∧
      (Scanned.build (evaluate (asm.namesOf evaluate reader)) ⟨⟨i + 1, line⟩, op, words⟩).1 =
        .ok inst :=
  built_of_parse hparse h.source h.content

/-- The word with the expression has a token, if the line can be built. -/
theorem HasExpression.token (h : HasExpression reader i line op words k e)
    {evaluate : Text → Evaluation × Text} {inst : Instruction}
    (hbuild : (Scanned.build evaluate ⟨⟨i + 1, line⟩, op, words⟩).1 = .ok inst) :
    inst.opcode = op ∧ ∃ token, Scanned.token e (evaluate e).1 = .ok token ∧
      (k < op.arity → inst.operands[k]? = some token) := by
  obtain ⟨tokens, htokens, hmake⟩ := Scanned.build_eq_ok.1 hbuild
  obtain ⟨hop, hoperands, -⟩ := Instruction.make_eq_ok hmake
  obtain ⟨word, hword, he⟩ := Option.bind_eq_some_iff.1 h.word
  obtain ⟨token, htoken, hvalue⟩ := Scanned.token_of_word htokens hword
  rw [Scanned.evaluateWord_of_expression he] at hvalue
  refine ⟨hop, token, hvalue, fun hk => ?_⟩
  rw [hoperands, List.getElem?_take_of_lt hk, htoken]

/-- The line with the expression cannot be built, if the expression has no operand for its value. -/
theorem HasExpression.build_eq_error (h : HasExpression reader i line op words k e)
    {evaluate : Text → Evaluation × Text} (hvalue : ¬ (evaluate e).1.IsOperand)
    (hwords : ∀ word ∈ words.take k, ∃ token, (Scanned.evaluateWord evaluate word).1 = .ok token) :
    (Scanned.build evaluate ⟨⟨i + 1, line⟩, op, words⟩).1 = .error ((evaluate e).1.fault e) := by
  obtain ⟨word, hword, he⟩ := Option.bind_eq_some_iff.1 h.word
  obtain ⟨hk, rfl⟩ := List.getElem?_eq_some_iff.1 hword
  have herror : (Scanned.evaluateWord evaluate words[k]).1 = .error ((evaluate e).1.fault e) := by
    rw [Scanned.evaluateWord_of_expression he, Scanned.token_eq_error hvalue]
  have hall : (Scanned.evaluateWords evaluate
      (words.take k ++ words[k] :: words.drop (k + 1))).1 = .error ((evaluate e).1.fault e) :=
    Scanned.evaluateWords_eq_error hwords herror
  rw [← List.drop_eq_getElem_cons hk, List.take_append_drop] at hall
  rw [Scanned.build]
  simp only [hall]
  rfl

end Assembler

/-- Operand `k` of the instruction that was built from line `i` is resolved to the value of an
expression, whatever the state of the machine, and the state stays as it is. -/
def Program.Carries (program : Program) (i : Nat) (line : Text) (op : Opcode) (k : Nat)
    (value : Evaluation) : Prop :=
  ∃ (n : Nat) (inst : Instruction) (token : Text) (v : Value),
    program.lines[n]? = some ⟨i + 1, line⟩ ∧ program.instructions[n]? = some inst ∧
      inst.opcode = op ∧ inst.operands[k]? = some token ∧ value.Denotes v ∧
      ∀ m, Machine.resolve token m = .ok (.constant v) m

namespace Assembler

theorem HasExpression.accepted {evaluate : Evaluator} {asm : Assembler} {reader : Reader}
    {i k : Nat} {line e : Text} {op : Opcode} {words : List Text}
    (h : HasExpression reader i line op words k e) {program : Program}
    (hparse : (asm.parse evaluate reader).1 = .ok program) :
    (evaluate (asm.namesOf evaluate reader) e).1.IsOperand ∧
      (k < op.arity →
        program.Carries i line op k (evaluate (asm.namesOf evaluate reader) e).1) := by
  obtain ⟨n, inst, hline, hinst, hbuild⟩ := h.built hparse
  obtain ⟨hop, token, htoken, hoperand⟩ := h.token hbuild
  obtain ⟨hvalue, v, hv, hresolve⟩ := Scanned.resolve_token htoken
  exact ⟨hvalue, fun hk => ⟨n, inst, token, v, hline, hinst, hop, hoperand hk, hv, hresolve⟩⟩

/-- An operand `$(e)` of an accepted text has a value that can be an operand; where the instruction
consumes it, its token is resolved to that value in every state, which is left alone. A text with
an operand `$(e)` of any other value is not accepted, and if nothing before it is at fault in the
second pass, the failure names its line and the expression. -/
theorem expression_keeps_its_meaning {evaluate : Evaluator} {asm : Assembler} {reader : Reader}
    {i k : Nat} {line e : Text} {op : Opcode} {words : List Text}
    (h : HasExpression reader i line op words k e) :
    (∀ program, (asm.parse evaluate reader).1 = .ok program →
      (evaluate (asm.namesOf evaluate reader) e).1.IsOperand ∧
        (k < op.arity →
          program.Carries i line op k (evaluate (asm.namesOf evaluate reader) e).1)) ∧
    (¬ (evaluate (asm.namesOf evaluate reader) e).1.IsOperand →
      (∀ program, (asm.parse evaluate reader).1 ≠ .ok program) ∧
        (asm.ReachesSecondPass reader →
          NoneBefore (evaluate (asm.namesOf evaluate reader)) (Source.ofReader reader).lines i
            words k →
          (asm.parse evaluate reader).1 = .error ⟨[.source (i + 1) line],
            (evaluate (asm.namesOf evaluate reader) e).1.fault e⟩)) := by
  refine ⟨fun program hparse => h.accepted hparse, fun hvalue => ⟨fun program hparse => ?_,
    fun hreach hnone => ?_⟩⟩
  · exact hvalue (h.accepted hparse).1
  · refine hreach.parse_eq_error ?_
    rw [Draft.scannedFrom_split h.source h.content]
    exact Scanned.buildAll_eq_error hnone.lines (h.build_eq_error hvalue hnone.words)

def smallEvaluator : Evaluator := fun _ e =>
  if e = ofString "7" then (.integer 7, [])
  else if e = ofString "-1" then (.integer (-1), [])
  else (.failed, [])

theorem expression_keeps_its_meaning_seven :
    let asm := { initial with entryLabel := ofString "s" }
    (∃ program, (asm.parse smallEvaluator (Reader.ofText (ofString "!s\npush:$(7)\n"))).1 =
        .ok program ∧
      program.Carries 1 (ofString "push:$(7)") .push 0 (.integer 7)) ∧
    (asm.parse smallEvaluator (Reader.ofText (ofString "!s\npush:$(-1)\n"))).1 =
      .error ⟨[.source 2 (ofString "push:$(-1)")], .expressionValue (ofString "-1")⟩ := by
  intro asm
  have hseven : HasExpression (Reader.ofText (ofString "!s\npush:$(7)\n")) 1
      (ofString "push:$(7)") .push [ofString "$(7)"] 0 (ofString "7") :=
    ⟨by decide, by decide +kernel, by decide⟩
  have hminus : HasExpression (Reader.ofText (ofString "!s\npush:$(-1)\n")) 1
      (ofString "push:$(-1)") .push [ofString "$(-1)"] 0 (ofString "-1") :=
    ⟨by decide, by decide +kernel, by decide⟩
  have hparse : (asm.parse smallEvaluator (Reader.ofText (ofString "!s\npush:$(7)\n"))).1 =
      .ok ⟨#[.push (ofString "7")], #[⟨2, ofString "push:$(7)"⟩], .ofPairs [(ofString "s", 0)], 0⟩ := by
    decide +kernel
  have hreach : asm.ReachesSecondPass (Reader.ofText (ofString "!s\npush:$(-1)\n")) :=
    ⟨by decide +kernel, by decide, by decide +kernel⟩
  refine ⟨⟨_, hparse, ?_⟩, ?_⟩
  · exact ((expression_keeps_its_meaning hseven).1 _ hparse).2 (by decide)
  · refine ((expression_keeps_its_meaning hminus).2 ?_).2 hreach ?_
    · rintro ⟨hneg, -⟩
      exact absurd hneg (by decide)
    · have hnone : Draft.scannedFrom 0 ((Source.ofReader (Reader.ofText
          (ofString "!s\npush:$(-1)\n"))).lines.take 1) = [] := by
        decide +kernel
      exact ⟨by rw [hnone]; simp, by simp⟩

end Assembler

end RegisterMachine

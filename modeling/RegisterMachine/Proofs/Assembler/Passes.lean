import RegisterMachine.Assembler.Basic
import RegisterMachine.Proofs.NameTable

/-!
# The two passes of the assembler

A text is accepted exactly if every line fits, the reader ends well, the entry label is
there and every scanned line can be built. `Draft.Sound` says what the first pass keeps:
every scanned line and every label was found on a line of the text, and a label points
to an instruction above which it stands, or past the last one.
-/
namespace RegisterMachine

open Text (ofString byte)

/-- What the passes return can be compared. -/
instance decidableEqExcept {ε α : Type} [DecidableEq ε] [DecidableEq α] :
    DecidableEq (Except ε α)
  | .ok a, .ok b => decidable_of_iff (a = b) (by simp)
  | .error e, .error e' => decidable_of_iff (e = e') (by simp)
  | .ok _, .error _ => isFalse (by simp)
  | .error _, .ok _ => isFalse (by simp)

namespace Draft

/-- The draft was collected from the lines. -/
structure Sound (lines : List Text) (draft : Draft) : Prop where
  scanned : ∀ s ∈ draft.scanned, s.line.text ∈ lines ∧
    LineContent.ofLine s.line.text = .ok (.instruction s.op s.words)
  label : ∀ entry ∈ draft.labels.entries, ∃ line ∈ lines,
    LineContent.ofLine line = .ok (.label entry.1)
  index : ∀ entry ∈ draft.labels.entries, ∃ n ≤ draft.scanned.size, entry.2 = Int64.ofNat n

theorem sound_empty (lines : List Text) : Sound lines empty where
  scanned := by simp [empty]
  label := by simp [empty, NameTable.empty]
  index := by simp [empty, NameTable.empty]

/-- A line that fits is blank, a new label or an instruction. -/
theorem addLine_eq_ok {draft draft' : Draft} {line : SourceLine}
    (h : draft.addLine line = .ok draft') :
    (LineContent.ofLine line.text = .ok .blank ∧ draft' = draft) ∨
    (∃ name, LineContent.ofLine line.text = .ok (.label name) ∧ name ∉ draft.labels.names ∧
      draft' = { draft with
        labels := draft.labels.insert name (Int64.ofNat draft.scanned.size) }) ∨
    ∃ op words, LineContent.ofLine line.text = .ok (.instruction op words) ∧
      draft' = { draft with scanned := draft.scanned.push ⟨line, op, words⟩ } := by
  rw [addLine] at h
  split at h
  · cases h
  · rename_i hc
    cases h
    exact .inl ⟨hc, rfl⟩
  · rename_i name hc
    split at h
    · cases h
    · rename_i hfresh
      cases h
      exact .inr (.inl ⟨name, hc, fun hmem => hfresh (NameTable.contains_iff.2 hmem), rfl⟩)
  · rename_i op words hc
    cases h
    exact .inr (.inr ⟨op, words, hc, rfl⟩)

theorem Sound.addLine {lines : List Text} {draft draft' : Draft} {line : SourceLine}
    (h : Sound lines draft) (hline : line.text ∈ lines) (hadd : draft.addLine line = .ok draft') :
    Sound lines draft' := by
  obtain ⟨-, rfl⟩ | ⟨name, hc, -, rfl⟩ | ⟨op, words, hc, rfl⟩ := addLine_eq_ok hadd
  · exact h
  · refine ⟨h.scanned, fun entry hentry => ?_, fun entry hentry => ?_⟩
    · obtain rfl | hentry := NameTable.mem_insertEntry hentry
      · exact ⟨_, hline, hc⟩
      · exact h.label entry hentry
    · obtain rfl | hentry := NameTable.mem_insertEntry hentry
      · exact ⟨_, Nat.le_refl _, rfl⟩
      · exact h.index entry hentry
  · refine ⟨fun s hs => ?_, h.label, fun entry hentry => ?_⟩
    · obtain hs | rfl := Array.mem_push.1 hs
      · exact h.scanned s hs
      · exact ⟨hline, hc⟩
    · obtain ⟨n, hn, he⟩ := h.index entry hentry
      exact ⟨n, by simp only [Array.size_push]; omega, he⟩

theorem Sound.addLines {lines : List Text} {draft : Draft} {count : Nat} {texts : List Text}
    (h : Sound lines draft) (hlines : ∀ t ∈ texts, t ∈ lines) :
    Sound lines (draft.addLines count texts).1 := by
  induction texts generalizing draft count with
  | nil => exact h
  | cons text texts ih =>
      rw [Draft.addLines]
      split
      · rename_i next hadd
        exact ih (h.addLine (hlines text (by simp)) hadd) fun t ht =>
          hlines t (List.mem_cons_of_mem _ ht)
      · exact h

/-- The instruction lines among lines that are numbered from `count` on. -/
def scannedFrom (count : Nat) : List Text → List Scanned
  | [] => []
  | text :: rest =>
      match LineContent.ofLine text with
      | .ok (.instruction op words) =>
          ⟨⟨count + 1, text⟩, op, words⟩ :: scannedFrom (count + 1) rest
      | _ => scannedFrom (count + 1) rest

theorem scannedFrom_append (count : Nat) (texts texts' : List Text) :
    scannedFrom count (texts ++ texts') =
      scannedFrom count texts ++ scannedFrom (count + texts.length) texts' := by
  induction texts generalizing count with
  | nil => rfl
  | cons text texts ih =>
      have hlength : count + (text :: texts).length = count + 1 + texts.length := by
        rw [List.length_cons]
        omega
      rw [List.cons_append, scannedFrom, scannedFrom, ih, hlength]
      split <;> rfl

/-- An instruction line stands behind the instruction lines above it. -/
theorem scannedFrom_split {lines : List Text} {i : Nat} {line : Text} {op : Opcode}
    {words : List Text} (hline : lines[i]? = some line)
    (h : LineContent.ofLine line = .ok (.instruction op words)) :
    scannedFrom 0 lines = scannedFrom 0 (lines.take i) ++
      ⟨⟨i + 1, line⟩, op, words⟩ :: scannedFrom (i + 1) (lines.drop (i + 1)) := by
  obtain ⟨hi, rfl⟩ := List.getElem?_eq_some_iff.1 hline
  have hlength : (lines.take i).length = i := by
    rw [List.length_take]
    omega
  conv => lhs; rw [← List.take_append_drop i lines, List.drop_eq_getElem_cons hi]
  rw [scannedFrom_append, hlength, Nat.zero_add, scannedFrom, h]

/-- A first pass without a fault scans the instruction lines and no others. -/
theorem scanned_addLines {draft : Draft} {count : Nat} {texts : List Text}
    (h : (draft.addLines count texts).2.2 = none) :
    (draft.addLines count texts).1.scanned.toList =
      draft.scanned.toList ++ scannedFrom count texts := by
  induction texts generalizing draft count with
  | nil => simp [addLines, scannedFrom]
  | cons text texts ih =>
      cases hadd : draft.addLine ⟨count + 1, text⟩ with
      | error fault =>
          simp only [addLines, hadd] at h
          cases h
      | ok next =>
          simp only [addLines, hadd] at h ⊢
          rw [ih h, scannedFrom]
          obtain ⟨hc, rfl⟩ | ⟨name, hc, -, rfl⟩ | ⟨op, words, hc, rfl⟩ := addLine_eq_ok hadd
          · simp only [hc]
          · simp only [hc]
          · simp only [hc]
            simp

theorem sound_ofLines (lines : List Text) (count : Nat) :
    Sound lines (empty.addLines count lines).1 :=
  (sound_empty lines).addLines fun _ h => h

end Draft

namespace Instruction

/-- An instruction takes the first tokens, as many as its opcode consumes. -/
theorem make_eq_ok {op : Opcode} {tokens : List Text} {inst : Instruction}
    (h : make op tokens = .ok inst) :
    inst.opcode = op ∧ inst.operands = tokens.take op.arity ∧ op.arity ≤ tokens.length := by
  unfold make at h
  split at h
  · cases h
  · split at h <;> cases h <;> simp [opcode, operands, Opcode.arity]

theorem make_opcode_operands (inst : Instruction) :
    make inst.opcode inst.operands = .ok inst := by
  cases inst <;> rfl

end Instruction

namespace Scanned

theorem build_eq_ok {evaluate : Text → Evaluation × Text} {scanned : Scanned}
    {inst : Instruction} :
    (scanned.build evaluate).1 = .ok inst ↔
      ∃ tokens, (evaluateWords evaluate scanned.words).1 = .ok tokens ∧
        Instruction.make scanned.op tokens = .ok inst := by
  rw [build]
  cases hw : (evaluateWords evaluate scanned.words).1 with
  | error fault => simp [hw, Except.bind]
  | ok tokens => simp [hw, Except.bind]

theorem buildAll_eq_ok {evaluate : Text → Evaluation × Text} {done instructions : Array Instruction}
    {scanned : List Scanned} :
    (buildAll evaluate done scanned).1 = .ok instructions ↔
      ∃ built : List Instruction, instructions = done ++ built.toArray ∧
        scanned.map (fun s => (s.build evaluate).1) = built.map .ok := by
  induction scanned generalizing done with
  | nil =>
      simp only [buildAll, Except.ok.injEq, List.map_nil]
      constructor
      · rintro rfl
        exact ⟨[], by simp, rfl⟩
      · rintro ⟨built, rfl, hb⟩
        obtain rfl := List.map_eq_nil_iff.1 hb.symm
        simp
  | cons first rest ih =>
      rw [buildAll]
      rcases hfirst : first.build evaluate with ⟨fault | inst, printed⟩
      · simp only [reduceCtorEq, List.map_cons, hfirst, false_iff]
        rintro ⟨built, -, hb⟩
        cases built <;> cases hb
      · simp only [ih, List.map_cons, hfirst]
        constructor
        · rintro ⟨built, rfl, hb⟩
          exact ⟨inst :: built, by simp, by rw [hb]; rfl⟩
        · rintro ⟨built, rfl, hb⟩
          cases built with
          | nil => cases hb
          | cons inst' built =>
              rw [List.map_cons, List.cons.injEq, Except.ok.injEq] at hb
              obtain ⟨rfl, hb⟩ := hb
              exact ⟨built, by simp, hb⟩

/-- The first line that cannot be built decides. -/
theorem buildAll_eq_error {evaluate : Text → Evaluation × Text} {done : Array Instruction}
    {before after : List Scanned} {scanned : Scanned} {fault : Fault}
    (hbefore : ∀ s ∈ before, ∃ inst, (s.build evaluate).1 = .ok inst)
    (h : (scanned.build evaluate).1 = .error fault) :
    (buildAll evaluate done (before ++ scanned :: after)).1 =
      .error ⟨[.source scanned.line.number scanned.line.text], fault⟩ := by
  induction before generalizing done with
  | nil =>
      rw [List.nil_append, buildAll]
      rcases hbuild : scanned.build evaluate with ⟨fault' | inst, printed⟩
      · rw [hbuild] at h
        cases h
        rfl
      · rw [hbuild] at h
        cases h
  | cons first before ih =>
      obtain ⟨inst, hinst⟩ := hbefore first (by simp)
      rw [List.cons_append, buildAll]
      rcases hbuild : first.build evaluate with ⟨fault' | inst', printed⟩
      · rw [hbuild] at hinst
        cases hinst
      · exact ih fun s hs => hbefore s (List.mem_cons_of_mem _ hs)

theorem evaluateWords_cons (evaluate : Text → Evaluation × Text) (word : Text) (words : List Text) :
    (evaluateWords evaluate (word :: words)).1 = (evaluateWord evaluate word).1.bind fun token =>
      (evaluateWords evaluate words).1.map (token :: ·) := by
  rw [evaluateWords]
  rcases evaluateWord evaluate word with ⟨fault | token, printed⟩ <;> rfl

/-- Every word has its token. -/
theorem token_of_word {evaluate : Text → Evaluation × Text} {words tokens : List Text}
    (h : (evaluateWords evaluate words).1 = .ok tokens) {k : Nat} {word : Text}
    (hk : words[k]? = some word) :
    ∃ token, tokens[k]? = some token ∧ (evaluateWord evaluate word).1 = .ok token := by
  induction words generalizing tokens k with
  | nil => cases hk
  | cons first words ih =>
      rw [evaluateWords_cons] at h
      cases hfirst : (evaluateWord evaluate first).1 with
      | error fault => rw [hfirst] at h; cases h
      | ok token =>
          rw [hfirst] at h
          cases hrest : (evaluateWords evaluate words).1 with
          | error fault => rw [hrest] at h; cases h
          | ok rest =>
              rw [hrest] at h
              cases h
              cases k with
              | zero =>
                  cases hk
                  exact ⟨token, rfl, hfirst⟩
              | succ k => exact ih hrest hk

/-- The first word that has no token decides. -/
theorem evaluateWords_eq_error {evaluate : Text → Evaluation × Text} {before after : List Text}
    {word : Text} {fault : Fault}
    (hbefore : ∀ w ∈ before, ∃ token, (evaluateWord evaluate w).1 = .ok token)
    (h : (evaluateWord evaluate word).1 = .error fault) :
    (evaluateWords evaluate (before ++ word :: after)).1 = .error fault := by
  induction before with
  | nil =>
      rw [List.nil_append, evaluateWords_cons, h]
      rfl
  | cons first before ih =>
      obtain ⟨token, htoken⟩ := hbefore first (by simp)
      rw [List.cons_append, evaluateWords_cons, htoken,
        ih fun w hw => hbefore w (List.mem_cons_of_mem _ hw)]
      rfl

/-- Words without an expression are the tokens. -/
theorem evaluateWords_of_plain {words : List Text} (h : ∀ word ∈ words, expression? word = none)
    (evaluate : Text → Evaluation × Text) : (evaluateWords evaluate words).1 = .ok words := by
  induction words with
  | nil => rfl
  | cons word words ih =>
      have hword : evaluateWord evaluate word = (.ok word, []) := by
        rw [evaluateWord, h word (by simp)]
      rw [evaluateWords, hword]
      dsimp only
      rw [ih fun w hw => h w (List.mem_cons_of_mem _ hw)]
      rfl

end Scanned

namespace Assembler

theorem finish_eq_ok {evaluate : Evaluator} {asm : Assembler} {draft : Draft} {program : Program} :
    (asm.finish evaluate draft).1 = .ok program ↔
      ∃ entry instructions, draft.labels.find? asm.entry = some entry ∧
        (Scanned.buildAll (evaluate (environment asm.predefined draft.labels)) #[]
          draft.scanned.toList).1 = .ok instructions ∧
        program = ⟨instructions, draft.scanned.map (·.line), draft.labels, entry⟩ := by
  rw [finish]
  cases draft.labels.find? asm.entry with
  | none => simp
  | some entry =>
      dsimp only
      rcases Scanned.buildAll (evaluate (environment asm.predefined draft.labels)) #[]
        draft.scanned.toList with ⟨failure | instructions, printed⟩
      · simp
      · simp [eq_comm]

/-- With its entry declared a draft becomes a program as soon as its lines can be built. -/
theorem finish_of_entry {evaluate : Evaluator} {asm : Assembler} {draft : Draft} {entry : Int64}
    (h : draft.labels.find? asm.entry = some entry) :
    (asm.finish evaluate draft).1 =
      (Scanned.buildAll (evaluate (environment asm.predefined draft.labels)) #[]
        draft.scanned.toList).1.map
          fun instructions => ⟨instructions, draft.scanned.map (·.line), draft.labels, entry⟩ := by
  rw [finish, h]
  dsimp only
  rcases Scanned.buildAll (evaluate (environment asm.predefined draft.labels)) #[]
    draft.scanned.toList with ⟨failure | instructions, printed⟩ <;> rfl

/-- A text is accepted if the first pass goes through, the reader ends well and the draft can be
finished. -/
theorem parse_eq_ok {evaluate : Evaluator} {asm : Assembler} {reader : Reader}
    {program : Program} :
    (asm.parse evaluate reader).1 = .ok program ↔
      (Draft.empty.addLines 0 (Source.ofReader reader).lines).2.2 = none ∧
        (Source.ofReader reader).fault = none ∧
        (asm.finish evaluate (Draft.empty.addLines 0 (Source.ofReader reader).lines).1).1 =
          .ok program := by
  rw [parse, draft_cleared]
  rcases Draft.empty.addLines 0 (Source.ofReader reader).lines with ⟨draft, count, failure⟩
  cases failure with
  | some failure => simp
  | none =>
      cases hfault : (Source.ofReader reader).fault with
      | some fault => simp
      | none => simp

/-- With a reader that ends well, the first pass decides or what becomes of its draft. -/
theorem parse_of_no_fault {evaluate : Evaluator} {asm : Assembler} {reader : Reader}
    (h : (Source.ofReader reader).fault = none) :
    (asm.parse evaluate reader).1 =
      match (Draft.empty.addLines 0 (Source.ofReader reader).lines).2.2 with
      | some failure => .error failure
      | none => (asm.finish evaluate (Draft.empty.addLines 0 (Source.ofReader reader).lines).1).1 := by
  rw [parse, draft_cleared]
  rcases Draft.empty.addLines 0 (Source.ofReader reader).lines with ⟨draft, count, _ | failure⟩
  · simp only [h]
  · rfl

/-- The labels that a parse leaves behind are those of the first pass. -/
theorem labels_parse (evaluate : Evaluator) (asm : Assembler) (reader : Reader) :
    (asm.parse evaluate reader).2.labels =
      (Draft.empty.addLines 0 (Source.ofReader reader).lines).1.labels := rfl

/-- The first pass over a text, its reader and its entry are without fault, so that the second pass
decides. -/
structure ReachesSecondPass (asm : Assembler) (reader : Reader) : Prop where
  lines : (Draft.empty.addLines 0 (Source.ofReader reader).lines).2.2 = none
  ending : (Source.ofReader reader).fault = none
  entry : ((Draft.empty.addLines 0 (Source.ofReader reader).lines).1.labels.find? asm.entry).isSome

theorem ReachesSecondPass.scanned {asm : Assembler} {reader : Reader}
    (h : asm.ReachesSecondPass reader) :
    (Draft.empty.addLines 0 (Source.ofReader reader).lines).1.scanned.toList =
      Draft.scannedFrom 0 (Source.ofReader reader).lines :=
  Draft.scanned_addLines h.lines

theorem reachesSecondPass_of_parse {evaluate : Evaluator} {asm : Assembler} {reader : Reader}
    {program : Program} (h : (asm.parse evaluate reader).1 = .ok program) :
    asm.ReachesSecondPass reader := by
  obtain ⟨hlines, hreader, hfinish⟩ := parse_eq_ok.1 h
  obtain ⟨entry, instructions, hentry, -, -⟩ := finish_eq_ok.1 hfinish
  exact ⟨hlines, hreader, by rw [hentry]; rfl⟩

/-- Then the first instruction line that cannot be built is the failure. -/
theorem ReachesSecondPass.parse_eq_error {evaluate : Evaluator} {asm : Assembler}
    {reader : Reader} (h : asm.ReachesSecondPass reader) {failure : Failure}
    (hbuild : (Scanned.buildAll (evaluate (environment asm.predefined
      (asm.parse evaluate reader).2.labels)) #[]
      (Draft.scannedFrom 0 (Source.ofReader reader).lines)).1 = .error failure) :
    (asm.parse evaluate reader).1 = .error failure := by
  rw [labels_parse, ← h.scanned] at hbuild
  obtain ⟨hlines, hreader, hentry⟩ := h
  rw [parse, draft_cleared]
  generalize Draft.empty.addLines 0 (Source.ofReader reader).lines = pass at hlines hentry hbuild
  obtain ⟨draft, count, failure'⟩ := pass
  cases hlines
  dsimp only at hentry hbuild
  obtain ⟨entry, hfound⟩ := Option.isSome_iff_exists.1 hentry
  simp only [hreader, finish, hfound]
  rcases hall : Scanned.buildAll (evaluate (environment asm.predefined draft.labels)) #[]
    draft.scanned.toList with ⟨failure'' | instructions, printed⟩
  · rw [hall] at hbuild
    cases hbuild
    rfl
  · rw [hall] at hbuild
    cases hbuild

end Assembler

end RegisterMachine

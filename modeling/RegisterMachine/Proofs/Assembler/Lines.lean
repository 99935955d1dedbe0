import RegisterMachine.Proofs.Text.Pieces
import RegisterMachine.Proofs.Text.Trimming

/-!
# Lines of program text

What a line holds does not depend on its comment, on the blanks around it or on those
around its opcode. `compact` is the line without them: it holds the same, it is what the
instruction looks like when it is written out, and like a label line it is read from a
text as it stands.
-/
namespace RegisterMachine

open Text (ofString byte newline Trimmed)

/-- A comment begins with two of these. -/
def slashes : Text := [byte '/', byte '/']

/-- The name of an opcode is a word, so no byte with a meaning of its own is in it. -/
theorem Opcode.isWordPart_of_mem_name {op : Opcode} {b : UInt8} (h : b ∈ op.name) :
    Text.isWordPart b := by
  have hall : op.name.all Text.isWordPart = true := by cases op <;> decide
  exact List.all_eq_true.1 hall b h

theorem Opcode.not_mem_name {op : Opcode} {b : UInt8} (h : Text.isWordPart b = false) :
    b ∉ op.name := by
  intro hb
  rw [isWordPart_of_mem_name hb] at h
  cases h

theorem Opcode.name_ne_nil (op : Opcode) : op.name ≠ [] := by cases op <;> decide

theorem Opcode.trimmed_name (op : Opcode) : Trimmed op.name :=
  Text.trimmed_of_word fun _ hb => isWordPart_of_mem_name hb

@[simp] theorem Opcode.parse_name (op : Opcode) : Opcode.parse op.name = .ok op := by
  cases op <;> rfl

theorem Opcode.parse_eq_ok {word : Text} {op : Opcode} (h : Opcode.parse word = .ok op) :
    word = op.name := by
  rw [parse] at h
  split at h
  · rename_i found hfind
    cases h
    have := List.find?_some hfind
    exact (beq_iff_eq.1 this).symm
  · cases h

namespace LineContent

theorem trimmed_strip (line : Text) : Trimmed (strip line) := Text.trimmed_trim _

theorem strip_isInfix (line : Text) : strip line <:+: line :=
  (Text.trim_isInfix _).trans (Text.beforePair_isPrefix _ _ line).isInfix

theorem not_slashes_infix_strip (line : Text) : ¬ slashes <:+: strip line := fun h =>
  Text.not_infix_beforePair _ _ line (h.trans (Text.trim_isInfix _))

theorem strip_eq_self {t : Text} (h : Trimmed t) (hs : ¬ slashes <:+: t) : strip t = t := by
  rw [strip, Text.beforePair_eq_self hs, h.trim_eq]

/-- What a line holds can be seen from the line without its comment and the blanks around it. -/
theorem ofLine_congr {line line' : Text} (h : strip line' = strip line) :
    ofLine line' = ofLine line := by
  rw [ofLine, ofLine, h]

theorem strip_front {front : Text} (h : ∀ b ∈ front, Text.IsSpace b) (line : Text) :
    strip (front ++ line) = strip line := by
  induction front with
  | nil => rfl
  | cons b front ih =>
      have hb := h b (by simp)
      rw [← ih fun c hc => h c (List.mem_cons_of_mem _ hc), List.cons_append, strip,
        Text.beforePair_cons_of_ne hb.ne_slash, Text.trim_cons_of_isSpace hb, ← strip]

theorem strip_append_of_isSpace {b : UInt8} (h : Text.IsSpace b) (line : Text) :
    strip (line ++ [b]) = strip line := by
  by_cases hcomment : slashes <:+: line
  · rw [strip, Text.beforePair_append_of_infix hcomment, ← strip]
  · have hsingle : Text.beforePair (byte '/') (byte '/') [b] = [b] := rfl
    rw [strip, Text.beforePair_append_of_not_infix hcomment h.ne_slash, hsingle,
      Text.trim_append_of_isSpace h, strip, Text.beforePair_eq_self hcomment]

theorem strip_blanks {blanks : Text} (h : ∀ b ∈ blanks, Text.IsSpace b) (line : Text) :
    strip (line ++ blanks) = strip line := by
  induction blanks generalizing line with
  | nil => rw [List.append_nil]
  | cons b blanks ih =>
      rw [List.append_cons, ih fun c hc => h c (List.mem_cons_of_mem _ hc),
        strip_append_of_isSpace (h b (by simp))]

/-- Behind a blank a comment may begin. -/
theorem strip_comment {b : UInt8} (h : Text.IsSpace b) (line comment : Text) :
    strip (line ++ b :: (slashes ++ comment)) = strip line := by
  by_cases hcomment : slashes <:+: line
  · rw [strip, Text.beforePair_append_of_infix hcomment, ← strip]
  · have hbefore : Text.beforePair (byte '/') (byte '/') (b :: (slashes ++ comment)) = [b] := by
      rw [Text.beforePair_cons_of_ne h.ne_slash]
      exact congrArg (b :: ·) (Text.beforePair_self _ _ comment)
    rw [strip, Text.beforePair_append_of_not_infix hcomment h.ne_slash, hbefore,
      Text.trim_append_of_isSpace h, strip, Text.beforePair_eq_self hcomment]

theorem strip_dropTrailing (line : Text) :
    strip (line.dropTrailing Text.carriageReturn) = strip line := by
  rw [Text.dropTrailing]
  split
  · rename_i hlast
    obtain ⟨init, rfl⟩ := List.getLast?_eq_some_iff.1 hlast
    rw [List.dropLast_concat, strip_append_of_isSpace Text.isSpace_carriageReturn]
  · rfl

/-- A text that can be the name of a label in a line of program text. -/
structure IsLabelName (name : Text) : Prop where
  ne_nil : name ≠ []
  trimmed : Trimmed name
  noComment : ¬ slashes <:+: name

def labelLine (name : Text) : Text := byte '!' :: name

theorem ofLine_eq_label {line name : Text} (h : ofLine line = .ok (.label name)) :
    IsLabelName name ∧ ∃ rest, strip line = byte '!' :: rest ∧ name <:+: rest := by
  have hslashes := not_slashes_infix_strip line
  rw [ofLine] at h
  split at h
  · cases h
  rename_i first rest hstrip
  rw [hstrip] at hslashes ⊢
  split at h
  · rename_i hfirst
    subst hfirst
    dsimp only at h
    split at h
    · cases h
    · rename_i hne
      cases h
      have hrest : rest <:+: byte '!' :: rest := (List.suffix_cons _ _).isInfix
      exact ⟨⟨by simpa using hne, Text.trimmed_trim _,
        fun hs => hslashes ((hs.trans (Text.trim_isInfix rest)).trans hrest)⟩, rest, rfl,
        Text.trim_isInfix rest⟩
  · rw [ofWords.eq_def] at h
    split at h
    · cases h
    · split at h <;> cases h

theorem IsLabelName.trimmed_labelLine {name : Text} (h : IsLabelName name) :
    Trimmed (labelLine name) := h.trimmed.cons (by decide) (by decide)

theorem ofLine_labelLine {name : Text} (h : IsLabelName name) :
    ofLine (labelLine name) = .ok (.label name) := by
  have hslashes : ¬ slashes <:+: labelLine name := by
    rw [labelLine, List.infix_cons_iff, slashes, List.cons_prefix_cons]
    rintro (hp | hi)
    · exact absurd hp.1 (by decide)
    · exact h.noComment hi
  have hne : ¬ name.isEmpty := by simpa using h.ne_nil
  rw [ofLine, strip_eq_self h.trimmed_labelLine hslashes, labelLine]
  simp only [if_true, h.trimmed.trim_eq, if_neg hne]

/-- The line without its comment, the blanks around it and those around its opcode. -/
def compact (line : Text) : Text :=
  match Text.splitOn (byte ':') (strip line) with
  | [] => []
  | word :: rest => Text.join [byte ':'] (word.trim :: rest)

/-- An instruction line taken apart: the opcode and the operand words as they are written. -/
theorem ofLine_eq_instruction {line : Text} {op : Opcode} {words : List Text}
    (h : ofLine line = .ok (.instruction op words)) :
    ∃ word raw, Text.splitOn (byte ':') (strip line) = word :: raw ∧ word.trim = op.name ∧
      words = raw.map unescapeWord ∧ compact line = Text.join [byte ':'] (op.name :: raw) := by
  rw [ofLine] at h
  split at h
  · cases h
  rename_i first rest hstrip
  split at h
  · dsimp only at h
    split at h <;> cases h
  · rw [← hstrip] at h
    obtain ⟨word, raw, hsplit⟩ := List.exists_cons_of_ne_nil
      (Text.splitOn_ne_nil (byte ':') (strip line))
    rw [hsplit, ofWords] at h
    cases hop : Opcode.parse word.trim with
    | error fault => rw [hop] at h; cases h
    | ok found =>
        rw [hop] at h
        cases h
        have hname := Opcode.parse_eq_ok hop
        refine ⟨word, raw, hsplit, hname, rfl, ?_⟩
        simp only [compact, hsplit, hname]

/-- Both the line and its compact form are an opcode, with or without blanks, and the same rest,
which begins with a colon. -/
theorem strip_and_compact {line : Text} {op : Opcode} {words : List Text}
    (h : ofLine line = .ok (.instruction op words)) :
    ∃ word tail, strip line = word ++ tail ∧ word.trim = op.name ∧
      compact line = op.name ++ tail ∧ (tail = [] ∨ ∃ more, tail = byte ':' :: more) := by
  obtain ⟨word, raw, hsplit, hname, -, hcompact⟩ := ofLine_eq_instruction h
  refine ⟨word, raw.flatMap (byte ':' :: ·), ?_, hname, ?_, ?_⟩
  · rw [← Text.join_splitOn (byte ':') (strip line), hsplit, Text.join_cons]
  · rw [hcompact, Text.join_cons]
  · cases raw with
    | nil => exact .inl rfl
    | cons first raw => exact .inr ⟨_, List.cons_append⟩

theorem trimmed_compact {line : Text} {op : Opcode} {words : List Text}
    (h : ofLine line = .ok (.instruction op words)) : Trimmed (compact line) := by
  have htrim := trimmed_strip line
  obtain ⟨word, tail, hstrip, -, hcompact, rfl | ⟨more, rfl⟩⟩ := strip_and_compact h
  · rw [hcompact, List.append_nil]
    exact op.trimmed_name
  · rw [hstrip] at htrim
    rw [hcompact]
    exact htrim.exchange (by decide) op.name_ne_nil op.trimmed_name

theorem not_slashes_infix_compact {line : Text} {op : Opcode} {words : List Text}
    (h : ofLine line = .ok (.instruction op words)) : ¬ slashes <:+: compact line := by
  have hslashes := not_slashes_infix_strip line
  have hslash : byte '/' ∉ op.name := Opcode.not_mem_name (by decide)
  obtain ⟨word, tail, hstrip, -, hcompact, rfl | ⟨more, rfl⟩⟩ := strip_and_compact h
  · rw [hcompact, List.append_nil]
    exact fun hs => hslash (hs.subset (by simp [slashes]))
  · rw [hstrip] at hslashes
    rw [hcompact]
    refine Text.not_infix_append_cons hslash (by decide) fun hs => hslashes (hs.trans ?_)
    exact ((List.suffix_cons _ _).trans (List.suffix_append _ _)).isInfix

theorem length_compact_le {line : Text} {op : Opcode} {words : List Text}
    (h : ofLine line = .ok (.instruction op words)) : (compact line).length ≤ line.length := by
  have hle := (strip_isInfix line).length_le
  obtain ⟨word, tail, hstrip, hname, hcompact, -⟩ := strip_and_compact h
  have hword := Text.length_trim_le word
  rw [hname] at hword
  rw [hstrip, List.length_append] at hle
  rw [hcompact, List.length_append]
  omega

theorem newline_not_mem_compact {line : Text} {op : Opcode} {words : List Text}
    (h : ofLine line = .ok (.instruction op words)) (hline : newline ∉ line) :
    newline ∉ compact line := by
  obtain ⟨word, tail, hstrip, -, hcompact, -⟩ := strip_and_compact h
  rw [hcompact, List.mem_append, not_or]
  refine ⟨Opcode.not_mem_name (by decide), fun hmem => hline ((strip_isInfix line).subset ?_)⟩
  rw [hstrip]
  exact List.mem_append_right word hmem

/-- The compact form of an instruction line holds the same instruction. -/
theorem ofLine_compact {line : Text} {op : Opcode} {words : List Text}
    (h : ofLine line = .ok (.instruction op words)) :
    ofLine (compact line) = .ok (.instruction op words) := by
  obtain ⟨word, raw, hsplit, -, rfl, hcompact⟩ := ofLine_eq_instruction h
  have hpieces : Text.splitOn (byte ':') (compact line) = op.name :: raw := by
    rw [hcompact]
    refine Text.splitOn_join (by simp) fun t ht => ?_
    obtain rfl | ht := List.mem_cons.1 ht
    · exact Opcode.not_mem_name (by decide)
    · exact Text.not_mem_of_mem_splitOn (by rw [hsplit]; exact List.mem_cons_of_mem _ ht)
  obtain ⟨first, rest, hname⟩ := List.exists_cons_of_ne_nil op.name_ne_nil
  have hmark : byte '!' ∉ op.name := Opcode.not_mem_name (by decide)
  have hfirst : first ≠ byte '!' := by
    rintro rfl
    exact hmark (by rw [hname]; simp)
  have hcons : compact line = first :: (rest ++ raw.flatMap (byte ':' :: ·)) := by
    rw [hcompact, Text.join_cons, hname, List.cons_append]
  rw [ofLine, strip_eq_self (trimmed_compact h) (not_slashes_infix_compact h)]
  rw [hcons] at hpieces ⊢
  simp only [if_neg hfirst, hpieces, ofWords, op.trimmed_name.trim_eq, Opcode.parse_name]

/-- An instruction is written as the line from which it was built. -/
theorem disassemble_eq_compact {line : Text} {inst : Instruction}
    (h : ofLine line = .ok (.instruction inst.opcode inst.operands)) (hline : newline ∉ line) :
    inst.disassemble = compact line := by
  obtain ⟨word, raw, hsplit, -, hwords, hcompact⟩ := ofLine_eq_instruction h
  have hraw (w : Text) (hw : w ∈ raw) : Instruction.escapeWord (unescapeWord w) = w := by
    refine escapeWord_unescapeWord fun hmem => hline ((strip_isInfix line).subset ?_)
    rw [← Text.join_splitOn (byte ':') (strip line), hsplit, Text.join_cons]
    exact List.mem_append_right _ (List.mem_flatMap.2 ⟨w, hw, List.mem_cons_of_mem _ hmem⟩)
  have hname : Instruction.escapeWord inst.opcode.name = inst.opcode.name :=
    Instruction.escapeWord_eq_self (Opcode.not_mem_name (by decide))
  have hmap : raw.map (Instruction.escapeWord ∘ unescapeWord) = raw :=
    (List.map_congr_left hraw).trans (List.map_id raw)
  rw [Instruction.disassemble, hcompact, hwords, List.map_cons, hname, List.map_map, hmap]
  rfl

end LineContent

namespace Source

/-- A line that a reader of lines can deliver: it has no line break and is not too long. -/
structure Fits (line : Text) : Prop where
  noBreak : newline ∉ line
  length_lt : line.length < lineLimit

theorem Fits.of_isInfix {line part : Text} (h : Fits line) (hpart : part <:+: line) :
    Fits part where
  noBreak hmem := h.noBreak (hpart.subset hmem)
  length_lt := Nat.lt_of_le_of_lt hpart.length_le h.length_lt

theorem dropTrailing_isInfix (b : UInt8) (t : Text) : t.dropTrailing b <:+: t := by
  rw [Text.dropTrailing]
  split
  · have hpart : t.dropLast <+: t := List.dropLast_prefix t
    exact hpart.isInfix
  · exact List.infix_rfl

theorem mem_of_mem_pieces {t piece : Text} (h : piece ∈ pieces t) :
    piece ∈ Text.splitOn newline t := by
  rw [pieces] at h
  split at h
  · rename_i rest hrev
    rw [← List.mem_reverse, hrev]
    exact List.mem_cons_of_mem _ (List.mem_reverse.1 h)
  · rename_i all _
    rw [← List.mem_reverse]
    exact List.mem_reverse.1 h

theorem fits_of_mem_withinLimit {ending : Option Fault} {done ps : List Text} {line : Text}
    (hdone : ∀ l ∈ done, Fits l) (hps : ∀ p ∈ ps, newline ∉ p)
    (h : line ∈ (withinLimit ending done ps).lines) : Fits line := by
  induction ps generalizing done with
  | nil => exact hdone line (List.mem_reverse.1 h)
  | cons p ps ih =>
      rw [withinLimit] at h
      split at h
      · exact hdone line (List.mem_reverse.1 h)
      · rename_i hlen
        have hp : Fits p := ⟨hps p (by simp), Nat.not_le.1 hlen⟩
        refine ih (fun l hl => ?_) (fun q hq => hps q (List.mem_cons_of_mem _ hq)) h
        obtain rfl | hl := List.mem_cons.1 hl
        · exact hp.of_isInfix (dropTrailing_isInfix _ _)
        · exact hdone l hl

theorem fits_of_mem_lines {reader : Reader} {line : Text} (h : line ∈ (ofReader reader).lines) :
    Fits line := by
  refine fits_of_mem_withinLimit (fun l hl => absurd hl (by simp)) (fun p hp => ?_) h
  exact Text.not_mem_of_mem_splitOn (mem_of_mem_pieces hp)

theorem withinLimit_of_fits {ending : Option Fault} {done lines : List Text}
    (hfits : ∀ l ∈ lines, Fits l) (htrim : ∀ l ∈ lines, Trimmed l) :
    withinLimit ending done lines = ⟨done.reverse ++ lines, ending⟩ := by
  induction lines generalizing done with
  | nil => simp [withinLimit]
  | cons line lines ih =>
      have hlast : line.getLast? ≠ some Text.carriageReturn :=
        (htrim line (by simp)).getLast?_ne (by decide) (by decide)
      rw [withinLimit, if_neg (Nat.not_le.2 (hfits line (by simp)).length_lt),
        ih (fun l hl => hfits l (List.mem_cons_of_mem _ hl))
          (fun l hl => htrim l (List.mem_cons_of_mem _ hl)),
        Text.dropTrailing, if_neg hlast]
      simp

/-- A reader over short lines delivers them all. -/
theorem ofReader_of_short {reader : Reader}
    (hshort : ∀ piece ∈ pieces reader.pending, piece.length < lineLimit)
    (hending : reader.ending = .endOfFile) :
    ofReader reader =
      ⟨(pieces reader.pending).map (·.dropTrailing Text.carriageReturn), none⟩ := by
  have hloop (ps done : List Text) (h : ∀ p ∈ ps, p.length < lineLimit) :
      withinLimit none done ps =
        ⟨done.reverse ++ ps.map (·.dropTrailing Text.carriageReturn), none⟩ := by
    induction ps generalizing done with
    | nil => simp [withinLimit]
    | cons p ps ih =>
        rw [withinLimit, if_neg (Nat.not_le.2 (h p (by simp))),
          ih _ fun q hq => h q (List.mem_cons_of_mem _ hq)]
        simp
  rw [ofReader, hending]
  exact hloop _ _ hshort

/-- Trimmed lines are read as they were written. -/
theorem ofReader_ofLines {lines : List Text} (hfits : ∀ l ∈ lines, Fits l)
    (htrim : ∀ l ∈ lines, Trimmed l) :
    ofReader (Reader.ofText (Text.ofLines lines)) = ⟨lines, none⟩ := by
  have hpending : (Reader.ofText (Text.ofLines lines)).pending = Text.ofLines lines := by
    simp [Reader.ofText, Reader.pending]
  have hpieces : pieces (Text.ofLines lines) = lines := by
    rw [pieces, Text.splitOn_ofLines fun l hl => (hfits l hl).noBreak]
    simp
  rw [ofReader, hpending, hpieces, withinLimit_of_fits hfits htrim]
  rfl

end Source

end RegisterMachine

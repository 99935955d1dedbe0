import RegisterMachine.Proofs.Assembler.Expressions
import RegisterMachine.Proofs.Assembler.Lines
import RegisterMachine.Proofs.Text.Quoting

/-!
# Quoted values as operands

A snapshot writes texts with many escapes, an operand knows one: a backslash and an `n`
for a line break. So the quoted form of a value is an operand for that value exactly if
nothing else had to be escaped, whichever characters are printable. An integer is an
operand as long as it has no sign; with one it is taken for the name of a label.
-/
namespace RegisterMachine

open Text (ofString byte newline Trimmed Unit escapeUnit ofUnits)

namespace LineContent

theorem unescapeWord_cons_of_ne {b : UInt8} (h : b ≠ byte '\\') (t : Text) :
    unescapeWord (b :: t) = b :: unescapeWord t := by
  cases t with
  | nil => rfl
  | cons c t => exact Text.replacePair_cons_of_not (fun hpair => h hpair.1) _ _

theorem unescapeWord_backslash {t : Text} (h : t.head? ≠ some (byte 'n')) :
    unescapeWord (byte '\\' :: t) = byte '\\' :: unescapeWord t := by
  cases t with
  | nil => rfl
  | cons c t =>
      refine Text.replacePair_cons_of_not (fun hpair => h ?_) _ _
      rw [hpair.2]
      rfl

theorem unescapeWord_newline (t : Text) :
    unescapeWord (byte '\\' :: byte 'n' :: t) = newline :: unescapeWord t :=
  Text.replacePair_cons_self _ _ _ _

theorem unescapeWord_append_of_not_mem {word : Text} (h : byte '\\' ∉ word) (t : Text) :
    unescapeWord (word ++ t) = word ++ unescapeWord t := by
  induction word with
  | nil => rfl
  | cons b word ih =>
      rw [List.mem_cons, not_or] at h
      rw [List.cons_append, unescapeWord_cons_of_ne (Ne.symm h.1), ih h.2, List.cons_append]

/-- A byte that ends no escape can be taken off the end. -/
theorem unescapeWord_concat {b : UInt8} (h : b ≠ byte 'n') (word : Text) :
    unescapeWord (word ++ [b]) = unescapeWord word ++ [b] := by
  match word with
  | [] => rfl
  | [x] => exact Text.replacePair_cons_of_not (fun hpair => h hpair.2) _ _
  | x :: y :: word =>
      by_cases hpair : x = byte '\\' ∧ y = byte 'n'
      · obtain ⟨rfl, rfl⟩ := hpair
        rw [List.cons_append, List.cons_append, unescapeWord_newline, unescapeWord_newline,
          unescapeWord_concat h word, List.cons_append]
      · have htail := unescapeWord_concat h (y :: word)
        rw [List.cons_append] at htail
        rw [List.cons_append, List.cons_append, unescapeWord, Text.replacePair_cons_of_not hpair,
          ← unescapeWord, htail, unescapeWord, unescapeWord, Text.replacePair_cons_of_not hpair,
          List.cons_append]

/-- Behind a backslash that is read, a line break or the backslash itself comes out. -/
theorem head?_unescapeWord_backslash (t : Text) :
    (unescapeWord (byte '\\' :: t)).head? = some newline ∨
      (unescapeWord (byte '\\' :: t)).head? = some (byte '\\') := by
  by_cases h : t.head? = some (byte 'n')
  · obtain ⟨t, rfl⟩ := List.head?_eq_some_iff.1 h
    rw [unescapeWord_newline]
    exact .inl rfl
  · rw [unescapeWord_backslash h]
    exact .inr rfl

end LineContent

namespace Text

open LineContent

variable {printable : Char → Bool}

/-- A unit that is read back from its escaped form: a line break, or a printable character other
than the quotation mark and the backslash. -/
def Unit.isPlain (printable : Char → Bool) : Unit → Bool
  | .character c => c != '"' && c != '\\' && (printable c || c == '\n')
  | .stray _ => false

/-- Units as they stand between the quotation marks. -/
def escaped (printable : Char → Bool) (us : List Unit) : Text :=
  us.flatMap (escapeUnit '"' printable)

theorem escaped_cons (u : Unit) (us : List Unit) :
    escaped printable (u :: us) = escapeUnit '"' printable u ++ escaped printable us :=
  List.flatMap_cons

/-- Only the character of a byte below 128 begins with that byte. -/
theorem eq_of_bytes_head {u : Unit} (hu : u.Proper) {b : UInt8} (hb : b.toNat < 0x80)
    {tail : Text} (h : u.bytes = b :: tail) : u = .character (Char.ofNat b.toNat) := by
  cases u with
  | character c => rw [eq_ofNat_of_encode h hb]
  | stray a =>
      obtain rfl := (List.cons.inj h).1
      exact absurd hb (Nat.not_lt.2 hu)

theorem backslash_not_mem_encode {c : Char} (h : c ≠ '\\') :
    byte '\\' ∉ String.utf8EncodeChar c :=
  fun hmem => h (eq_ofNat_of_mem_encode hmem (by decide))

theorem escapeUnit_backslash :
    escapeUnit '"' printable (.character (Char.ofNat (byte '\\').toNat)) =
      [byte '\\', byte '\\'] := rfl

theorem escapeUnit_newline (h : printable '\n' = false) :
    escapeUnit '"' printable (.character (Char.ofNat newline.toNat)) = [byte '\\', byte 'n'] := by
  have hchar : Char.ofNat newline.toNat = '\n' := rfl
  rw [hchar, escapeUnit, if_neg (by decide), h]
  rfl

theorem unescapeWord_of_isPlain {u : Unit} (h : u.isPlain printable) (t : Text) :
    unescapeWord (escapeUnit '"' printable u ++ t) = u.bytes ++ unescapeWord t := by
  cases u with
  | stray b => cases h
  | character c =>
      simp only [Unit.isPlain, Bool.and_eq_true, bne_iff_ne, Bool.or_eq_true, beq_iff_eq] at h
      obtain ⟨⟨hmark, hslash⟩, hform⟩ := h
      have hplain : ¬ (c == '"' || c == '\\') := by simp [hmark, hslash]
      rw [escapeUnit, if_neg hplain]
      by_cases hprintable : printable c
      · rw [if_pos hprintable, Unit.bytes]
        exact unescapeWord_append_of_not_mem (backslash_not_mem_encode hslash) t
      · obtain rfl : c = '\n' := hform.resolve_left hprintable
        rw [if_neg hprintable]
        exact unescapeWord_newline t

/-- Any other unit is escaped with a backslash that begins no line break. -/
theorem escapeUnit_of_not_isPlain {u : Unit} (h : ¬ u.isPlain printable) :
    ∃ letter tail, escapeUnit '"' printable u = byte '\\' :: letter :: tail ∧
      letter ≠ byte 'n' := by
  cases u with
  | stray b => exact ⟨byte 'x', _, rfl, by decide⟩
  | character c =>
      rw [escapeUnit]
      split
      · rename_i hc
        simp only [Bool.or_eq_true, beq_iff_eq] at hc
        refine ⟨byte c, [], rfl, ?_⟩
        obtain rfl | rfl := hc <;> decide
      · rename_i hc
        simp only [Bool.or_eq_true, beq_iff_eq, not_or] at hc
        simp only [Unit.isPlain, Bool.and_eq_true, bne_iff_ne, ne_eq, hc.1, hc.2, not_false_eq_true,
          true_and, Bool.or_eq_true, beq_iff_eq, not_or] at h
        obtain ⟨hprintable, hbreak⟩ := h
        rw [if_neg hprintable]
        split
        · rename_i letter hshort
          refine ⟨letter, [], rfl, ?_⟩
          rintro rfl
          rw [shortEscape?] at hshort
          split at hshort
          all_goals first | exact absurd hshort (by decide) | skip
          rename_i hcode
          exact hbreak (by rw [← Char.ofNat_toNat c, hcode])
        · simp only [codeEscape]
          split
          · exact ⟨byte 'x', _, rfl, by decide⟩
          · split
            · exact ⟨byte 'u', _, rfl, by decide⟩
            · exact ⟨byte 'U', _, rfl, by decide⟩

theorem exists_escapeUnit_eq_cons {u : Unit} {b : UInt8} {tail : Text} (hbytes : u.bytes = b :: tail)
    (hb : b ≠ byte 'n') :
    ∃ first rest, escapeUnit '"' printable u = first :: rest ∧ first ≠ byte 'n' := by
  obtain ⟨rest, hescape⟩ | hescape := escapeUnit_cases printable u
  · exact ⟨byte '\\', rest, hescape, by decide⟩
  · exact ⟨b, tail, hescape.trans hbytes, hb⟩

/-- Once a backslash too many is in front, the bytes of the units never come out: the unit that
could come first is a backslash, which leaves as many in front of the next one. -/
theorem unescapeWord_backslashes_ne {us : List Unit} (hus : ∀ u ∈ us, u.Proper) (n : Nat) :
    unescapeWord (List.replicate (n + 1) (byte '\\') ++ escaped printable us) ≠ ofUnits us := by
  induction us generalizing n with
  | nil =>
      intro h
      rw [List.replicate_succ, List.cons_append] at h
      have hhead := head?_unescapeWord_backslash
        (List.replicate n (byte '\\') ++ escaped printable [])
      rw [h] at hhead
      simp at hhead
  | cons u us ih =>
      intro h
      rw [List.replicate_succ, List.cons_append, ofUnits_cons, escaped_cons] at h
      generalize hs : List.replicate n (byte '\\') ++
        (escapeUnit '"' printable u ++ escaped printable us) = s at h
      obtain ⟨b, tail, hbytes⟩ := List.exists_cons_of_ne_nil u.bytes_ne_nil
      have hhead := head?_unescapeWord_backslash s
      rw [h, hbytes, List.cons_append, List.head?_cons, Option.some.injEq, Option.some.injEq]
        at hhead
      have hlow : b.toNat < 0x80 := by
        obtain rfl | rfl := hhead <;> decide
      have hchar := eq_of_bytes_head (hus u (by simp)) hlow hbytes
      have hnext : s.head? ≠ some (byte 'n') := by
        have hb : b ≠ byte 'n' := by
          obtain rfl | rfl := hhead <;> decide
        obtain ⟨first, rest, hescape, hfirst⟩ := exists_escapeUnit_eq_cons hbytes hb
        rw [← hs, hescape]
        cases n with
        | zero => exact fun hn => hfirst (Option.some.inj hn)
        | succ n => exact fun hn => absurd (Option.some.inj hn) (by decide)
      rw [unescapeWord_backslash hnext, hbytes] at h
      obtain ⟨rfl, htail⟩ := List.cons.inj h
      subst hchar
      obtain rfl : tail = [] := (List.cons.inj hbytes).2.symm
      refine ih (fun v hv => hus v (List.mem_cons_of_mem _ hv)) (n + 1) ?_
      rw [← hs, escapeUnit_backslash] at htail
      rw [List.replicate_succ', List.replicate_succ', List.append_assoc, List.append_assoc]
      exact htail

/-- The bytes of the units come out exactly if every unit survives. -/
theorem unescapeWord_escaped_eq_iff {us : List Unit} (hus : ∀ u ∈ us, u.Proper) :
    unescapeWord (escaped printable us) = ofUnits us ↔ ∀ u ∈ us, u.isPlain printable := by
  induction us with
  | nil => exact ⟨fun _ => nofun, fun _ => rfl⟩
  | cons u us ih =>
      have hus' : ∀ v ∈ us, v.Proper := fun v hv => hus v (List.mem_cons_of_mem _ hv)
      rw [escaped_cons, ofUnits_cons, List.forall_mem_cons]
      by_cases hplain : u.isPlain printable
      · rw [unescapeWord_of_isPlain hplain, List.append_cancel_left_eq, ih hus']
        exact ⟨fun h => ⟨hplain, h⟩, fun h => h.2⟩
      · refine ⟨fun h => absurd h ?_, fun h => absurd h.1 hplain⟩
        obtain ⟨letter, tail, hescape, hletter⟩ := escapeUnit_of_not_isPlain hplain
        have hnext : (letter :: (tail ++ escaped printable us)).head? ≠ some (byte 'n') := by
          simpa using hletter
        rw [hescape, List.cons_append, List.cons_append, unescapeWord_backslash hnext]
        intro h
        obtain ⟨b, rest, hbytes⟩ := List.exists_cons_of_ne_nil u.bytes_ne_nil
        rw [hbytes] at h
        obtain ⟨rfl, htail⟩ := List.cons.inj h
        have hchar := eq_of_bytes_head (hus u (by simp)) (by decide) hbytes
        subst hchar
        obtain rfl : rest = [] := (List.cons.inj hbytes).2.symm
        obtain ⟨rfl, rfl⟩ : byte '\\' = letter ∧ [] = tail := by
          rw [escapeUnit_backslash] at hescape
          simpa using hescape
        exact unescapeWord_backslashes_ne hus' 0 htail

end Text

/-- What begins with a minus sign can only be the name of a label. -/
theorem Operand.resolve_of_minus (rest : Text) (labels : NameTable) (m : Memory) :
    resolve labels (byte '-' :: rest) m = match labels.find? (byte '-' :: rest) with
      | some index => .ok (.constant (.integer index)) m
      | none => .error (.unknownLabel (byte '-' :: rest)) m := by
  have hbracket : bracketed? (byte '-' :: rest) = none := by
    rw [bracketed?, if_neg (by simp [show byte '-' ≠ byte '[' from by decide])]
  have hdigits : ¬ Text.isDigits (byte '-' :: rest) := by
    simp [Text.isDigits, show Text.isDigit (byte '-') = false from by decide]
  have hquoted : unquoted? (byte '-' :: rest) = none := by
    have hfirst : ¬ (byte '-' = byte '"' ∨ byte '-' = byte '\'') := by decide
    rw [unquoted?, if_neg fun h => hfirst h.1]
  rw [resolve_of_plain hbracket, resolvePlain, if_neg (by decide), if_neg hdigits, hquoted]
  dsimp only
  cases labels.find? (byte '-' :: rest) <;> rfl

namespace Value

open LineContent Stateful

variable {printable : Char → Bool}

/-- The line that is to push the value. -/
def pushLine (printable : Char → Bool) (v : Value) : Text :=
  Opcode.push.name ++ byte ':' :: v.quoteWith printable

/-- The operand token that the quoted value becomes. -/
def token (printable : Char → Bool) (v : Value) : Text := unescapeWord (v.quoteWith printable)

/-- A value that takes no more than one word of a line: a text has no colon and no comment. -/
def OneWord : Value → Prop
  | .integer _ => True
  | .text t => byte ':' ∉ t ∧ ¬ slashes <:+: t

/-- An integer without a sign, or a text of which every unit is read back from its escaped form. -/
def isPlain (printable : Char → Bool) : Value → Bool
  | .integer n => 0 ≤ n
  | .text t => (Text.units t).all (Unit.isPlain printable)

/-- What the token of a quoted value stands for. -/
def readBack (printable : Char → Bool) (labels : NameTable) : Value → Except Fault Value
  | .integer n =>
      if 0 ≤ n then .ok (.integer n)
      else match labels.find? (Text.ofInt64 n) with
        | some index => .ok (.integer index)
        | none => .error (.unknownLabel (Text.ofInt64 n))
  | .text t => .ok (.text (unescapeWord (Text.escaped printable (Text.units t))))

theorem quoteWith_text (t : Text) :
    (text t).quoteWith printable =
      byte '"' :: (Text.escaped printable (Text.units t) ++ [byte '"']) := rfl

/-- A byte that is no digit and no minus sign is not in an integer. -/
theorem not_mem_quoteWith_integer {n : Int64} {b : UInt8} (hsign : b ≠ byte '-')
    (hdigit : ¬ Text.isDigit b) : b ∉ (integer n).quoteWith printable := fun h =>
  (Text.mem_signedDecimal h).elim hsign hdigit

theorem token_integer (n : Int64) : (integer n).token printable = Text.ofInt64 n := by
  have hslash : byte '\\' ∉ (integer n).quoteWith printable :=
    not_mem_quoteWith_integer (by decide) (by decide)
  have htoken := unescapeWord_append_of_not_mem hslash []
  rw [List.append_nil] at htoken
  rw [token, htoken]
  exact List.append_nil _

theorem token_text (t : Text) : (text t).token printable =
    byte '"' :: (unescapeWord (Text.escaped printable (Text.units t)) ++ [byte '"']) := by
  rw [token, quoteWith_text, unescapeWord_cons_of_ne (by decide), unescapeWord_concat (by decide)]

/-- No value is read as an expression. -/
theorem expression?_token (v : Value) : Scanned.expression? (v.token printable) = none := by
  have hfirst : ∃ first rest, v.token printable = first :: rest ∧ first ≠ byte '$' := by
    cases v with
    | integer n =>
        obtain ⟨b, rest, hcons, hb⟩ := Text.exists_signedDecimal_eq_cons n.toInt
        refine ⟨b, rest, (token_integer n).trans hcons, ?_⟩
        rintro rfl
        exact absurd hb (by decide)
    | text t => exact ⟨_, _, token_text t, by decide⟩
  obtain ⟨first, rest, hcons, hne⟩ := hfirst
  rw [hcons]
  cases rest with
  | nil => rfl
  | cons second rest => exact if_neg fun h => hne h.1

theorem trimmed_quoteWith (v : Value) : Trimmed (v.quoteWith printable) := by
  cases v with
  | text t => exact Text.trimmed_between (by decide) (by decide) (by decide) (by decide) _
  | integer n =>
      have hdigits : Trimmed (Text.decimal n.toInt.natAbs) := Text.trimmed_of_word fun b hb => by
        rw [Text.isWordPart, Text.isDigit_of_mem_decimal hb, Bool.or_true]
      rw [quoteWith, Text.ofInt64, Text.signedDecimal]
      split
      · exact hdigits.cons (by decide) (by decide)
      · exact hdigits

theorem isSign_colon : Text.IsSign (byte ':') := ⟨by decide, by decide, by decide, by decide⟩

theorem isSign_slash : Text.IsSign (byte '/') := ⟨by decide, by decide, by decide, by decide⟩

theorem isSign_newline : Text.IsSign newline := ⟨by decide, by decide, by decide, by decide⟩

theorem OneWord.colon_not_mem_quoteWith {v : Value} (h : v.OneWord) :
    byte ':' ∉ v.quoteWith printable := by
  cases v with
  | integer n => exact not_mem_quoteWith_integer (by decide) (by decide)
  | text t => exact fun hmem => h.1 (isSign_colon.mem_of_mem_quote hmem)

theorem OneWord.not_slashes_infix_quoteWith {v : Value} (h : v.OneWord) :
    ¬ slashes <:+: v.quoteWith printable := by
  cases v with
  | integer n =>
      have hslash : byte '/' ∉ (integer n).quoteWith printable :=
        not_mem_quoteWith_integer (by decide) (by decide)
      exact fun hs => hslash (hs.subset (by simp [slashes]))
  | text t => exact fun hs => h.2 (isSign_slash.pair_infix_of_quote isSign_slash hs)

/-- A line break that is not printable is escaped. -/
theorem newline_not_mem_quoteWith (hbreak : printable '\n' = false) (v : Value) :
    newline ∉ v.quoteWith printable := by
  cases v with
  | integer n => exact not_mem_quoteWith_integer (by decide) (by decide)
  | text t =>
      rw [quoteWith_text, List.mem_cons, List.mem_append, List.mem_singleton, Text.escaped,
        List.mem_flatMap]
      rintro (hmark | ⟨u, hu, hmem⟩ | hmark)
      · exact absurd hmark (by decide)
      · obtain ⟨hbytes, hescape⟩ := isSign_newline.escapeUnit_eq hmem
        rw [Text.eq_of_bytes_head (Text.proper_of_mem_units hu) (by decide) hbytes,
          Text.escapeUnit_newline hbreak] at hescape
        exact absurd hescape (by decide)
      · exact absurd hmark (by decide)

theorem trimmed_pushLine (v : Value) : Trimmed (v.pushLine printable) := by
  have hcolon : Trimmed ([] ++ byte ':' :: v.quoteWith printable) :=
    (trimmed_quoteWith v).cons (by decide) (by decide)
  exact hcolon.exchange (by decide) (Opcode.name_ne_nil _) (Opcode.trimmed_name _)

/-- The line holds one instruction with one operand word. -/
theorem OneWord.ofLine_pushLine {v : Value} (h : v.OneWord) :
    ofLine (v.pushLine printable) = .ok (.instruction .push [v.token printable]) := by
  have hslashes : ¬ slashes <:+: v.pushLine printable :=
    Text.not_infix_append_cons (Opcode.not_mem_name (by decide)) (by decide)
      h.not_slashes_infix_quoteWith
  have hwords : Text.splitOn (byte ':') (v.pushLine printable) =
      [Opcode.push.name, v.quoteWith printable] := by
    rw [pushLine, Text.splitOn_append_cons (Opcode.not_mem_name (by decide)),
      Text.splitOn_of_not_mem h.colon_not_mem_quoteWith]
  obtain ⟨rest, hline⟩ : ∃ rest, v.pushLine printable = byte 'p' :: rest := ⟨_, rfl⟩
  rw [ofLine, strip_eq_self (trimmed_pushLine v) hslashes, hline]
  dsimp only
  rw [if_neg (by decide), ← hline, hwords, ofWords, (Opcode.trimmed_name _).trim_eq,
    Opcode.parse_name]
  rfl

theorem build_pushLine (v : Value) (evaluate : Text → Evaluation × Text) (line : SourceLine) :
    (Scanned.build evaluate ⟨line, .push, [v.token printable]⟩).1 =
      .ok (.push (v.token printable)) := by
  refine Scanned.build_eq_ok.2 ⟨[v.token printable], ?_, rfl⟩
  refine Scanned.evaluateWords_of_plain (fun word hword => ?_) evaluate
  rw [List.mem_singleton.1 hword]
  exact expression?_token v

theorem resolve_token (v : Value) (labels : NameTable) (m : Memory) :
    Operand.resolve labels (v.token printable) m = match v.readBack printable labels with
      | .ok w => .ok (.constant w) m
      | .error fault => .error fault m := by
  cases v with
  | text t =>
      rw [token_text]
      exact Operand.resolve_quoted _ _ _
  | integer n =>
      rw [token_integer, readBack]
      by_cases hn : 0 ≤ n
      · have hint : 0 ≤ n.toInt := by simpa using Int64.le_iff_toInt_le.1 hn
        rw [if_pos hn, Operand.resolve_ofInt64 hint]
      · have hint : n.toInt < 0 := by simpa using Int64.le_iff_toInt_le.not.1 hn
        have hcons : Text.ofInt64 n = byte '-' :: Text.decimal n.toInt.natAbs := by
          rw [Text.ofInt64, Text.signedDecimal, if_pos hint]
        rw [if_neg hn, hcons, Operand.resolve_of_minus]
        cases labels.find? (byte '-' :: Text.decimal n.toInt.natAbs) <;> rfl

/-- A value comes back from its token exactly if it is plain, or if a label happens to be called
like a negative integer and to stand for it. -/
theorem readBack_eq_ok_self {labels : NameTable} {v : Value} :
    v.readBack printable labels = .ok v ↔
      v.isPlain printable ∨ ∃ n, v = .integer n ∧ labels.find? (v.token printable) = some n := by
  cases v with
  | text t =>
      have hproper := fun u (hu : u ∈ Text.units t) => Text.proper_of_mem_units hu
      simp only [readBack, Except.ok.injEq, text.injEq, isPlain, List.all_eq_true, reduceCtorEq,
        false_and, exists_false, or_false]
      rw [← Text.unescapeWord_escaped_eq_iff hproper, Text.ofUnits_units]
  | integer n =>
      simp only [readBack, isPlain, decide_eq_true_eq, integer.injEq, token_integer]
      by_cases hn : 0 ≤ n
      · simp [hn]
      · cases labels.find? (Text.ofInt64 n) with
        | none => simp [hn]
        | some index => simp [hn, eq_comm]

end Value

namespace Machine

open Stateful

variable {printable : Char → Bool}

/-- Executing the instruction pushes what the token stands for. -/
theorem perform_push_token {m : Machine} {top : Int64}
    (htop : m.memory.registers.sp = .integer top) (v : Value) :
    perform (.push (v.token printable)) m = match v.readBack printable m.labels with
      | .ok w => .ok ⟨⟩ (m.withMemory (m.memory.pushed top w))
      | .error fault => .error fault m := by
  have htop' : m.memory.registers.integer .sp = .ok top := RegisterFile.integer_eq_ok.2 htop
  have hresolve : resolve (v.token printable) m = match v.readBack printable m.labels with
      | .ok w => .ok (.constant w) m
      | .error fault => .error fault m := by
    rw [resolve, get_bind_apply, onMemory_apply, Value.resolve_token]
    cases v.readBack printable m.labels <;> rfl
  cases hread : v.readBack printable m.labels with
  | error fault =>
      rw [hread] at hresolve
      exact bind_of_error hresolve _
  | ok w =>
      rw [hread] at hresolve
      rw [perform, bind_of_ok hresolve, valueOf_bind_apply, onMemory_apply, Memory.push_apply,
        htop']
      rfl

/-- What was pushed can be seen from the memory. -/
theorem pushed_inj {m : Memory} {top : Int64} {v w : Value} (h : m.pushed top v = m.pushed top w) :
    v = w := by
  have hcells : m.cells.push v = m.cells.push w := congrArg Memory.cells h
  exact Array.push_inj_right.1 hcells

end Machine

namespace Value

variable {printable : Char → Bool}

def pushText (printable : Char → Bool) (v : Value) : Text :=
  Text.ofLines [ofString "!_start", v.pushLine printable]

def pushProgram (printable : Char → Bool) (v : Value) : Program where
  instructions := #[.push (v.token printable)]
  lines := #[⟨2, v.pushLine printable⟩]
  labels := .ofPairs [(ofString "_start", 0)]
  entry := 0

theorem newline_not_mem_pushLine (hbreak : printable '\n' = false) (v : Value) :
    newline ∉ v.pushLine printable := by
  rw [pushLine, List.mem_append, List.mem_cons, not_or, not_or]
  exact ⟨Opcode.not_mem_name (by decide), by decide, newline_not_mem_quoteWith hbreak v⟩

/-- The program is accepted, if the line is not too long. -/
theorem OneWord.parse_pushText {v : Value} (h : v.OneWord) (hbreak : printable '\n' = false)
    (hlength : (v.pushLine printable).length < Source.lineLimit) (evaluate : Evaluator) :
    (Assembler.initial.parse evaluate (Reader.ofText (v.pushText printable))).1 =
      .ok (v.pushProgram printable) := by
  have hlabel : LineContent.ofLine (ofString "!_start") = .ok (.label (ofString "_start")) := by
    decide +kernel
  have hlines : Source.ofReader (Reader.ofText (v.pushText printable)) =
      ⟨[ofString "!_start", v.pushLine printable], none⟩ := by
    refine Source.ofReader_ofLines (fun l hl => ?_) fun l hl => ?_
    · obtain rfl | hl := List.mem_cons.1 hl
      · exact ⟨by decide, by decide⟩
      · rw [List.mem_singleton.1 hl]
        exact ⟨newline_not_mem_pushLine hbreak v, hlength⟩
    · obtain rfl | hl := List.mem_cons.1 hl
      · have hname : Trimmed (ofString "_start") := Text.trimmed_of_word (by decide +kernel)
        exact hname.cons (by decide) (by decide)
      · rw [List.mem_singleton.1 hl]
        exact trimmed_pushLine v
  have hadd : Draft.empty.addLines 0 [ofString "!_start", v.pushLine printable] =
      (⟨.ofPairs [(ofString "_start", 0)],
        #[⟨⟨2, v.pushLine printable⟩, .push, [v.token printable]⟩]⟩, 2, none) := by
    simp only [Draft.addLines, Draft.addLine, hlabel, h.ofLine_pushLine]
    rfl
  have hbuild (meaning : Text → Evaluation × Text) :
      (Scanned.buildAll meaning #[]
          [⟨⟨2, v.pushLine printable⟩, .push, [v.token printable]⟩]).1 =
        .ok #[.push (v.token printable)] :=
    Scanned.buildAll_eq_ok.2 ⟨[.push (v.token printable)], rfl, by
      rw [List.map_singleton, build_pushLine, List.map_singleton]⟩
  have hentry : (NameTable.ofPairs [(ofString "_start", 0)]).find? Assembler.initial.entry =
      some 0 := by
    decide
  rw [Assembler.parse_eq_ok, hlines, hadd]
  exact ⟨rfl, rfl, Assembler.finish_eq_ok.2
    ⟨0, #[.push (v.token printable)], hentry, hbuild _, by simp [pushProgram]⟩⟩

end Value

namespace Assembler

open Machine (perform)

/-- Whichever characters are printable, in every accepted text the line with a quoted value is an
instruction that pushes its token, and there is such a text if line breaks are escaped and the line
is not too long. In every machine with an integer top pointer the instruction pushes that value and
nothing else exactly if the value is plain, or else a negative integer that is the name of a label
for itself. -/
theorem push_quoted (printable : Char → Bool) (v : Value) (h : v.OneWord) :
    v.quoteWith Text.isPrintable = v.quote ∧
    (∀ (evaluate : Evaluator) (asm : Assembler) (reader : Reader) (program : Program) (i : Nat),
      (asm.parse evaluate reader).1 = .ok program →
      (Source.ofReader reader).lines[i]? = some (v.pushLine printable) →
      ∃ n : Nat, program.lines[n]? = some ⟨i + 1, v.pushLine printable⟩ ∧
        program.instructions[n]? = some (.push (v.token printable))) ∧
    (printable '\n' = false → (v.pushLine printable).length < Source.lineLimit →
      ∀ evaluate : Evaluator,
        (initial.parse evaluate (Reader.ofText (v.pushText printable))).1 =
          .ok (v.pushProgram printable)) ∧
    ∀ (m : Machine) (top : Int64), m.memory.registers.sp = .integer top →
      (perform (.push (v.token printable)) m = .ok ⟨⟩ (m.withMemory (m.memory.pushed top v)) ↔
        v.isPlain printable ∨
          ∃ n, v = .integer n ∧ m.labels.find? (v.token printable) = some n) := by
  refine ⟨rfl, fun evaluate asm reader program i hparse hline => ?_, h.parse_pushText,
    fun m top htop => ?_⟩
  · obtain ⟨n, inst, hn, hinst, hbuild⟩ := built_of_parse hparse hline h.ofLine_pushLine
    rw [Value.build_pushLine, Except.ok.injEq] at hbuild
    exact ⟨n, hn, by rw [hinst, hbuild]⟩
  · rw [Machine.perform_push_token htop, ← Value.readBack_eq_ok_self]
    cases hread : v.readBack printable m.labels with
    | error fault => simp
    | ok w =>
        constructor
        · intro hpush
          have hmemory := congrArg Machine.memory (EStateM.Result.ok.inj hpush).2
          rw [Machine.pushed_inj hmemory]
        · intro hsame
          rw [Except.ok.inj hsame]

theorem push_quoted_line_break :
    (initial.parse smallEvaluator
        (Reader.ofText (Value.pushText Text.isPrintable (.text (ofString "a\nb"))))).1 =
        .ok (Value.pushProgram Text.isPrintable (.text (ofString "a\nb"))) ∧
      perform (.push (Value.token Text.isPrintable (.text (ofString "a\nb"))))
          (Machine.initial .empty 5) =
        .ok ⟨⟩ ((Machine.initial .empty 5).withMemory
          ((Machine.initial .empty 5).memory.pushed 4 (.text (ofString "a\nb")))) := by
  obtain ⟨-, -, hparse, hpush⟩ :=
    push_quoted Text.isPrintable (.text (ofString "a\nb")) ⟨by decide, by decide⟩
  exact ⟨hparse (by decide +kernel) (by decide +kernel) smallEvaluator,
    (hpush _ 4 rfl).2 (.inl (by decide +kernel))⟩

/-- A quotation mark is pushed with the backslash in front of it, and a negative integer not at
all. -/
theorem push_quoted_mark :
    (Value.text (ofString "a\"b")).OneWord ∧ Value.OneWord (.integer (-5)) ∧
      (initial.parse smallEvaluator
          (Reader.ofText (Value.pushText Text.isPrintable (.text (ofString "a\"b"))))).1 =
        .ok (Value.pushProgram Text.isPrintable (.text (ofString "a\"b"))) ∧
      (initial.parse smallEvaluator
          (Reader.ofText (Value.pushText Text.isPrintable (.integer (-5))))).1 =
        .ok (Value.pushProgram Text.isPrintable (.integer (-5))) ∧
      perform (.push (Value.token Text.isPrintable (.text (ofString "a\"b"))))
          (Machine.initial .empty 5) =
        .ok ⟨⟩ ((Machine.initial .empty 5).withMemory
          ((Machine.initial .empty 5).memory.pushed 4 (.text (ofString "a\\\"b")))) ∧
      perform (.push (Value.token Text.isPrintable (.integer (-5)))) (Machine.initial .empty 5) =
        .error (.unknownLabel (ofString "-5")) (Machine.initial .empty 5) := by
  have htext : (Value.text (ofString "a\"b")).OneWord := ⟨by decide, by decide⟩
  have hinteger : Value.OneWord (.integer (-5)) := trivial
  have hbreak : Text.isPrintable '\n' = false := by decide +kernel
  have hmark : Value.readBack Text.isPrintable .empty (.text (ofString "a\"b")) =
      .ok (.text (ofString "a\\\"b")) := by decide +kernel
  have hminus : Value.readBack Text.isPrintable .empty (.integer (-5)) =
      .error (.unknownLabel (ofString "-5")) := by
    decide +kernel
  have htop : (Machine.initial .empty 5).memory.registers.sp = .integer 4 := rfl
  refine ⟨htext, hinteger, htext.parse_pushText hbreak (by decide +kernel) smallEvaluator,
    hinteger.parse_pushText hbreak (by decide +kernel) smallEvaluator, ?_, ?_⟩
  · rw [Machine.perform_push_token htop]
    simp only [Machine.initial, hmark]
  · rw [Machine.perform_push_token htop]
    simp only [Machine.initial, hminus]

end Assembler

end RegisterMachine

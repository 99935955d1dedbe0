import RegisterMachine.Expression.Evaluator
import RegisterMachine.Proofs.Text.Trimming
import RegisterMachine.Proofs.Text.Words

/-!
# Names as expressions

An expression that is the name of a constant has the value of the constant, unless the name is a
word of the grammar, a reserved word or the variable that the value is assigned to.
-/
namespace RegisterMachine.Expression

open Text (byte ofString isWordPart isWordStart decode?_ascii)

theorem toNat_lt_of_isWordPart {b : UInt8} (h : isWordPart b) : b.toNat < 0x80 :=
  (Text.not_isBlank_of_isWordPart h).1

theorem toNat_ascii {b : UInt8} (h : b.toNat < 0x80) : (Char.ofNat b.toNat).toNat = b.toNat :=
  Text.toNat_ofNat (.inl (by omega))

theorem byte_ascii {b : UInt8} (h : b.toNat < 0x80) : byte (Char.ofNat b.toNat) = b := by
  rw [byte, toNat_ascii h]
  exact UInt8.ofNat_toNat

theorem isNamePart_ascii {b : UInt8} (h : b.toNat < 0x80) :
    isNamePart (Char.ofNat b.toNat) = isWordPart b := by
  rw [isNamePart, toNat_ascii h, if_pos h, byte_ascii h]

theorem isNameStart_ascii {b : UInt8} (h : b.toNat < 0x80) :
    isNameStart (Char.ofNat b.toNat) = isWordStart b := by
  rw [isNameStart, toNat_ascii h, if_pos h, byte_ascii h]

/-- A byte behind which a name has ended, and no text in quotes begins. -/
structure EndsName (b : UInt8) : Prop where
  ascii : b.toNat < 0x80
  part : isWordPart b = false
  double : b ≠ byte '"'
  single : b ≠ byte '\''

variable {word name rest : Text} {b stop : UInt8} {fuel depth : Nat} {fresh : Bool}
  {done : List Token}

/-- A name is read up to the byte that ends it. -/
theorem nameLoop_word (hword : ∀ b ∈ word, isWordPart b) (hstop : EndsName stop)
    (hfuel : word.length < fuel) (done : Text) :
    nameLoop fuel done (word ++ stop :: rest) = (done.reverse ++ word, stop :: rest) := by
  induction word generalizing fuel done with
  | nil =>
      obtain ⟨fuel, rfl⟩ : ∃ k, fuel = k + 1 := ⟨fuel - 1, by simp at hfuel; omega⟩
      rw [List.nil_append, nameLoop, decode?_ascii hstop.ascii]
      simp [isNamePart_ascii hstop.ascii, hstop.part]
  | cons b word ih =>
      have hb : isWordPart b := hword b (by simp)
      have hascii := toNat_lt_of_isWordPart hb
      rw [List.length_cons] at hfuel
      obtain ⟨fuel, rfl⟩ : ∃ k, fuel = k + 1 := ⟨fuel - 1, by omega⟩
      rw [List.cons_append, nameLoop, decode?_ascii hascii]
      simp only [isNamePart_ascii hascii, hb, if_true, Text.encode_one hascii]
      rw [ih (fun b' hb' => hword b' (List.mem_cons_of_mem _ hb')) (by omega)]
      simp

/-- A name is not taken for the beginning of a text in quotes, though it may begin with `r` or `b`. -/
theorem stringStart?_name (hname : name.isIdentifier) (hstop : EndsName stop) :
    stringStart? (name ++ stop :: rest) = none := by
  have hquote {b : UInt8} (hb : isWordPart b) : b ≠ byte '"' ∧ b ≠ byte '\'' :=
    ⟨Text.ne_of_isWordPart hb (by decide), Text.ne_of_isWordPart hb (by decide)⟩
  have hstop' : stop ≠ byte '"' ∧ stop ≠ byte '\'' := ⟨hstop.double, hstop.single⟩
  obtain ⟨first, tail, rfl, hfirst, htail⟩ := Text.exists_of_isIdentifier hname
  have hfirst' := hquote (Text.isWordPart_of_isWordStart hfirst)
  rcases tail with _ | ⟨second, _ | ⟨third, tail⟩⟩
  · have hb : stop ≠ byte 'b' := by
      rintro rfl
      exact absurd hstop.part (by decide)
    simp [stringStart?, hfirst', hstop', hb]
  · have hsecond := hquote (htail second (by simp))
    simp [stringStart?, hfirst', hsecond, hstop']
  · have hsecond := hquote (htail second (by simp))
    have hthird := hquote (htail third (by simp))
    simp [stringStart?, hfirst', hsecond, hthird]

theorem startsNumber_of_isWordStart (h : isWordStart b) (t : Text) : startsNumber (b :: t) = false := by
  have hdigit : Text.isDigit b = false := by
    simpa using Text.not_isDigit_of_isWordStart h
  have hpoint : b ≠ byte '.' :=
    Text.ne_of_isWordPart (Text.isWordPart_of_isWordStart h) (by decide)
  cases t <;> simp [startsNumber, hdigit, hpoint]

/-- A name is one token. -/
theorem token?_name (hname : name.isIdentifier) (hstop : EndsName stop) :
    token? (name ++ stop :: rest) = (nameToken? name).map fun t => (t, stop :: rest) := by
  have hquotes : stringStart? (name ++ stop :: rest) = none := stringStart?_name hname hstop
  have hlength : name.length < (name ++ stop :: rest).length := by
    rw [List.length_append, List.length_cons]
    omega
  have hloop : nameLoop (name ++ stop :: rest).length [] (name ++ stop :: rest) =
      (name, stop :: rest) :=
    nameLoop_word (fun b hb => Text.isWordPart_of_mem hname hb) hstop hlength []
  obtain ⟨first, tail, rfl, hfirst, htail⟩ := Text.exists_of_isIdentifier hname
  have hascii := toNat_lt_of_isWordPart (Text.isWordPart_of_isWordStart hfirst)
  have hnumber : startsNumber (first :: tail ++ stop :: rest) = false :=
    startsNumber_of_isWordStart hfirst _
  have hdecode : Text.decode? (first :: tail ++ stop :: rest) =
      some (Char.ofNat first.toNat, tail ++ stop :: rest) := decode?_ascii hascii _
  rw [token?, hquotes]
  simp only [hnumber, hdecode, hloop, isNameStart_ascii hascii, hfirst, if_true]
  rfl

/-- A byte at which a token begins. -/
structure BeginsToken (b : UInt8) : Prop where
  indent : isIndent b = false
  comment : b ≠ byte '#'
  newline : b ≠ Text.newline
  zero : b ≠ 0
  continuation : b ≠ byte '\\'

theorem BeginsToken.of_isWordPart (h : isWordPart b) : BeginsToken b where
  indent := by
    have hspace : b ≠ 32 := Text.ne_of_isWordPart h (by decide)
    have htab : b ≠ 9 := Text.ne_of_isWordPart h (by decide)
    simp [isIndent, hspace, htab]
  comment := Text.ne_of_isWordPart h (by decide)
  newline := Text.ne_of_isWordPart h (by decide)
  zero := Text.ne_of_isWordPart h (by decide)
  continuation := Text.ne_of_isWordPart h (by decide)

/-- How a token changes the number of open brackets. -/
def Token.depth? (depth : Nat) : Token → Option Nat
  | .sign s => s.depth? depth
  | _ => some depth

theorem tokenLoop_of_token (hb : BeginsToken b) {token : Token} {behind : Text}
    (htoken : token? (b :: rest) = some (token, behind)) (hdepth : token.depth? depth = some depth) :
    tokenLoop (fuel + 1) depth fresh done (b :: rest) =
      tokenLoop fuel depth false (token :: done) behind := by
  conv => lhs; unfold tokenLoop
  simp only [hb.indent, hb.comment, hb.newline, hb.zero, hb.continuation, htoken]
  cases token with
  | sign s =>
      rw [Token.depth?] at hdepth
      simp [hdepth]
  | _ => simp

theorem tokenLoop_of_no_token (hb : BeginsToken b) (htoken : token? (b :: rest) = none) :
    tokenLoop (fuel + 1) depth fresh done (b :: rest) = none := by
  conv => lhs; unfold tokenLoop
  simp [hb.indent, hb.comment, hb.newline, hb.zero, hb.continuation, htoken]

/-- A name or a word is no bracket. -/
theorem depth?_of_nameToken? {token : Token} (h : nameToken? name = some token) (depth : Nat) :
    token.depth? depth = some depth := by
  rw [nameToken?] at h
  split at h
  · cases h
    rfl
  · split at h <;> cases h
    rfl

theorem tokenLoop_name (hname : name.isIdentifier) (hstop : EndsName stop) :
    tokenLoop (fuel + 1) depth fresh done (name ++ stop :: rest) =
      (nameToken? name).bind fun t => tokenLoop fuel depth false (t :: done) (stop :: rest) := by
  have htoken : token? (name ++ stop :: rest) =
      (nameToken? name).map fun t => (t, stop :: rest) := token?_name hname hstop
  obtain ⟨first, tail, rfl, hfirst, -⟩ := Text.exists_of_isIdentifier hname
  have hbegins := BeginsToken.of_isWordPart (Text.isWordPart_of_isWordStart hfirst)
  rw [List.cons_append] at htoken ⊢
  cases ht : nameToken? (first :: tail) with
  | none =>
      rw [ht] at htoken
      exact tokenLoop_of_no_token hbegins htoken
  | some t =>
      rw [ht] at htoken
      exact tokenLoop_of_token hbegins htoken (depth?_of_nameToken? ht depth)

/-- The sign between the variable of the value and a name. -/
theorem token?_assign (hname : name.isIdentifier) :
    token? (byte '=' :: (name ++ rest)) = some (.sign .assign, name ++ rest) := by
  obtain ⟨first, tail, rfl, hfirst, -⟩ := Text.exists_of_isIdentifier hname
  have hpart := Text.isWordPart_of_isWordStart hfirst
  have hdouble : first ≠ byte '"' := Text.ne_of_isWordPart hpart (by decide)
  have hsingle : first ≠ byte '\'' := Text.ne_of_isWordPart hpart (by decide)
  have hequal : first ≠ 61 := Text.ne_of_isWordPart hpart (by decide)
  have hquotes : stringStart? (byte '=' :: (first :: tail ++ rest)) = none := by
    have hself : byte '=' ≠ byte '"' ∧ byte '=' ≠ byte '\'' ∧ byte '=' ≠ byte 'r' := by decide
    simp [stringStart?, hdouble, hsingle, hself]
  have hnumber : startsNumber (byte '=' :: (first :: tail ++ rest)) = false := by
    have hself : Text.isDigit (byte '=') = false ∧ byte '=' ≠ byte '.' := by decide
    simp [startsNumber, hself]
  have hstart : isNameStart (Char.ofNat (byte '=').toNat) = false := by
    rw [isNameStart_ascii (by decide)]
    decide
  have hsign : (signs.find? fun entry =>
      entry.1.isPrefixOf (byte '=' :: (first :: tail ++ rest))) = some (ofString "=", .assign) := by
    have hdouble : (61 == first) = false := by simp [Ne.symm hequal]
    simp [signs, ofString, List.find?, byte, String.utf8EncodeChar, List.isPrefixOf, hdouble]
  rw [token?, hquotes]
  simp only [hnumber, decode?_ascii (b := byte '=') (by decide), hstart]
  exact congrArg (Option.map _) hsign

theorem replacePair_of_not_mem {a c : UInt8} {new t : Text} (h : a ∉ t) :
    Text.replacePair a c new t = t := by
  induction t with
  | nil => rfl
  | cons x t ih =>
      rw [List.mem_cons, not_or] at h
      cases t with
      | nil => rfl
      | cons y t =>
          have hpair : ¬ (x = a ∧ y = c) := fun hxy => h.1 hxy.1.symm
          rw [Text.replacePair_cons_of_not hpair, ih h.2]

theorem unifyBreaks_of_not_mem {t : Text} (h : Text.carriageReturn ∉ t) : unifyBreaks t = t := by
  rw [unifyBreaks, replacePair_of_not_mem h]
  have hsame : ∀ b ∈ t, (if b = Text.carriageReturn then Text.newline else b) = b := by
    intro b hb
    rw [if_neg]
    rintro rfl
    exact h hb
  exact (List.map_congr_left hsame).trans (List.map_id t)

/-- The text that is run for an expression. -/
def assignment (t : Text) : Text := resultName ++ ofString "=" ++ t ++ [Text.newline]

theorem tokens?_assignment (hname : name.isIdentifier) :
    tokens? (assignment name) =
      (nameToken? name).map fun t => [.name resultName, .sign .assign, t, .newline] := by
  have htext : assignment name = resultName ++ byte '=' :: (name ++ [Text.newline]) := by
    simp [assignment, ofString, byte, String.utf8EncodeChar]
  have hbreak : Text.carriageReturn ∉ assignment name := by
    have hplain : Text.carriageReturn ∉ name := fun hmem =>
      Text.ne_of_isWordPart (Text.isWordPart_of_mem hname hmem) (by decide) rfl
    have hvariable : Text.carriageReturn ∉ resultName := by decide
    have hself : Text.carriageReturn ≠ byte '=' ∧ Text.carriageReturn ≠ Text.newline := by decide
    rw [htext]
    simp [hplain, hvariable, hself]
  have hequal : EndsName (byte '=') := ⟨by decide, by decide, by decide, by decide⟩
  have hnewline : EndsName Text.newline := ⟨by decide, by decide, by decide, by decide⟩
  have hresult : resultName.isIdentifier := by decide
  have hbegins : BeginsToken (byte '=') := ⟨by decide, by decide, by decide, by decide, by decide⟩
  have hlength : (assignment name).length = name.length + 4 := by
    rw [htext]
    simp [resultName, ofString, String.utf8EncodeChar]
  have hword : nameToken? resultName = some (.name resultName) := rfl
  rw [tokens?, unifyBreaks_of_not_mem hbreak]
  simp only [hlength]
  rw [htext, tokenLoop_name hresult hequal, hword, Option.bind_some,
    tokenLoop_of_token hbegins (token?_assign hname) rfl, tokenLoop_name hname hnewline]
  cases nameToken? name with
  | none => rfl
  | some t => rfl

/-- A name that stands for itself: no word of the grammar, not reserved, and not the variable to
which the value is assigned. -/
structure IsFree (name : Text) : Prop where
  word : name ∉ words.map (·.1)
  reserved : name ∉ reservedWords
  result : name ≠ resultName

theorem find?_words_eq_none (h : name ∉ words.map (·.1)) :
    words.find? (fun entry => entry.1 == name) = none := by
  rw [List.find?_eq_none]
  intro entry hentry hname
  exact h (List.mem_map.2 ⟨entry, hentry, beq_iff_eq.1 hname⟩)

theorem nameToken?_of_free (h : IsFree name) : nameToken? name = some (.name name) := by
  have hreserved : ¬ reservedWords.contains name := by simpa using h.reserved
  rw [nameToken?, find?_words_eq_none h.word]
  exact if_neg hreserved

theorem nameToken?_of_word (h : name ∈ words.map (·.1)) : ∃ w, nameToken? name = some (.word w) := by
  have hsome : (words.find? fun entry => entry.1 == name).isSome := by
    obtain ⟨entry, hentry, hname⟩ := List.mem_map.1 h
    rw [List.find?_isSome]
    exact ⟨entry, hentry, beq_iff_eq.2 hname⟩
  obtain ⟨⟨spelling, w⟩, hfind⟩ := Option.isSome_iff_exists.1 hsome
  exact ⟨w, by rw [nameToken?, hfind]⟩

theorem nameToken?_of_reserved (h : name ∈ reservedWords) (hword : name ∉ words.map (·.1)) :
    nameToken? name = none := by
  have hreserved : reservedWords.contains name := by simpa using h
  rw [nameToken?, find?_words_eq_none hword]
  exact if_pos hreserved

theorem parse?_of_name (hname : name.isIdentifier) (htoken : nameToken? name = some (.name name)) :
    parse? (assignment name) = some [.assign (.name resultName) (.name name)] := by
  rw [parse?, tokens?_assignment hname, htoken]
  rfl

theorem parse?_of_word (hname : name.isIdentifier)
    (h : name ∈ words.map (·.1) ∨ name ∈ reservedWords) : parse? (assignment name) = none := by
  rw [parse?, tokens?_assignment hname]
  by_cases hword : name ∈ words.map (·.1)
  · obtain ⟨w, hw⟩ := nameToken?_of_word hword
    rw [hw]
    cases w <;> rfl
  · rw [nameToken?_of_reserved (h.resolve_left hword) hword]
    rfl

variable {constants : NameTable} {value : Int64}

/-- The names in view of the assignment: only the variable of the value is bound. -/
def assignmentScope (constants : NameTable) : Scope := ⟨[], ⟨[resultName], []⟩, constants⟩

theorem scope?_of_name (hfind : constants.find? name = some value) (fuel : Nat) :
    scope? (fuel + 1) constants [.assign (.name resultName) (.name name)] =
      some (assignmentScope constants).outer := by
  have hknown : constants.contains name := by
    rw [NameTable.contains, hfind]
    rfl
  simp [scope?, Bindings.ofStatements?, targetNames?, Bindings.assign?, Statement.expressions,
    targetParts, isScoped, hknown, assignmentScope]

theorem lookUp_of_ne (hne : name ≠ resultName) (hfind : constants.find? name = some value) :
    (assignmentScope constants).lookUp name = pure (.int value.toInt) := by
  have hmeaning : (assignmentScope constants).meaning? name = none := by
    simp [Scope.meaning?, Scope.innerVariable?, assignmentScope, hne]
  have hconstants : (assignmentScope constants).constants = constants := rfl
  rw [Scope.lookUp, hmeaning, hconstants, hfind]

theorem run_of_ne (hne : name ≠ resultName) (hfind : constants.find? name = some value)
    (fuel : Nat) :
    (runAll (fuel + 1) (assignmentScope constants)
      [.assign (.name resultName) (.name name)]).run Store.empty =
        (some ⟨⟩, Store.empty.assign (.outer resultName) (.int value.toInt)) := by
  have htarget : (assignmentScope constants).target resultName = .outer resultName := rfl
  simp only [runAll, Statement.run, eval, lookUp_of_ne hne hfind, assign, htarget, pure_bind]
  rfl

/-- The variable of the value has no value before it is assigned. -/
theorem run_of_result (constants : NameTable) (fuel : Nat) :
    (runAll (fuel + 1) (assignmentScope constants)
      [.assign (.name resultName) (.name resultName)]).run Store.empty = (none, Store.empty) := by
  simp only [runAll, Statement.run, eval]
  rfl

theorem evaluate_of_parse_eq_none (hparse : parse? (assignment name) = none) :
    evaluate constants name = (.failed, []) := by
  have htext : resultName ++ ofString "=" ++ name ++ [Text.newline] = assignment name := rfl
  simp only [evaluate, htext, hparse]
  rfl

/-- A name that can be read as a constant is looked up with enough fuel. -/
theorem evaluate_of_name (hname : name.isIdentifier) (htoken : nameToken? name = some (.name name))
    (hfind : constants.find? name = some value) :
    ∃ fuel, evaluate constants name =
      match (runAll (fuel + 1) (assignmentScope constants)
          [.assign (.name resultName) (.name name)]).run Store.empty with
        | (some _, s) => (s.result, s.output)
        | (none, s) => (.failed, s.output) := by
  have htext : resultName ++ ofString "=" ++ name ++ [Text.newline] = assignment name := rfl
  obtain ⟨fuel, hfuel⟩ : ∃ k, 16 * ((assignment name).length + 2) = k + 1 :=
    ⟨16 * ((assignment name).length + 2) - 1, by omega⟩
  refine ⟨fuel, ?_⟩
  simp only [evaluate, htext, hfuel, parse?_of_name hname htoken, scope?_of_name hfind,
    Option.bind_eq_bind, Option.bind_some, Option.pure_def]
  rfl

theorem evaluate_of_free (hname : name.isIdentifier) (hfree : IsFree name)
    (hfind : constants.find? name = some value) :
    evaluate constants name = (.integer value.toInt, []) := by
  obtain ⟨fuel, hvalue⟩ := evaluate_of_name hname (nameToken?_of_free hfree) hfind
  rw [hvalue, run_of_ne hfree.result hfind]
  rfl

theorem evaluate_of_word (hname : name.isIdentifier)
    (h : name ∈ words.map (·.1) ∨ name ∈ reservedWords) : evaluate constants name = (.failed, []) :=
  evaluate_of_parse_eq_none (parse?_of_word hname h)

/-- The variable has no value, though a constant has its name. -/
theorem evaluate_of_result (hfind : constants.find? resultName = some value) :
    evaluate constants resultName = (.failed, []) := by
  obtain ⟨fuel, hvalue⟩ := evaluate_of_name (by decide) rfl hfind
  rw [hvalue, run_of_result]
  rfl

end RegisterMachine.Expression

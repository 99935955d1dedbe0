import RegisterMachine.Assembler.Basic

/-!
# Cutting texts and putting them together

Splitting at a byte and joining with it are inverse to each other, as are writing a
line break inside a word and reading it. What stands before the first pair of bytes
does not hold that pair.
-/
namespace RegisterMachine.Text

theorem splitOn_ne_nil (sep : UInt8) (t : Text) : splitOn sep t ≠ [] := by
  induction t with
  | nil => simp
  | cons b t ih =>
      by_cases h : b = sep
      · subst h
        simp
      · rw [splitOn_cons_of_ne h]
        simpa using ih

theorem join_cons_cons (sep : Text) (t u : Text) (rest : List Text) :
    join sep (t :: u :: rest) = t ++ sep ++ join sep (u :: rest) := rfl

/-- All texts but the first have the separator in front. -/
theorem join_cons (sep : UInt8) (t : Text) (rest : List Text) :
    join [sep] (t :: rest) = t ++ rest.flatMap (sep :: ·) := by
  induction rest generalizing t with
  | nil => simp [join]
  | cons u rest ih => simp [join_cons_cons, ih]

/-- Something in front of the joined texts goes to the first of them. -/
theorem join_modifyHead (sep front : Text) {ts : List Text} (h : ts ≠ []) :
    join sep (ts.modifyHead (front ++ ·)) = front ++ join sep ts := by
  match ts with
  | [] => exact absurd rfl h
  | [t] => rfl
  | t :: u :: rest => simp [join]

theorem join_splitOn (sep : UInt8) (t : Text) : join [sep] (splitOn sep t) = t := by
  induction t with
  | nil => rfl
  | cons b t ih =>
      by_cases h : b = sep
      · subst h
        obtain ⟨piece, pieces, hp⟩ := List.exists_cons_of_ne_nil (splitOn_ne_nil b t)
        rw [splitOn_cons_self, hp, join_cons_cons, ← hp, ih]
        rfl
      · rw [splitOn_cons_of_ne h]
        exact (join_modifyHead [sep] [b] (splitOn_ne_nil sep t)).trans (by rw [ih]; rfl)

theorem not_mem_of_mem_splitOn {sep : UInt8} {t piece : Text} (h : piece ∈ splitOn sep t) :
    sep ∉ piece := by
  induction t generalizing piece with
  | nil =>
      obtain rfl := List.mem_singleton.1 h
      simp
  | cons b t ih =>
      by_cases hb : b = sep
      · subst hb
        rw [splitOn_cons_self, List.mem_cons] at h
        obtain rfl | h := h
        · simp
        · exact ih h
      · rw [splitOn_cons_of_ne hb] at h
        obtain ⟨first, pieces, hp⟩ := List.exists_cons_of_ne_nil (splitOn_ne_nil sep t)
        rw [hp, List.modifyHead_cons, List.mem_cons] at h
        obtain rfl | h := h
        · have hfirst : sep ∉ first := ih (by rw [hp]; simp)
          simp [Ne.symm hb, hfirst]
        · exact ih (by rw [hp]; exact List.mem_cons_of_mem _ h)

theorem splitOn_of_not_mem {sep : UInt8} {t : Text} (h : sep ∉ t) : splitOn sep t = [t] := by
  induction t with
  | nil => rfl
  | cons b t ih =>
      rw [List.mem_cons, not_or] at h
      rw [splitOn_cons_of_ne (Ne.symm h.1), ih h.2]
      rfl

theorem splitOn_append_cons {sep : UInt8} {t : Text} (h : sep ∉ t) (rest : Text) :
    splitOn sep (t ++ sep :: rest) = t :: splitOn sep rest := by
  induction t with
  | nil => exact splitOn_cons_self sep rest
  | cons b t ih =>
      rw [List.mem_cons, not_or] at h
      rw [List.cons_append, splitOn_cons_of_ne (Ne.symm h.1), ih h.2]
      rfl

theorem splitOn_join {sep : UInt8} {ts : List Text} (hne : ts ≠ []) (h : ∀ t ∈ ts, sep ∉ t) :
    splitOn sep (join [sep] ts) = ts := by
  induction ts with
  | nil => exact absurd rfl hne
  | cons t ts ih =>
      cases ts with
      | nil => exact splitOn_of_not_mem (h t (by simp))
      | cons u ts =>
          rw [join_cons_cons, List.append_assoc, List.singleton_append,
            splitOn_append_cons (h t (by simp)),
            ih (by simp) fun t' ht' => h t' (List.mem_cons_of_mem _ ht')]

def ofLines (lines : List Text) : Text := lines.flatMap (· ++ [newline])

theorem splitOn_ofLines {lines : List Text} (h : ∀ line ∈ lines, newline ∉ line) :
    splitOn newline (ofLines lines) = lines ++ [[]] := by
  induction lines with
  | nil => rfl
  | cons line lines ih =>
      rw [ofLines, List.flatMap_cons, List.append_assoc, List.singleton_append,
        splitOn_append_cons (h line (by simp)), ← ofLines,
        ih fun l hl => h l (List.mem_cons_of_mem _ hl)]
      rfl

theorem join_append_nil (lines : List Text) : join [newline] (lines ++ [[]]) = ofLines lines := by
  induction lines with
  | nil => rfl
  | cons line lines ih =>
      cases lines with
      | nil => simp [join, ofLines]
      | cons l lines =>
          rw [List.cons_append, List.cons_append, join_cons_cons, ← List.cons_append, ih]
          rfl

theorem pairIndex_eq (a b : UInt8) (n : Nat) (t : Text) :
    pairIndex a b n t = n + pairIndex a b 0 t := by
  match t with
  | [] => rfl
  | [x] => simp [pairIndex]
  | x :: y :: rest =>
      rw [pairIndex, pairIndex]
      split
      · rfl
      · rw [pairIndex_eq a b (n + 1), pairIndex_eq a b (0 + 1)]
        omega

theorem beforePair_of_not {a b x y : UInt8} (h : ¬(x = a ∧ y = b)) (rest : Text) :
    beforePair a b (x :: y :: rest) = x :: beforePair a b (y :: rest) := by
  rw [beforePair, pairIndex, if_neg h, pairIndex_eq, Nat.add_comm, List.take_succ_cons]
  rfl

theorem beforePair_eq_self {a b : UInt8} {t : Text} (h : ¬ [a, b] <:+: t) :
    beforePair a b t = t := by
  match t with
  | [] => rfl
  | [x] => rfl
  | x :: y :: rest =>
      have hxy : ¬(x = a ∧ y = b) := by
        rintro ⟨rfl, rfl⟩
        exact h ⟨[], rest, rfl⟩
      rw [beforePair_of_not hxy, beforePair_eq_self]
      exact fun hrest => h (hrest.trans (List.suffix_cons x (y :: rest)).isInfix)

theorem beforePair_isPrefix (a b : UInt8) (t : Text) : beforePair a b t <+: t :=
  List.take_prefix _ _

theorem not_infix_beforePair (a b : UInt8) (t : Text) : ¬ [a, b] <:+: beforePair a b t := by
  match t with
  | [] => simp [beforePair]
  | [x] =>
      intro h
      have := h.length_le
      simp [beforePair, pairIndex] at this
  | x :: y :: rest =>
      by_cases hxy : x = a ∧ y = b
      · rw [beforePair, pairIndex, if_pos hxy]
        simp
      · rw [beforePair_of_not hxy, List.infix_cons_iff]
        rintro (hp | hi)
        · have hp' := hp.trans ((List.prefix_cons_inj x).2 (beforePair_isPrefix a b (y :: rest)))
          simp only [List.cons_prefix_cons] at hp'
          exact hxy ⟨hp'.1.symm, hp'.2.1.symm⟩
        · exact not_infix_beforePair a b (y :: rest) hi

theorem beforePair_cons_of_ne {a b x : UInt8} (h : x ≠ a) (t : Text) :
    beforePair a b (x :: t) = x :: beforePair a b t := by
  cases t with
  | nil => rfl
  | cons y t => exact beforePair_of_not (fun hxy => h hxy.1) t

theorem beforePair_self (a b : UInt8) (t : Text) : beforePair a b (a :: b :: t) = [] := by
  rw [beforePair, pairIndex, if_pos ⟨rfl, rfl⟩, List.take_zero]

/-- Behind a text that holds the pair, nothing counts. -/
theorem beforePair_append_of_infix {a b : UInt8} {t : Text} (h : [a, b] <:+: t) (rest : Text) :
    beforePair a b (t ++ rest) = beforePair a b t := by
  match t with
  | [] => exact absurd h.length_le (by simp)
  | [x] => exact absurd h.length_le (by simp)
  | x :: y :: t =>
      by_cases hxy : x = a ∧ y = b
      · obtain ⟨rfl, rfl⟩ := hxy
        rw [List.cons_append, List.cons_append, beforePair_self, beforePair_self]
      · have htail : [a, b] <:+: y :: t := by
          obtain hp | hi := List.infix_cons_iff.1 h
          · rw [List.cons_prefix_cons, List.cons_prefix_cons] at hp
            exact absurd ⟨hp.1.symm, hp.2.1.symm⟩ hxy
          · exact hi
        rw [List.cons_append, List.cons_append, beforePair_of_not hxy, beforePair_of_not hxy,
          ← List.cons_append, beforePair_append_of_infix htail]

/-- A text without the pair stays in front of what stands before it, if no pair comes up where the
two meet. -/
theorem beforePair_append_of_not_infix {a b x : UInt8} {t : Text} (h : ¬ [a, b] <:+: t)
    (hx : x ≠ b) (rest : Text) :
    beforePair a b (t ++ x :: rest) = t ++ beforePair a b (x :: rest) := by
  match t with
  | [] => rfl
  | [y] => exact beforePair_of_not (fun hxy => hx hxy.2) rest
  | y :: z :: t =>
      have hyz : ¬(y = a ∧ z = b) := by
        rintro ⟨rfl, rfl⟩
        exact h ⟨[], t, rfl⟩
      have htail : ¬ [a, b] <:+: z :: t := fun hi =>
        h (hi.trans (List.suffix_cons y (z :: t)).isInfix)
      rw [List.cons_append, List.cons_append, beforePair_of_not hyz, ← List.cons_append,
        beforePair_append_of_not_infix htail hx]
      rfl

/-- A pair stands in one of two texts that follow each other, or where they meet. -/
theorem pair_infix_append {a b : UInt8} {left right : Text} (h : [a, b] <:+: left ++ right) :
    [a, b] <:+: left ∨ [a, b] <:+: right ∨
      (∃ before, left = before ++ [a]) ∧ ∃ after, right = b :: after := by
  induction left with
  | nil => exact .inr (.inl h)
  | cons c left ih =>
      rw [List.cons_append, List.infix_cons_iff] at h
      obtain hp | hi := h
      · obtain ⟨rfl, hb⟩ := List.cons_prefix_cons.1 hp
        cases left with
        | nil =>
            obtain ⟨after, hafter⟩ := hb
            exact .inr (.inr ⟨⟨[], rfl⟩, after, hafter.symm⟩)
        | cons d left =>
            obtain ⟨rfl, -⟩ := List.cons_prefix_cons.1 hb
            exact .inl ⟨[], left, rfl⟩
      · obtain hl | hr | ⟨⟨before, rfl⟩, hafter⟩ := ih hi
        · exact .inl (hl.trans (List.suffix_cons c left).isInfix)
        · exact .inr (.inl hr)
        · exact .inr (.inr ⟨⟨c :: before, rfl⟩, hafter⟩)

/-- A text without the first byte of a pair can be put in front without making that pair. -/
theorem not_infix_append_cons {a b x : UInt8} {left rest : Text} (hleft : a ∉ left) (hx : x ≠ a)
    (hrest : ¬ [a, b] <:+: rest) : ¬ [a, b] <:+: left ++ x :: rest := by
  induction left with
  | nil =>
      rw [List.nil_append, List.infix_cons_iff, List.cons_prefix_cons]
      rintro (hp | hi)
      · exact hx hp.1.symm
      · exact hrest hi
  | cons c left ih =>
      rw [List.mem_cons, not_or] at hleft
      rw [List.cons_append, List.infix_cons_iff, List.cons_prefix_cons]
      rintro (hp | hi)
      · exact hleft.1 hp.1
      · exact ih hleft.2 hi

end RegisterMachine.Text

namespace RegisterMachine

open Text (ofString byte newline)

theorem Instruction.escapeWord_cons (b : UInt8) (t : Text) :
    escapeWord (b :: t) = (if b = newline then ofString "\\n" else [b]) ++ escapeWord t :=
  List.flatMap_cons

theorem Instruction.escapeWord_eq_self {word : Text} (h : newline ∉ word) :
    escapeWord word = word := by
  induction word with
  | nil => rfl
  | cons b word ih =>
      rw [List.mem_cons, not_or] at h
      rw [escapeWord_cons, if_neg (Ne.symm h.1), ih h.2]
      rfl

theorem Instruction.newline_not_mem_escapeWord (word : Text) : newline ∉ escapeWord word := by
  rw [escapeWord, List.mem_flatMap]
  rintro ⟨b, -, hb⟩
  split at hb
  · exact absurd hb (by decide)
  · rename_i hne
    exact hne (List.mem_singleton.1 hb).symm

/-- A word without line breaks is written as it was read. -/
theorem LineContent.escapeWord_unescapeWord {word : Text} (h : newline ∉ word) :
    Instruction.escapeWord (unescapeWord word) = word := by
  match word with
  | [] => rfl
  | [x] =>
      exact Instruction.escapeWord_eq_self h
  | x :: y :: rest =>
      rw [List.mem_cons, not_or] at h
      by_cases hxy : x = byte '\\' ∧ y = byte 'n'
      · obtain ⟨rfl, rfl⟩ := hxy
        have hrest : newline ∉ rest := fun hr => h.2 (List.mem_cons_of_mem _ hr)
        rw [unescapeWord, Text.replacePair_cons_self, List.singleton_append,
          Instruction.escapeWord_cons, if_pos rfl, ← unescapeWord, escapeWord_unescapeWord hrest]
        rfl
      · rw [unescapeWord, Text.replacePair_cons_of_not hxy, Instruction.escapeWord_cons,
          if_neg (Ne.symm h.1), ← unescapeWord, escapeWord_unescapeWord h.2]
        rfl

end RegisterMachine

import RegisterMachine.Machine
import RegisterMachine.Proofs.Text.Decimal
import RegisterMachine.Proofs.Text.Pieces
import RegisterMachine.Proofs.Text.Quoting

/-!
# Snapshots are unambiguous

Every value of a snapshot ends where it says: an integer at the first byte that is no
digit, a text at its own closing mark. So the parts of a snapshot can be taken off its
front one by one, and equal snapshots show equal registers and equal cells, whichever
characters are printable.
-/
namespace RegisterMachine

open Text (ofString byte newline EndsNumeral)

variable {printable : Char → Bool}

namespace Value

/-- The written form of a value begins with a minus sign, a digit or a quotation mark. -/
theorem exists_quoteWith_eq_cons (printable : Char → Bool) (v : Value) :
    ∃ b rest, v.quoteWith printable = b :: rest ∧
      (b = byte '-' ∨ Text.isDigit b ∨ b = byte '"') := by
  cases v with
  | integer n =>
      obtain ⟨b, rest, hcons, hb⟩ := Text.exists_signedDecimal_eq_cons n.toInt
      exact ⟨b, rest, hcons, hb.imp_right .inl⟩
  | text t => exact ⟨_, _, rfl, .inr (.inr rfl)⟩

theorem integer_ne_text_quoteWith {n : Int64} {t rest rest' : Text} :
    (integer n).quoteWith printable ++ rest ≠ (text t).quoteWith printable ++ rest' := by
  obtain ⟨b, tail, hcons, hb⟩ := Text.exists_signedDecimal_eq_cons n.toInt
  have hmark : b ≠ byte '"' := by
    rintro rfl
    exact absurd hb (by decide)
  rw [quoteWith, Text.ofInt64, hcons]
  exact fun h => hmark (List.cons.inj h).1

/-- The written form of a value determines the value and where it ends. -/
theorem quoteWith_append_inj {v v' : Value} {rest rest' : Text} (hrest : EndsNumeral rest)
    (hrest' : EndsNumeral rest')
    (h : v.quoteWith printable ++ rest = v'.quoteWith printable ++ rest') :
    v = v' ∧ rest = rest' := by
  cases v with
  | integer n =>
      cases v' with
      | integer n' =>
          obtain ⟨hn, hrests⟩ := Text.signedDecimal_append_inj hrest hrest' h
          exact ⟨congrArg integer (Int64.toInt_inj.1 hn), hrests⟩
      | text t' => exact absurd h integer_ne_text_quoteWith
  | text t =>
      cases v' with
      | integer n' => exact absurd h.symm integer_ne_text_quoteWith
      | text t' =>
          obtain ⟨ht, hrests⟩ := Text.quote_append_inj h
          exact ⟨congrArg text ht, hrests⟩

def rowWith (printable : Char → Bool) (vs : List Value) (rest : Text) : Text :=
  vs.flatMap (fun v => byte ' ' :: v.quoteWith printable) ++ byte ']' :: rest

theorem rowWith_cons (v : Value) (vs : List Value) (rest : Text) :
    rowWith printable (v :: vs) rest =
      byte ' ' :: (v.quoteWith printable ++ rowWith printable vs rest) := by
  simp only [rowWith, List.flatMap_cons, List.cons_append, List.append_assoc]

theorem endsNumeral_rowWith (vs : List Value) (rest : Text) :
    EndsNumeral (rowWith printable vs rest) := by
  cases vs with
  | nil => exact Text.endsNumeral_cons (by decide) rest
  | cons v vs =>
      rw [rowWith_cons]
      exact Text.endsNumeral_cons (by decide) _

/-- A row of values ends at its bracket and determines the values. -/
theorem rowWith_inj {vs vs' : List Value} {rest rest' : Text}
    (h : rowWith printable vs rest = rowWith printable vs' rest') : vs = vs' ∧ rest = rest' := by
  have hblank : byte ' ' ≠ byte ']' := by decide
  induction vs generalizing vs' with
  | nil =>
      cases vs' with
      | nil => exact ⟨rfl, (List.cons.inj h).2⟩
      | cons v' vs' =>
          rw [rowWith_cons] at h
          exact absurd (List.cons.inj h).1.symm hblank
  | cons v vs ih =>
      cases vs' with
      | nil =>
          rw [rowWith_cons] at h
          exact absurd (List.cons.inj h).1 hblank
      | cons v' vs' =>
          rw [rowWith_cons, rowWith_cons] at h
          obtain ⟨rfl, hvs⟩ := quoteWith_append_inj (endsNumeral_rowWith vs rest)
            (endsNumeral_rowWith vs' rest') (List.cons.inj h).2
          obtain ⟨rfl, hrest⟩ := ih hvs
          exact ⟨rfl, hrest⟩

/-- Values with blanks between them, up to the closing bracket, are told apart as well. -/
theorem join_quoteWith_inj {vs vs' : List Value} {rest rest' : Text}
    (h : Text.join (ofString " ") (vs.map (quoteWith printable)) ++ byte ']' :: rest =
      Text.join (ofString " ") (vs'.map (quoteWith printable)) ++ byte ']' :: rest') :
    vs = vs' ∧ rest = rest' := by
  have hjoin (v : Value) (vs : List Value) (rest : Text) :
      Text.join (ofString " ") ((v :: vs).map (quoteWith printable)) ++ byte ']' :: rest =
        v.quoteWith printable ++ rowWith printable vs rest := by
    have hblank : ofString " " = [byte ' '] := rfl
    rw [List.map_cons, hblank, Text.join_cons, List.flatMap_map, List.append_assoc, rowWith]
  have hbracket (v : Value) (s s' : Text) : v.quoteWith printable ++ s ≠ byte ']' :: s' := by
    obtain ⟨b, tail, hcons, hb⟩ := exists_quoteWith_eq_cons printable v
    rw [hcons]
    rintro ⟨⟩
    exact absurd hb (by decide)
  cases vs with
  | nil =>
      cases vs' with
      | nil => exact ⟨rfl, (List.cons.inj h).2⟩
      | cons v' vs' =>
          rw [hjoin] at h
          exact absurd h.symm (hbracket _ _ _)
  | cons v vs =>
      rw [hjoin] at h
      cases vs' with
      | nil => exact absurd h (hbracket _ _ _)
      | cons v' vs' =>
          rw [hjoin] at h
          obtain ⟨rfl, hvs⟩ :=
            quoteWith_append_inj (endsNumeral_rowWith vs rest) (endsNumeral_rowWith vs' rest') h
          obtain ⟨rfl, hrest⟩ := rowWith_inj hvs
          exact ⟨rfl, hrest⟩

end Value

namespace RegisterFile

def lineWith (printable : Char → Bool) (file : RegisterFile) (r : Register) : Text :=
  Text.padLeft 5 32 r.name ++ ofString ": " ++ (file.get r).quoteWith printable ++ [newline]

/-- The registers as they show with any choice of printable characters. -/
def snapshotWith (printable : Char → Bool) (file : RegisterFile) : Text :=
  Register.all.flatMap (file.lineWith printable)

theorem snapshotWith_isPrintable (file : RegisterFile) :
    file.snapshotWith Text.isPrintable = file.snapshot := rfl

/-- The lines of some registers determine what these hold and where the lines end. -/
theorem lines_append_inj {file file' : RegisterFile} {rs : List Register} {rest rest' : Text}
    (h : rs.flatMap (file.lineWith printable) ++ rest =
      rs.flatMap (file'.lineWith printable) ++ rest') :
    (∀ r ∈ rs, file.get r = file'.get r) ∧ rest = rest' := by
  induction rs with
  | nil => exact ⟨nofun, h⟩
  | cons r rs ih =>
      simp only [List.flatMap_cons, lineWith, List.append_assoc, List.append_cancel_left_eq,
        List.singleton_append] at h
      obtain ⟨hvalue, hlines⟩ := Value.quoteWith_append_inj
        (Text.endsNumeral_cons (by decide) _) (Text.endsNumeral_cons (by decide) _) h
      obtain ⟨hvalues, hrest⟩ := ih (List.cons.inj hlines).2
      refine ⟨fun s hs => ?_, hrest⟩
      obtain rfl | hs := List.mem_cons.1 hs
      · exact hvalue
      · exact hvalues s hs

/-- The registers are determined by their lines. -/
theorem snapshotWith_append_inj {file file' : RegisterFile} {rest rest' : Text}
    (h : file.snapshotWith printable ++ rest = file'.snapshotWith printable ++ rest') :
    (∀ r, file.get r = file'.get r) ∧ rest = rest' := by
  have hall (r : Register) : r ∈ Register.all := by cases r <;> decide
  obtain ⟨hvalues, hrest⟩ := lines_append_inj h
  exact ⟨fun r => hvalues r (hall r), hrest⟩

theorem snapshotWith_congr {file file' : RegisterFile} (h : ∀ r, file.get r = file'.get r) :
    file.snapshotWith printable = file'.snapshotWith printable := by
  have hlines : file.lineWith printable = file'.lineWith printable :=
    funext fun r => by rw [lineWith, lineWith, h r]
  rw [snapshotWith, hlines, snapshotWith]

end RegisterFile

namespace Memory

def stackSnapshotWith (printable : Char → Bool) (m : Memory) : Text :=
  ofString "[" ++ Text.join (ofString " ") (m.cells.toList.map (Value.quoteWith printable))
    ++ ofString "] " ++ m.registers.bp.quoteWith printable ++ ofString " "
    ++ m.registers.sp.quoteWith printable

def snapshotWith (printable : Char → Bool) (m : Memory) : Text :=
  m.registers.snapshotWith printable ++ ofString "stack: " ++ m.stackSnapshotWith printable ++
    [newline]

theorem stackSnapshotWith_isPrintable (m : Memory) :
    m.stackSnapshotWith Text.isPrintable = m.stackSnapshot := rfl

theorem snapshotWith_isPrintable (m : Memory) :
    m.snapshotWith Text.isPrintable = m.snapshot := rfl

/-- What the snapshot of a stack determines, whatever comes behind it. -/
theorem stackSnapshotWith_append_inj {m m' : Memory} {rest rest' : Text}
    (hrest : EndsNumeral rest) (hrest' : EndsNumeral rest')
    (h : m.stackSnapshotWith printable ++ rest = m'.stackSnapshotWith printable ++ rest') :
    m.cells = m'.cells ∧ m.registers.bp = m'.registers.bp ∧
      m.registers.sp = m'.registers.sp ∧ rest = rest' := by
  have hclose : ofString "] " = [byte ']', byte ' '] := rfl
  have hblank : ofString " " = [byte ' '] := rfl
  simp only [stackSnapshotWith, hclose, List.append_assoc, List.append_cancel_left_eq,
    List.cons_append, List.nil_append] at h
  obtain ⟨hcells, htail⟩ := Value.join_quoteWith_inj h
  simp only [hblank, List.singleton_append] at htail
  obtain ⟨hbase, htop⟩ := Value.quoteWith_append_inj (Text.endsNumeral_cons (by decide) _)
    (Text.endsNumeral_cons (by decide) _) (List.cons.inj htail).2
  obtain ⟨htop, hrests⟩ := Value.quoteWith_append_inj hrest hrest' (List.cons.inj htop).2
  exact ⟨Array.toList_inj.1 hcells, hbase, htop, hrests⟩

end Memory

namespace Machine

def snapshotWith (printable : Char → Bool) (m : Machine) : Text := m.memory.snapshotWith printable

/-- Two machines look alike exactly if all registers hold the same values and the stacks have the
same cells, as many and one by one; two stacks look alike exactly if they have the same cells,
base and top. That is so for every choice of printable characters, and the machine makes one. -/
theorem snapshotWith_eq_iff (printable : Char → Bool) (m m' : Machine) :
    (m.snapshotWith printable = m'.snapshotWith printable ↔
      (∀ r, m.memory.registers.get r = m'.memory.registers.get r) ∧
        m.memory.cells = m'.memory.cells) ∧
    (m.memory.stackSnapshotWith printable = m'.memory.stackSnapshotWith printable ↔
      m.memory.cells = m'.memory.cells ∧ m.memory.registers.bp = m'.memory.registers.bp ∧
        m.memory.registers.sp = m'.memory.registers.sp) ∧
    m.snapshotWith Text.isPrintable = m.snapshot ∧
    m.memory.stackSnapshotWith Text.isPrintable = m.memory.stackSnapshot := by
  refine ⟨⟨fun h => ?_, fun ⟨hregisters, hcells⟩ => ?_⟩, ⟨fun h => ?_, fun ⟨hcells, hbase, htop⟩ =>
    ?_⟩, m.memory.snapshotWith_isPrintable, m.memory.stackSnapshotWith_isPrintable⟩
  · simp only [snapshotWith, Memory.snapshotWith, List.append_assoc] at h
    obtain ⟨hregisters, hstack⟩ := RegisterFile.snapshotWith_append_inj h
    have hline : EndsNumeral [newline] := Text.endsNumeral_cons (by decide) []
    obtain ⟨hcells, -⟩ :=
      Memory.stackSnapshotWith_append_inj hline hline (List.append_cancel_left hstack)
    exact ⟨hregisters, hcells⟩
  · have hbase := hregisters .bp
    have htop := hregisters .sp
    simp only [RegisterFile.get] at hbase htop
    rw [snapshotWith, snapshotWith, Memory.snapshotWith, Memory.snapshotWith,
      RegisterFile.snapshotWith_congr hregisters, Memory.stackSnapshotWith,
      Memory.stackSnapshotWith, hcells, hbase, htop]
  · rw [← List.append_nil (m.memory.stackSnapshotWith printable),
      ← List.append_nil (m'.memory.stackSnapshotWith printable)] at h
    obtain ⟨hcells, hbase, htop, -⟩ :=
      Memory.stackSnapshotWith_append_inj Text.endsNumeral_nil Text.endsNumeral_nil h
    exact ⟨hcells, hbase, htop⟩
  · rw [Memory.stackSnapshotWith, Memory.stackSnapshotWith, hcells, hbase, htop]

end Machine

end RegisterMachine

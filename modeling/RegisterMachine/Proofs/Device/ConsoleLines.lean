import RegisterMachine.Device.Basic
import RegisterMachine.Proofs.Device.LineBuffer
import RegisterMachine.Proofs.Text.Pieces

/-!
# The lines that a console delivers

What a console delivers from a reader depends on the bytes to come alone: the pieces
between line breaks in order, then what is left behind the last one, then nothing any
more. Neither the capacity of the buffer nor the chunks of the reader show.
-/
namespace RegisterMachine

open LineBuffer
open Text (newline carriageReturn ofString)

namespace Text

/-- The pieces of a text that have a line break behind them. -/
def terminated (t : Text) : List Text := (splitOn newline t).dropLast

/-- What stands behind the last line break of a text. -/
def remainder (t : Text) : Text := (splitOn newline t).getLastD []

theorem terminated_of_not_mem {t : Text} (h : newline ∉ t) : t.terminated = [] := by
  rw [terminated, splitOn_of_not_mem h]
  rfl

theorem remainder_of_not_mem {t : Text} (h : newline ∉ t) : t.remainder = t := by
  rw [remainder, splitOn_of_not_mem h]
  rfl

theorem terminated_append {before : Text} (h : newline ∉ before) (rest : Text) :
    (before ++ newline :: rest).terminated = before :: rest.terminated := by
  rw [terminated, splitOn_append_cons h, List.dropLast_cons_of_ne_nil (splitOn_ne_nil _ _)]
  rfl

theorem remainder_append {before : Text} (h : newline ∉ before) (rest : Text) :
    (before ++ newline :: rest).remainder = rest.remainder := by
  obtain ⟨piece, pieces, hsplit⟩ := List.exists_cons_of_ne_nil (splitOn_ne_nil newline rest)
  rw [remainder, remainder, splitOn_append_cons h, hsplit]
  simp [List.getLastD]

theorem dropTrailing_append (b : UInt8) (t : Text) : dropTrailing b (t ++ [b]) = t := by
  simp [dropTrailing]

theorem dropTrailing_of_not_mem {b : UInt8} {t : Text} (h : b ∉ t) : dropTrailing b t = t := by
  rw [dropTrailing, if_neg]
  intro hlast
  exact h (List.mem_of_getLast? hlast)

end Text

namespace LineRead

/-- A line without a carriage return at its end. -/
def ofPiece (piece : Text) : LineRead := ⟨piece.dropTrailing carriageReturn, none⟩

/-- What there is to read at the end, over and over. -/
def atEnd (ending : Ending) : LineRead := ⟨[], some ending.fault⟩

/-- The lines of a text before a reader is at its end: all pieces with a line break, then what is
left, if the reader does not fail and something is. Where the reader fails, what is left comes
unchanged, together with the failure. -/
def linesOf (t : Text) : Ending → List LineRead
  | .endOfFile =>
      t.terminated.map ofPiece ++ if t.remainder.isEmpty then [] else [ofPiece t.remainder]
  | .failure message => t.terminated.map ofPiece ++ [⟨t.remainder, some (.device message)⟩]

theorem linesOf_append {before : Text} (h : newline ∉ before) (rest : Text) (ending : Ending) :
    linesOf (before ++ newline :: rest) ending = ofPiece before :: linesOf rest ending := by
  cases ending <;> simp [linesOf, Text.terminated_append h, Text.remainder_append h]

theorem linesOf_of_not_mem {t : Text} (h : newline ∉ t) (ending : Ending) :
    linesOf t ending = match ending with
      | .endOfFile => if t.isEmpty then [] else [ofPiece t]
      | .failure message => [⟨t, some (.device message)⟩] := by
  cases ending <;> simp [linesOf, Text.terminated_of_not_mem h, Text.remainder_of_not_mem h]

/-- What the bytes of one line are delivered as; `ended` tells how the reader ended with it. -/
def ofRaw (raw : Text) : Option Ending → LineRead
  | none => ⟨(raw.dropTrailing newline).dropTrailing carriageReturn, none⟩
  | some .endOfFile =>
      if raw.isEmpty then ⟨[], some .endOfInput⟩
      else ⟨(raw.dropTrailing newline).dropTrailing carriageReturn, none⟩
  | some (.failure message) => ⟨raw, some (.device message)⟩

theorem ofRaw_line (before : Text) : ofRaw (before ++ [newline]) none = ofPiece before := by
  rw [ofRaw, Text.dropTrailing_append]
  rfl

theorem ofRaw_rest {t : Text} (h : newline ∉ t) (ending : Ending) :
    ofRaw t (some ending) = (linesOf t ending).getD 0 (atEnd ending) := by
  rw [linesOf_of_not_mem h]
  cases ending with
  | endOfFile =>
      rw [ofRaw, Text.dropTrailing_of_not_mem h]
      by_cases ht : t.isEmpty
      · simp [ht, atEnd, Ending.fault]
      · simp [ht, ofPiece]
  | failure message => rfl

/-- Nothing is left to read at the end. -/
theorem getD_linesOf_nil (ending : Ending) (k : Nat) :
    (linesOf [] ending).getD k (atEnd ending) = atEnd ending := by
  rw [linesOf_of_not_mem (by simp)]
  cases ending with
  | endOfFile => rfl
  | failure message => cases k <;> rfl

end LineRead

/-- A line taken off a text is the first of its lines, and what it leaves has the others. -/
theorem LineBuffer.TakesLine.linesOf {ending : Ending} {t raw rest : Text} {ended : Option Ending}
    (h : TakesLine ending t raw ended rest) :
    LineRead.ofRaw raw ended = (LineRead.linesOf t ending).getD 0 (LineRead.atEnd ending) ∧
      ∀ k, (LineRead.linesOf rest ending).getD k (LineRead.atEnd ending) =
        (LineRead.linesOf t ending).getD (k + 1) (LineRead.atEnd ending) := by
  cases h with
  | broken hbefore =>
      rw [LineRead.linesOf_append hbefore, LineRead.ofRaw_line]
      exact ⟨rfl, fun _ => rfl⟩
  | rest ht =>
      refine ⟨LineRead.ofRaw_rest ht ending, fun k => ?_⟩
      rw [LineRead.getD_linesOf_nil, LineRead.linesOf_of_not_mem ht]
      cases ending with
      | endOfFile => by_cases ht : t.isEmpty <;> simp [ht]
      | failure message => simp

namespace Devices

/-- What the console has read ahead from a reader. -/
def buffered (d : Devices) (n : Nat) : Text :=
  match d.console.ahead with
  | some (m, bytes) => if m = n then bytes else []
  | .none => []

/-- The bytes of a reader that the console has still to deliver. -/
def unread (d : Devices) (n : Nat) : Text := d.buffered n ++ (d.reader n).pending

/-- The devices with another reader for a number, and what the console has read ahead from it. -/
def withReader (d : Devices) (n : Nat) (reader : Reader) (ahead : Text) : Devices :=
  { d with
    readers := d.readers.set n reader
    console := { d.console with ahead := some (n, ahead) } }

@[simp] theorem buffered_withReader (d : Devices) (n : Nat) (next : Reader) (ahead : Text) :
    (d.withReader n next ahead).buffered n = ahead := by
  simp [buffered, withReader]

theorem buffered_withReader_of_ne (d : Devices) {n m : Nat} (h : m ≠ n) (next : Reader)
    (ahead : Text) : (d.withReader n next ahead).buffered m = [] := by
  simp [buffered, withReader, Ne.symm h]

theorem reader_withReader_of_ne (d : Devices) {n m : Nat} (h : m ≠ n) (next : Reader)
    (ahead : Text) : (d.withReader n next ahead).reader m = d.reader m := by
  simp [reader, withReader, List.getElem?_set_ne (Ne.symm h)]

/-- There is no reader behind the last number, so none can be put there. -/
theorem reader_withReader (d : Devices) (n : Nat) (next : Reader) (ahead : Text) :
    (d.withReader n next ahead).reader n =
      if n < d.readers.length then next else d.reader n := by
  by_cases h : n < d.readers.length
  · simp [reader, withReader, h]
  · simp [reader, withReader, h]

theorem readConsole_of_input {d : Devices} {n : Nat} (h : d.console.input = some n) {raw ahead : Text}
    {ended : Option Ending} {rest : Reader}
    (hline : wholeLine (d.buffered n) (d.reader n) = (raw, ended, ahead, rest)) :
    d.readConsole = (LineRead.ofRaw raw ended, d.withReader n rest ahead) := by
  obtain ⟨readers, ⟨input, sink, found⟩, terminal, standardInput, written⟩ := d
  obtain rfl : input = some n := h
  rcases found with _ | ⟨m, bytes⟩
  all_goals
    simp only [buffered] at hline
    simp only [readConsole, hline]
    rcases ended with _ | _ | message
    · rfl
    · by_cases hraw : raw.isEmpty <;> simp [hraw, LineRead.ofRaw, withReader]
    · rfl

/-- What a console does when it reads a line from reader `n`. -/
structure ReadsFrom (d : Devices) (n : Nat) (raw : Text) (ended : Option Ending) (d' : Devices) :
    Prop where
  takes : TakesLine (d.reader n).ending (d.unread n) raw ended (d'.unread n)
  ending : (d'.reader n).ending = (d.reader n).ending
  length : (d.buffered n).length ≤ capacity → (d'.buffered n).length < capacity
  input : d'.console.input = d.console.input
  /-- Whatever was read ahead from another reader is lost, and the reader does not move. -/
  others : ∀ m ≠ n, d'.buffered m = [] ∧ d'.reader m = d.reader m

theorem readsFrom_readConsole {d : Devices} {n : Nat} (h : d.console.input = some n) :
    ∃ raw ended, d.readConsole.1 = LineRead.ofRaw raw ended ∧
      ReadsFrom d n raw ended d.readConsole.2 := by
  rcases hline : wholeLine (d.buffered n) (d.reader n) with ⟨raw, ended, ahead, rest⟩
  obtain ⟨htakes, hending, hpending, hlength⟩ := readsLine_wholeLine hline
  have hunread : (d.withReader n rest ahead).unread n = ahead ++ rest.pending := by
    rw [unread, buffered_withReader, reader_withReader]
    by_cases hn : n < d.readers.length
    · rw [if_pos hn]
    · have hnone : d.reader n = default := by
        simp [reader, List.getElem?_eq_none (Nat.not_lt.1 hn)]
      have hempty : (default : Reader).pending = [] := rfl
      rw [if_neg hn, hnone, hempty]
      rw [hnone, hempty] at hpending
      rw [List.suffix_nil.1 hpending]
  rw [readConsole_of_input h hline]
  refine ⟨raw, ended, rfl, ?_, ?_, ?_, rfl, fun m hm => ⟨?_, ?_⟩⟩
  · rw [hunread]
    exact htakes
  · rw [reader_withReader]
    split
    · exact hending
    · rfl
  · rw [buffered_withReader]
    exact hlength
  · exact buffered_withReader_of_ne d hm rest ahead
  · exact reader_withReader_of_ne d hm rest ahead

def afterReads (d : Devices) : Nat → Devices
  | 0 => d
  | k + 1 => d.readConsole.2.afterReads k

/-- A console that stays attached to a reader delivers, one after another, the lines of what it has
read ahead and of what the reader holds, in whatever chunks; and then it is at the end for good. -/
theorem console_delivers_lines {d : Devices} {n : Nat} {chunks : List Text} {ending : Ending}
    (hinput : d.console.input = some n) (hreader : d.reader n = ⟨chunks, ending⟩) (k : Nat) :
    (d.afterReads k).readConsole.1 =
      (LineRead.linesOf (d.buffered n ++ chunks.flatten) ending).getD k (LineRead.atEnd ending) := by
  have hunread : d.buffered n ++ chunks.flatten = d.unread n := by
    rw [unread, hreader]
    rfl
  have hending : (d.reader n).ending = ending := by rw [hreader]
  rw [hunread]
  clear hunread hreader
  induction k generalizing d with
  | zero =>
      obtain ⟨raw, ended, hread, hfrom⟩ := readsFrom_readConsole hinput
      have htakes := hfrom.takes
      rw [hending] at htakes
      rw [afterReads, hread]
      exact htakes.linesOf.1
  | succ k ih =>
      obtain ⟨raw, ended, -, hfrom⟩ := readsFrom_readConsole hinput
      have htakes := hfrom.takes
      rw [hending] at htakes
      rw [afterReads, ih (hfrom.input.trans hinput) (hfrom.ending.trans hending)]
      exact htakes.linesOf.2 k

def choppedConsole : Devices :=
  { initial [⟨[ofString "a\r", ofString "\nb", ofString "c"], .failure (ofString "gone")⟩] [] with
    console := ⟨some 0, .none, .none⟩ }

theorem console_delivers_lines_chopped :
    choppedConsole.console.input = some 0 ∧
      choppedConsole.reader 0 =
        ⟨[ofString "a\r", ofString "\nb", ofString "c"], .failure (ofString "gone")⟩ ∧
      (choppedConsole.afterReads 0).readConsole.1 = ⟨ofString "a", .none⟩ ∧
      (choppedConsole.afterReads 1).readConsole.1 =
        ⟨ofString "bc", some (.device (ofString "gone"))⟩ ∧
      ∀ k, (choppedConsole.afterReads (k + 2)).readConsole.1 =
        ⟨[], some (.device (ofString "gone"))⟩ := by
  have hlines := @console_delivers_lines choppedConsole 0 _ _ rfl rfl
  exact ⟨rfl, rfl, (hlines 0).trans (by decide), (hlines 1).trans (by decide),
    fun k => (hlines (k + 2)).trans rfl⟩

end Devices

end RegisterMachine

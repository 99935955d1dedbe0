import RegisterMachine.Proofs.Device.ConsoleLines

/-!
# No byte is delivered twice

The lines that a console delivers from one reader are made from segments of its text
that lie behind each other. Between two of them nothing is skipped, unless the console
was closed or read from another reader meanwhile: then it forgot what it had read
ahead, which is less than its buffer holds.
-/
namespace RegisterMachine

open LineBuffer
open Text (newline ofString)

/-- What a line is made from: `raw` are its bytes in the text of a reader with that ending. -/
inductive LineRead.MadeFrom : Ending → Text → LineRead → Prop
  | line {ending : Ending} {before : Text} : newline ∉ before →
      MadeFrom ending (before ++ [newline]) (ofPiece before)
  | rest {raw : Text} : newline ∉ raw → raw ≠ [] → MadeFrom .endOfFile raw (ofPiece raw)
  | over : MadeFrom .endOfFile [] ⟨[], some .endOfInput⟩
  | failed {raw message : Text} : newline ∉ raw →
      MadeFrom (.failure message) raw ⟨raw, some (.device message)⟩

theorem LineBuffer.TakesLine.madeFrom {ending : Ending} {t raw rest : Text} {ended : Option Ending}
    (h : TakesLine ending t raw ended rest) : LineRead.MadeFrom ending raw (.ofRaw raw ended) := by
  cases h with
  | broken hbefore =>
      rw [LineRead.ofRaw_line]
      exact .line hbefore
  | rest ht =>
      rw [LineRead.ofRaw_rest ht, LineRead.linesOf_of_not_mem ht]
      cases ending with
      | endOfFile =>
          by_cases hempty : t = []
          · subst hempty
            exact .over
          · have hread : (if t.isEmpty then [] else [LineRead.ofPiece t]).getD 0
                (LineRead.atEnd .endOfFile) = LineRead.ofPiece t := by
              simp [hempty]
            rw [hread]
            exact .rest ht hempty
      | failure message => exact .failed ht

/-- What is done to a console: a reader is attached or the present one is detached, a line is read,
or the console is closed. -/
inductive ConsoleStep where
  | attach (input : Option Nat)
  | read
  | close
  deriving DecidableEq, Repr

namespace Devices

def step : ConsoleStep → Devices → Devices
  | .attach input, d => { d with console := { d.console with input } }
  | .read, d => d.readConsole.2
  | .close, d => d.closeConsole

def ReadsReader (d : Devices) (s : ConsoleStep) (n : Nat) : Prop :=
  s = .read ∧ d.console.input = some n

/-- The step makes the console forget what it has read ahead from reader `n`. -/
def Forgets (d : Devices) (s : ConsoleStep) (n : Nat) : Prop :=
  s = .close ∨ ∃ m ≠ n, d.ReadsReader s m

/-- Where a step does not read from a reader, that one does not move. -/
theorem reader_step {d : Devices} {s : ConsoleStep} {n : Nat} (h : ¬ d.ReadsReader s n) :
    (d.step s).reader n = d.reader n := by
  cases s with
  | attach input => rfl
  | close => rfl
  | read =>
      cases hinput : d.console.input with
      | none =>
          rw [step, readConsole, hinput]
      | some m =>
          have hm : n ≠ m := by
            rintro rfl
            exact h ⟨rfl, hinput⟩
          obtain ⟨raw, ended, -, hfrom⟩ := readsFrom_readConsole hinput
          exact (hfrom.others n hm).2

/-- Only attaching decides which reader is attached. -/
theorem input_step (d : Devices) (s : ConsoleStep) :
    (d.step s).console.input = match s with
      | .attach input => input
      | .read | .close => d.console.input := by
  cases s with
  | attach input => rfl
  | close => rfl
  | read =>
      cases hinput : d.console.input with
      | none => simp only [step, readConsole, hinput]
      | some n =>
          obtain ⟨raw, ended, -, hfrom⟩ := readsFrom_readConsole hinput
          exact hfrom.input.trans hinput

theorem buffered_step {d : Devices} {s : ConsoleStep} {n : Nat} (hreads : ¬ d.ReadsReader s n)
    (hforgets : ¬ d.Forgets s n) : (d.step s).buffered n = d.buffered n := by
  cases s with
  | attach input => rfl
  | close => exact absurd (.inl rfl) hforgets
  | read =>
      cases hinput : d.console.input with
      | none => rw [step, readConsole, hinput]
      | some m =>
          by_cases hm : m = n
          · subst hm
            exact absurd ⟨rfl, hinput⟩ hreads
          · exact absurd (.inr ⟨m, hm, rfl, hinput⟩) hforgets

theorem buffered_step_of_forgets {d : Devices} {s : ConsoleStep} {n : Nat} (h : d.Forgets s n) :
    (d.step s).buffered n = [] := by
  rcases h with rfl | ⟨m, hm, rfl, hinput⟩
  · rfl
  · obtain ⟨raw, ended, -, hfrom⟩ := readsFrom_readConsole hinput
    exact (hfrom.others n (Ne.symm hm)).1

/-- A step never brings a byte back. -/
theorem unread_step (d : Devices) (s : ConsoleStep) (n : Nat) :
    (d.step s).unread n <:+ d.unread n := by
  by_cases hreads : d.ReadsReader s n
  · obtain ⟨rfl, hinput⟩ := hreads
    obtain ⟨raw, ended, -, hfrom⟩ := readsFrom_readConsole hinput
    exact ⟨raw, hfrom.takes.append_eq⟩
  · rw [unread, unread, reader_step hreads]
    by_cases hforgets : d.Forgets s n
    · rw [buffered_step_of_forgets hforgets]
      exact List.suffix_append _ _
    · have hsame := buffered_step hreads hforgets
      simp only [hsame, List.suffix_rfl]

/-- The console never has a full buffer read ahead. -/
def LeavesRoom (d : Devices) : Prop := ∀ n, (d.buffered n).length < capacity

theorem LeavesRoom.step {d : Devices} (h : d.LeavesRoom) (s : ConsoleStep) :
    (d.step s).LeavesRoom := by
  intro n
  by_cases hreads : d.ReadsReader s n
  · obtain ⟨rfl, hinput⟩ := hreads
    obtain ⟨raw, ended, -, hfrom⟩ := readsFrom_readConsole hinput
    exact hfrom.length (Nat.le_of_lt (h n))
  · by_cases hforgets : d.Forgets s n
    · have hpos : 0 < capacity := by decide
      rw [buffered_step_of_forgets hforgets]
      exact hpos
    · rw [buffered_step hreads hforgets]
      exact h n

def afterSteps (d : Devices) (steps : Nat → ConsoleStep) : Nat → Devices
  | 0 => d
  | k + 1 => (d.afterSteps steps k).step (steps k)

def ReadsAt (d : Devices) (steps : Nat → ConsoleStep) (n k : Nat) : Prop :=
  (d.afterSteps steps k).ReadsReader (steps k) n

/-- At step `k` the console is closed, or reads from another reader than `n`. -/
def ForgetsAt (d : Devices) (steps : Nat → ConsoleStep) (n k : Nat) : Prop :=
  (d.afterSteps steps k).Forgets (steps k) n

/-- How far reader `n` is behind after `k` steps: so many bytes of its text, from the front, were
delivered or forgotten. -/
def passed (d : Devices) (steps : Nat → ConsoleStep) (n k : Nat) : Nat :=
  (d.unread n).length - ((d.afterSteps steps k).unread n).length

variable {d : Devices} {steps : Nat → ConsoleStep} {n : Nat}

theorem unread_afterSteps (d : Devices) (steps : Nat → ConsoleStep) (n k : Nat) :
    (d.afterSteps steps k).unread n <:+ d.unread n := by
  induction k with
  | zero => exact List.suffix_rfl
  | succ k ih => exact (unread_step _ _ _).trans ih

theorem LeavesRoom.afterSteps (h : d.LeavesRoom) (k : Nat) : (d.afterSteps steps k).LeavesRoom := by
  induction k with
  | zero => exact h
  | succ k ih => exact ih.step _

theorem passed_add_length (d : Devices) (steps : Nat → ConsoleStep) (n k : Nat) :
    d.passed steps n k + ((d.afterSteps steps k).unread n).length = (d.unread n).length := by
  have hlength := (unread_afterSteps d steps n k).length_le
  unfold passed
  omega

theorem passed_mono {i j : Nat} (h : i ≤ j) : d.passed steps n i ≤ d.passed steps n j := by
  induction h with
  | refl => exact Nat.le_refl _
  | @step j hij ih =>
      have hstep := (unread_step (d.afterSteps steps j) (steps j) n).length_le
      have hhere := passed_add_length d steps n j
      have hnext := passed_add_length d steps n (j + 1)
      have hsame : d.afterSteps steps (j + 1) = (d.afterSteps steps j).step (steps j) := rfl
      rw [hsame] at hnext
      have hmore : d.passed steps n j ≤ d.passed steps n (j + 1) := by omega
      exact Nat.le_trans ih hmore

/-- The bytes between two marks, counted from the back, are cut out of a text. -/
theorem extract_of_suffix {t raw rest : Text} (h : raw ++ rest <:+ t) :
    t.extract (t.length - (raw ++ rest).length) (t.length - rest.length) = raw := by
  obtain ⟨front, rfl⟩ := h
  have hstart : (front ++ (raw ++ rest)).length - (raw ++ rest).length = front.length := by
    simp only [List.length_append]
    omega
  have hstop : (front ++ (raw ++ rest)).length - rest.length - front.length = raw.length := by
    simp only [List.length_append]
    omega
  rw [List.extract_eq_take_drop, hstart, hstop, List.drop_left, List.take_left]

theorem madeFrom_of_readsAt {k : Nat} (h : d.ReadsAt steps n k) :
    LineRead.MadeFrom ((d.afterSteps steps k).reader n).ending
      ((d.unread n).extract (d.passed steps n k) (d.passed steps n (k + 1)))
      (d.afterSteps steps k).readConsole.1 := by
  obtain ⟨hstep, hinput⟩ := h
  obtain ⟨raw, ended, hread, hfrom⟩ := readsFrom_readConsole hinput
  have hnext : d.afterSteps steps (k + 1) = (d.afterSteps steps k).readConsole.2 := by
    rw [afterSteps, hstep, step]
  have hsuffix := unread_afterSteps d steps n k
  rw [← hfrom.takes.append_eq] at hsuffix
  rw [passed, passed, hnext, ← hfrom.takes.append_eq, extract_of_suffix hsuffix, hread]
  exact hfrom.takes.madeFrom

theorem ending_afterSteps (d : Devices) (steps : Nat → ConsoleStep) (n k : Nat) :
    ((d.afterSteps steps k).reader n).ending = (d.reader n).ending := by
  induction k with
  | zero => rfl
  | succ k ih =>
      by_cases hreads : d.ReadsAt steps n k
      · obtain ⟨hstep, hinput⟩ := hreads
        obtain ⟨raw, ended, -, hfrom⟩ := readsFrom_readConsole hinput
        rw [afterSteps, hstep]
        exact hfrom.ending.trans ih
      · rw [afterSteps, reader_step hreads]
        exact ih

/-- A reader that is not read from does not move. -/
theorem reader_afterSteps {i j : Nat} (hij : i ≤ j)
    (h : ∀ k, i ≤ k → k < j → ¬ d.ReadsAt steps n k) :
    (d.afterSteps steps j).reader n = (d.afterSteps steps i).reader n := by
  induction hij with
  | refl => rfl
  | @step j hij ih =>
      rw [afterSteps, reader_step (h j hij (Nat.lt_succ_self j))]
      exact ih fun k hik hkj => h k hik (Nat.lt_succ_of_lt hkj)

/-- As long as the console neither reads from a reader nor forgets, it goes on where it was. -/
theorem unread_afterSteps_eq {i j : Nat} (hij : i ≤ j)
    (hreads : ∀ k, i ≤ k → k < j → ¬ d.ReadsAt steps n k)
    (hforgets : ∀ k, i ≤ k → k < j → ¬ d.ForgetsAt steps n k) :
    (d.afterSteps steps j).unread n = (d.afterSteps steps i).unread n := by
  induction hij with
  | refl => rfl
  | @step j hij ih =>
      have hhere : ¬ d.ReadsAt steps n j := hreads j hij (Nat.lt_succ_self j)
      have hbuffer : ((d.afterSteps steps j).step (steps j)).buffered n =
          (d.afterSteps steps j).buffered n :=
        buffered_step hhere (hforgets j hij (Nat.lt_succ_self j))
      rw [afterSteps, unread, hbuffer, reader_step hhere]
      exact ih (fun k hik hkj => hreads k hik (Nat.lt_succ_of_lt hkj))
        fun k hik hkj => hforgets k hik (Nat.lt_succ_of_lt hkj)

/-- What can be skipped while a reader is not read from was read ahead. -/
theorem passed_le_of_not_readsAt (hroom : d.LeavesRoom) {i j : Nat} (hij : i ≤ j)
    (h : ∀ k, i ≤ k → k < j → ¬ d.ReadsAt steps n k) :
    d.passed steps n j ≤ d.passed steps n i + 4095 := by
  have hreader := reader_afterSteps hij h
  have hbuffer : ((d.afterSteps steps i).buffered n).length < 4096 := hroom.afterSteps i n
  have hi := passed_add_length d steps n i
  have hj := passed_add_length d steps n j
  rw [unread, List.length_append] at hi hj
  rw [hreader] at hj
  omega

/-- As long as a reader was not read from, no byte of it is behind. -/
theorem passed_eq_zero (hnothing : d.buffered n = []) {j : Nat}
    (h : ∀ k < j, ¬ d.ReadsAt steps n k) : d.passed steps n j = 0 := by
  have hreader : (d.afterSteps steps j).reader n = d.reader n :=
    reader_afterSteps (Nat.zero_le j) fun k _ hkj => h k hkj
  have hlength : (d.unread n).length ≤ ((d.afterSteps steps j).unread n).length := by
    rw [unread, unread, hnothing, hreader, List.nil_append, List.length_append]
    exact Nat.le_add_left _ _
  exact Nat.sub_eq_zero_of_le hlength

/-- How the lines from reader `n` lie in its text. -/
structure Segmented (d : Devices) (steps : Nat → ConsoleStep) (n : Nat) : Prop where
  /-- The first line starts with the text. -/
  start : ∀ j, (∀ k < j, ¬ d.ReadsAt steps n k) → d.passed steps n j = 0
  /-- Each line is made from the bytes that are passed with it. -/
  segment : ∀ k, d.ReadsAt steps n k →
    d.passed steps n k ≤ d.passed steps n (k + 1) ∧
      d.passed steps n (k + 1) ≤ (d.reader n).pending.length ∧
      LineRead.MadeFrom (d.reader n).ending
        ((d.reader n).pending.extract (d.passed steps n k) (d.passed steps n (k + 1)))
        (d.afterSteps steps k).readConsole.1
  /-- A later line is made from later bytes. -/
  ordered : ∀ i j, d.ReadsAt steps n i → d.ReadsAt steps n j → i < j →
    d.passed steps n (i + 1) ≤ d.passed steps n j
  /-- Between a line and the next one no more is skipped than fits beside a line break into the
  buffer. -/
  gap : ∀ i j, d.ReadsAt steps n i → d.ReadsAt steps n j → i < j →
    (∀ k, i < k → k < j → ¬ d.ReadsAt steps n k) →
      d.passed steps n j ≤ d.passed steps n (i + 1) + 4095
  /-- Nothing is skipped unless the console is closed or reads from another reader in between. -/
  adjacent : ∀ i j, d.ReadsAt steps n i → d.ReadsAt steps n j → i < j →
    (∀ k, i < k → k < j → ¬ d.ReadsAt steps n k ∧ ¬ d.ForgetsAt steps n k) →
      d.passed steps n j = d.passed steps n (i + 1)

/-- Whatever is done to a console that starts with nothing read ahead, the lines that it delivers
from a reader are made from segments of its text in order, of which two neighbours leave out nothing
or, if the console was closed or read from another reader in between, at most what it had read
ahead. -/
theorem deliveries_are_segments {d : Devices} (hfresh : d.console.ahead = .none)
    (steps : Nat → ConsoleStep) (n : Nat) : Segmented d steps n := by
  have hnothing : ∀ m, d.buffered m = [] := by
    intro m
    rw [buffered, hfresh]
  have htext : d.unread n = (d.reader n).pending := by
    rw [unread, hnothing]
    rfl
  have hroom : d.LeavesRoom := by
    intro m
    rw [hnothing]
    decide
  refine ⟨fun j => passed_eq_zero (hnothing n), fun k hk => ⟨passed_mono (Nat.le_succ k), ?_, ?_⟩,
    ?_, ?_, ?_⟩
  · rw [← htext]
    exact Nat.sub_le _ _
  · have hmade := madeFrom_of_readsAt hk
    rw [ending_afterSteps, htext] at hmade
    exact hmade
  · intro i j _ _ hij
    exact passed_mono hij
  · intro i j _ _ hij hnone
    exact passed_le_of_not_readsAt hroom hij fun k hik hkj => hnone k hik hkj
  · intro i j _ _ hij hnone
    unfold passed
    rw [unread_afterSteps_eq hij (fun k hik hkj => (hnone k hik hkj).1)
      fun k hik hkj => (hnone k hik hkj).2]

def twoReaders : Devices :=
  initial [⟨[ofString "a\nb", ofString "b\nc\n"], .endOfFile⟩,
    ⟨[ofString "x\n"], .endOfFile⟩] []

def swapping : Nat → ConsoleStep
  | 0 => .attach (some 0)
  | 3 => .attach (some 1)
  | 5 => .attach (some 0)
  | _ => .read

theorem deliveries_are_segments_swapping :
    twoReaders.console.ahead = .none ∧ twoReaders.ReadsAt swapping 0 1 ∧
      twoReaders.ReadsAt swapping 0 2 ∧ twoReaders.ReadsAt swapping 0 6 ∧
      twoReaders.passed swapping 0 1 = 0 ∧
      twoReaders.passed swapping 0 2 = twoReaders.passed swapping 0 (1 + 1) ∧
      twoReaders.passed swapping 0 6 ≤ twoReaders.passed swapping 0 (2 + 1) + 4095 := by
  have hsegmented := @deliveries_are_segments twoReaders rfl swapping 0
  have hfirst : twoReaders.ReadsAt swapping 0 1 := ⟨rfl, rfl⟩
  have hsecond : twoReaders.ReadsAt swapping 0 2 := ⟨rfl, input_step _ _⟩
  have hthird : twoReaders.ReadsAt swapping 0 6 := ⟨rfl, input_step _ _⟩
  have hother : (twoReaders.afterSteps swapping 4).console.input = some 1 := input_step _ _
  refine ⟨rfl, hfirst, hsecond, hthird, hsegmented.start 1 ?_,
    hsegmented.adjacent 1 2 hfirst hsecond (by decide) ?_,
    hsegmented.gap 2 6 hsecond hthird (by decide) ?_⟩
  · rintro k hk ⟨hread, -⟩
    obtain rfl : k = 0 := by omega
    simp [swapping] at hread
  · intro k hik hkj
    omega
  · rintro k hik hkj ⟨hread, hinput⟩
    have hcases : k = 3 ∨ k = 4 ∨ k = 5 := by omega
    rcases hcases with rfl | rfl | rfl
    · simp [swapping] at hread
    · simp [hother] at hinput
    · simp [swapping] at hread

end Devices

end RegisterMachine

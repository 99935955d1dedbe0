import RegisterMachine.Device.LineBuffer

/-!
# Whole lines out of a buffer

Reading a line takes the bytes up to the first line break off the buffered bytes and
those still to come, or all of them if there is none. How full the buffer was and how
the reader cuts its text only decide what stays in the buffer, and that is less than
its capacity.
-/
namespace RegisterMachine

open Text (newline)

namespace Reader

theorem takeChunk_eq_none {limit : Nat} {chunks : List Text} (h : takeChunk limit chunks = none) :
    chunks.flatten = [] := by
  induction chunks with
  | nil => rfl
  | cons chunk chunks ih =>
      cases chunk with
      | nil => simpa using ih (by simpa [takeChunk] using h)
      | cons b more => simp [takeChunk] at h

theorem pending_of_read?_eq_none {limit : Nat} {r : Reader} (h : r.read? limit = none) :
    r.pending = [] := by
  rw [read?, Option.map_eq_none_iff] at h
  exact takeChunk_eq_none h

theorem ending_of_read? {limit : Nat} {r s : Reader} {bytes : Text}
    (h : r.read? limit = some (bytes, s)) : s.ending = r.ending := by
  simp only [read?, Option.map_eq_some_iff, Prod.exists, Prod.mk.injEq] at h
  obtain ⟨_, chunks, -, -, rfl⟩ := h
  rfl

theorem length_takeChunk_le {limit : Nat} {chunks rest : List Text} {bytes : Text}
    (h : takeChunk limit chunks = some (bytes, rest)) : bytes.length ≤ limit := by
  induction chunks with
  | nil => simp [takeChunk] at h
  | cons chunk chunks ih =>
      cases chunk with
      | nil => exact ih (by simpa [takeChunk] using h)
      | cons b more =>
          simp only [takeChunk, Option.some.injEq, Prod.mk.injEq] at h
          obtain ⟨rfl, -⟩ := h
          exact List.length_take_le _ _

/-- A read hands out no more than it is asked for. -/
theorem length_le_of_read? {limit : Nat} {r s : Reader} {bytes : Text}
    (h : r.read? limit = some (bytes, s)) : bytes.length ≤ limit := by
  simp only [read?, Option.map_eq_some_iff, Prod.exists, Prod.mk.injEq] at h
  obtain ⟨_, chunks, h, rfl, -⟩ := h
  exact length_takeChunk_le h

end Reader

namespace LineBuffer

theorem breakLoop_eq_none {passed t : Text} (h : breakLoop passed t = none) : newline ∉ t := by
  induction t generalizing passed with
  | nil => simp
  | cons b t ih =>
      rw [breakLoop] at h
      by_cases hb : b = newline
      · simp [hb] at h
      · rw [if_neg hb] at h
        have htail := ih h
        simp [Ne.symm hb, htail]

theorem breakLoop_eq_some {passed t line rest : Text}
    (h : breakLoop passed t = some (line, rest)) :
    ∃ before, newline ∉ before ∧ line = passed.reverse ++ (before ++ [newline]) := by
  induction t generalizing passed with
  | nil => simp [breakLoop] at h
  | cons b t ih =>
      rw [breakLoop] at h
      by_cases hb : b = newline
      · rw [if_pos hb] at h
        simp only [Option.some.injEq, Prod.mk.injEq] at h
        obtain ⟨rfl, -⟩ := h
        exact ⟨[], by simp, by simp [hb]⟩
      · rw [if_neg hb] at h
        obtain ⟨before, hbefore, hline⟩ := ih h
        refine ⟨b :: before, by simp [Ne.symm hb, hbefore], ?_⟩
        rw [hline]
        simp

theorem breakLine?_eq_some {t line rest : Text} (h : breakLine? t = some (line, rest)) :
    ∃ before, newline ∉ before ∧ line = before ++ [newline] := by
  simpa using breakLoop_eq_some h

/-- What kind of piece it is, with the buffer and the reader behind it; `ending` is how the reader
ends. Only a whole line leaves something in the buffer. -/
inductive Cut (ending : Ending) : Piece → Text → Reader → Prop
  | line {before buffer : Text} {reader : Reader} : newline ∉ before →
      Cut ending (.line (before ++ [newline])) buffer reader
  | full {bytes : Text} {reader : Reader} : newline ∉ bytes → Cut ending (.full bytes) [] reader
  | last {bytes : Text} {reader : Reader} : newline ∉ bytes → reader.pending = [] →
      Cut ending (.last bytes ending) [] reader

theorem cut_nextPiece {buffer buffer' : Text} {reader reader' : Reader} {piece : Piece}
    (h : nextPiece buffer reader = (piece, buffer', reader')) :
    Cut reader.ending piece buffer' reader' := by
  fun_induction nextPiece buffer reader with
  | case1 buffer reader line rest hb =>
      cases h
      obtain ⟨before, hbefore, rfl⟩ := breakLine?_eq_some hb
      exact .line hbefore
  | case2 buffer reader hb hfull =>
      cases h
      exact .full (breakLoop_eq_none hb)
  | case3 buffer reader hb hfull hread =>
      cases h
      exact .last (breakLoop_eq_none hb) (Reader.pending_of_read?_eq_none hread)
  | case4 buffer reader hb hfull bytes next hread hlt ih =>
      rw [← Reader.ending_of_read? hread]
      exact ih h

/-- The reader still ends in the same way, and has only handed out bytes from its front. -/
theorem reader_nextPiece {buffer buffer' : Text} {reader reader' : Reader} {piece : Piece}
    (h : nextPiece buffer reader = (piece, buffer', reader')) :
    reader'.ending = reader.ending ∧ reader'.pending <:+ reader.pending := by
  fun_induction nextPiece buffer reader with
  | case1 => cases h; exact ⟨rfl, List.suffix_rfl⟩
  | case2 => cases h; exact ⟨rfl, List.suffix_rfl⟩
  | case3 => cases h; exact ⟨rfl, List.suffix_rfl⟩
  | case4 buffer reader hb hfull bytes next hread hlt ih =>
      obtain ⟨hending, hpending⟩ := ih h
      have hnext : next.pending <:+ reader.pending := ⟨bytes, (Reader.pending_of_read? hread).symm⟩
      exact ⟨hending.trans (Reader.ending_of_read? hread), hpending.trans hnext⟩

/-- A piece leaves room in the buffer. -/
theorem length_nextPiece_lt {buffer buffer' : Text} {reader reader' : Reader} {piece : Piece}
    (hbuffer : buffer.length ≤ capacity)
    (h : nextPiece buffer reader = (piece, buffer', reader')) : buffer'.length < capacity := by
  have hpos : 0 < capacity := by decide
  fun_induction nextPiece buffer reader with
  | case1 buffer reader line rest hb =>
      cases h
      obtain ⟨before, -, rfl⟩ := breakLine?_eq_some hb
      have hlength := congrArg List.length (append_of_breakLine? hb)
      simp only [List.length_append, List.length_singleton] at hlength
      omega
  | case2 => cases h; exact hpos
  | case3 => cases h; exact hpos
  | case4 buffer reader hb hfull bytes next hread hlt ih =>
      have hbytes := Reader.length_le_of_read? hread
      refine ih ?_ h
      rw [List.length_append]
      omega

/-- A line is taken off the front of a text: up to and including its first line break, or all of
the text, which then ends with it. -/
inductive TakesLine (ending : Ending) : Text → Text → Option Ending → Text → Prop
  | broken {before rest : Text} : newline ∉ before →
      TakesLine ending (before ++ newline :: rest) (before ++ [newline]) none rest
  | rest {t : Text} : newline ∉ t → TakesLine ending t t (some ending) []

/-- What a line takes and what it leaves is the whole text. -/
theorem TakesLine.append_eq {ending : Ending} {t raw rest : Text} {ended : Option Ending}
    (h : TakesLine ending t raw ended rest) : raw ++ rest = t := by
  cases h <;> simp

/-- Bytes in front that hold no line break belong to the line. -/
theorem TakesLine.cons_front {ending : Ending} {t raw rest front : Text} {ended : Option Ending}
    (hfront : newline ∉ front) (h : TakesLine ending t raw ended rest) :
    TakesLine ending (front ++ t) (front ++ raw) ended rest := by
  cases h with
  | broken hbefore =>
      rw [← List.append_assoc, ← List.append_assoc]
      exact .broken (by simp [hfront, hbefore])
  | rest ht => exact .rest (by simp [hfront, ht])

/-- What reading a line does to a buffer and a reader. -/
structure ReadsLine (buffer : Text) (reader : Reader) (raw : Text) (ended : Option Ending)
    (buffer' : Text) (reader' : Reader) : Prop where
  takes : TakesLine reader.ending (buffer ++ reader.pending) raw ended (buffer' ++ reader'.pending)
  ending : reader'.ending = reader.ending
  pending : reader'.pending <:+ reader.pending
  length : buffer.length ≤ capacity → buffer'.length < capacity

/-- A line takes what stands before the first line break, whatever pieces it comes in. Only a full
piece is followed by another. -/
theorem readsLine_wholeLine {buffer buffer' raw : Text} {reader reader' : Reader}
    {ended : Option Ending} (h : wholeLine buffer reader = (raw, ended, buffer', reader')) :
    ReadsLine buffer reader raw ended buffer' reader' := by
  fun_induction wholeLine buffer reader generalizing raw with
  | case1 buffer reader bytes next reader₁ hpiece =>
      cases h
      have hbytes := bytes_nextPiece hpiece
      obtain ⟨hending, hpending⟩ := reader_nextPiece hpiece
      refine ⟨?_, hending, hpending, fun hlength => length_nextPiece_lt hlength hpiece⟩
      cases cut_nextPiece hpiece with
      | line hbefore =>
          rw [← hbytes, Piece.bytes, List.append_assoc, List.singleton_append]
          exact .broken hbefore
  | case2 buffer reader bytes ending next reader₁ hpiece =>
      cases h
      have hbytes := bytes_nextPiece hpiece
      obtain ⟨hending, hpending⟩ := reader_nextPiece hpiece
      refine ⟨?_, hending, hpending, fun hlength => length_nextPiece_lt hlength hpiece⟩
      cases cut_nextPiece hpiece with
      | last hbytes' hnone =>
          rw [← hbytes, Piece.bytes, hnone, List.append_nil, List.append_nil]
          exact .rest hbytes'
  | case3 buffer reader bytes next reader₁ hpiece hlt more ended' rest hmore ih =>
      cases h
      have hbytes := bytes_nextPiece hpiece
      obtain ⟨hending, hpending⟩ := reader_nextPiece hpiece
      have htail := ih hmore
      refine ⟨?_, htail.ending.trans hending, htail.pending.trans hpending, fun _ => ?_⟩
      · cases cut_nextPiece hpiece with
        | full hnone =>
            rw [← hbytes, Piece.bytes, ← hending]
            exact htail.takes.cons_front hnone
      · refine htail.length ?_
        cases cut_nextPiece hpiece with
        | full _ => exact Nat.zero_le _

end LineBuffer

end RegisterMachine

import RegisterMachine.Fault

/-!
# Readers

A reader delivers bytes in chunks and then ends, by end of file or by a failure
that repeats forever. What it has not delivered yet is `pending`; how the bytes
are cut into chunks is part of the reader.
-/
namespace RegisterMachine

/-- How a reader ends. -/
inductive Ending where
  | endOfFile
  | failure (message : Text)
  deriving DecidableEq, Repr

/-- The fault that reading past the end gives. -/
def Ending.fault : Ending → Fault
  | .endOfFile => .endOfInput
  | .failure message => .device message

/-- The chunks that are still to come, and what comes after them. -/
structure Reader where
  chunks : List Text
  ending : Ending
  deriving DecidableEq, Repr

namespace Reader

/-- A reader over a text that hands out as much as it is asked for. -/
def ofText (t : Text) : Reader := ⟨[t], .endOfFile⟩

instance : Inhabited Reader := ⟨⟨[], .endOfFile⟩⟩

/-- The bytes not yet delivered. -/
def pending (r : Reader) : Text := r.chunks.flatten

/-- At most `limit` bytes of the first chunk that has any, and the remaining chunks. -/
def takeChunk (limit : Nat) : List Text → Option (Text × List Text)
  | [] => none
  | [] :: rest => takeChunk limit rest
  | (b :: bytes) :: rest =>
      some ((b :: bytes).take limit, (b :: bytes).drop limit :: rest)

/-- One read of at most `limit` bytes; nothing at the end. -/
def read? (limit : Nat) (r : Reader) : Option (Text × Reader) :=
  (takeChunk limit r.chunks).map fun (bytes, chunks) => (bytes, { r with chunks })

theorem takeChunk_flatten {limit : Nat} {chunks rest : List Text} {bytes : Text}
    (h : takeChunk limit chunks = some (bytes, rest)) :
    bytes ++ rest.flatten = chunks.flatten := by
  induction chunks with
  | nil => simp [takeChunk] at h
  | cons chunk chunks ih =>
      cases chunk with
      | nil => simpa using ih (by simpa [takeChunk] using h)
      | cons b more =>
          simp only [takeChunk, Option.some.injEq, Prod.mk.injEq] at h
          obtain ⟨rfl, rfl⟩ := h
          rw [List.flatten_cons, ← List.append_assoc, List.take_append_drop, List.flatten_cons]

/-- A read hands out the beginning of what is pending. -/
theorem pending_of_read? {limit : Nat} {r s : Reader} {bytes : Text}
    (h : r.read? limit = some (bytes, s)) : r.pending = bytes ++ s.pending := by
  simp only [read?, Option.map_eq_some_iff, Prod.exists, Prod.mk.injEq] at h
  obtain ⟨_, chunks, h, rfl, rfl⟩ := h
  exact (takeChunk_flatten h).symm

theorem takeChunk_ne_nil {limit : Nat} (hl : 0 < limit) {chunks rest : List Text} {bytes : Text}
    (h : takeChunk limit chunks = some (bytes, rest)) : bytes ≠ [] := by
  induction chunks with
  | nil => simp [takeChunk] at h
  | cons chunk chunks ih =>
      cases chunk with
      | nil => exact ih (by simpa [takeChunk] using h)
      | cons b more =>
          simp only [takeChunk, Option.some.injEq, Prod.mk.injEq] at h
          obtain ⟨rfl, rfl⟩ := h
          simp; omega

/-- A read of at least one byte makes progress. -/
theorem length_pending_lt {limit : Nat} (hl : 0 < limit) {r s : Reader} {bytes : Text}
    (h : r.read? limit = some (bytes, s)) : s.pending.length < r.pending.length := by
  have hp := pending_of_read? h
  simp only [read?, Option.map_eq_some_iff, Prod.exists, Prod.mk.injEq] at h
  obtain ⟨_, chunks, h, rfl, rfl⟩ := h
  have := List.length_pos_iff.2 (takeChunk_ne_nil hl h)
  rw [hp, List.length_append]
  omega

end Reader

end RegisterMachine

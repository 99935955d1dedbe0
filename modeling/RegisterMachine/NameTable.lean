import RegisterMachine.Text.Basic

/-!
# Tables of named integers

Label tables and constants for expressions map names to integers. Entries are
kept in byte order of their names, one per name, so a table does not remember
the order in which it was filled.
-/
namespace RegisterMachine

/-- A finite map from names to integers, listed in byte order of the names. -/
structure NameTable where
  entries : List (Text × Int64)
  sorted : entries.Pairwise fun entry other => entry.1.before other.1
  deriving DecidableEq, Repr

namespace NameTable

def empty : NameTable := ⟨[], .nil⟩

instance : Inhabited NameTable := ⟨empty⟩

/-- Puts an entry in its place; an entry of the same name is replaced. -/
def insertEntry (name : Text) (value : Int64) : List (Text × Int64) → List (Text × Int64)
  | [] => [(name, value)]
  | (other, held) :: rest =>
      if name = other then (name, value) :: rest
      else if name.before other then (name, value) :: (other, held) :: rest
      else (other, held) :: insertEntry name value rest

theorem mem_insertEntry {name : Text} {value : Int64} {entries : List (Text × Int64)}
    {entry : Text × Int64} (h : entry ∈ insertEntry name value entries) :
    entry = (name, value) ∨ entry ∈ entries := by
  induction entries with
  | nil => exact .inl (List.mem_singleton.1 h)
  | cons first rest ih =>
      rw [insertEntry] at h
      split at h
      · rw [List.mem_cons] at h ⊢
        obtain h | h := h
        · exact .inl h
        · exact .inr (.inr h)
      split at h
      · exact List.mem_cons.1 h
      · rw [List.mem_cons] at h ⊢
        obtain h | h := h
        · exact .inr (.inl h)
        · obtain h | h := ih h
          · exact .inl h
          · exact .inr (.inr h)

theorem sorted_insertEntry (name : Text) (value : Int64) {entries : List (Text × Int64)}
    (h : entries.Pairwise fun entry other => entry.1.before other.1) :
    (insertEntry name value entries).Pairwise fun entry other => entry.1.before other.1 := by
  induction entries with
  | nil => simp [insertEntry]
  | cons first rest ih =>
      rw [List.pairwise_cons] at h
      rw [insertEntry]
      split
      · rename_i he
        exact List.pairwise_cons.2 ⟨fun entry hentry => by
          rw [he]
          exact h.1 entry hentry, h.2⟩
      rename_i hne
      split
      · rename_i hb
        refine List.pairwise_cons.2 ⟨fun entry hentry => ?_, List.pairwise_cons.2 h⟩
        obtain rfl | hentry := List.mem_cons.1 hentry
        · exact hb
        · exact Text.before_trans hb (h.1 entry hentry)
      · rename_i hb
        refine List.pairwise_cons.2 ⟨fun entry hentry => ?_, ih h.2⟩
        obtain rfl | hentry := mem_insertEntry hentry
        · exact (Text.before_or_before hne).resolve_left hb
        · exact h.1 entry hentry

/-- The table with `name` bound to `value`. -/
def insert (table : NameTable) (name : Text) (value : Int64) : NameTable :=
  ⟨insertEntry name value table.entries, sorted_insertEntry name value table.sorted⟩

def find? (table : NameTable) (name : Text) : Option Int64 :=
  (table.entries.find? (·.1 == name)).map (·.2)

def contains (table : NameTable) (name : Text) : Bool := (table.find? name).isSome

/-- The table with all of `pairs` bound in turn, so that later pairs win. -/
def insertAll (table : NameTable) (pairs : List (Text × Int64)) : NameTable :=
  pairs.foldl (fun t p => t.insert p.1 p.2) table

/-- The table of a list of pairs; of several pairs with one name the last wins. -/
def ofPairs (pairs : List (Text × Int64)) : NameTable := empty.insertAll pairs

/-- The names bound to an integer, in byte order. -/
def namesOf (table : NameTable) (value : Int64) : List Text :=
  (table.entries.filter (·.2 == value)).map (·.1)

end NameTable

/-- Several sequences of pairs as one, up to `limit` pairs if there is a limit. Binding the
result in order lets later sequences win. -/
def concatPairs (limit : Option Nat) (sequences : List (List (Text × Int64))) :
    List (Text × Int64) :=
  match limit with
  | none => sequences.flatten
  | some n => sequences.flatten.take n

end RegisterMachine

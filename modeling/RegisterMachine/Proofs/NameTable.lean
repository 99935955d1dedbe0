import Mathlib.Data.List.Nodup
import RegisterMachine.NameTable

/-!
# Name tables forget the order of insertion

Entries stand in the order of their names, each name once. Two such tables with the
same entries are equal, so a table depends on what was inserted and not on when.
-/
namespace RegisterMachine

namespace NameTable

def names (table : NameTable) : List Text := table.entries.map (·.1)

@[simp] theorem entries_ofPairs_singleton (entry : Text × Int64) :
    (ofPairs [entry]).entries = [entry] := rfl

theorem contains_iff {table : NameTable} {name : Text} :
    table.contains name ↔ name ∈ table.names := by
  simp [contains, find?, names]

theorem insertEntry_perm {name : Text} {entries : List (Text × Int64)}
    (h : name ∉ entries.map (·.1)) (value : Int64) :
    (insertEntry name value entries).Perm ((name, value) :: entries) := by
  induction entries with
  | nil => exact .refl _
  | cons first rest ih =>
      rw [List.map_cons, List.mem_cons, not_or] at h
      rw [insertEntry, if_neg h.1]
      split
      · exact .refl _
      · exact ((ih h.2).cons first).trans (.swap _ _ _)

/-- Tables with the same entries are equal. -/
theorem eq_of_perm {table other : NameTable} (hperm : table.entries.Perm other.entries) :
    table = other := by
  obtain ⟨entries, hsorted⟩ := table
  obtain ⟨entries', hsorted'⟩ := other
  congr 1
  refine hperm.eq_of_pairwise (fun entry entry' _ _ hb hb' => ?_) hsorted hsorted'
  exact absurd (Text.before_trans hb hb') (Text.not_before_self _)

theorem nodup_names (table : NameTable) : table.names.Nodup := by
  rw [names, List.Nodup, List.pairwise_map]
  refine table.sorted.imp fun {entry other} hb he => ?_
  rw [he] at hb
  exact Text.not_before_self _ hb

/-- Fresh names in any order end up as entries of the table. -/
theorem insertAll_perm {table : NameTable} {pairs : List (Text × Int64)}
    (h : (table.names ++ pairs.map (·.1)).Nodup) :
    (table.insertAll pairs).entries.Perm (table.entries ++ pairs) := by
  induction pairs generalizing table with
  | nil => simp [insertAll]
  | cons pair pairs ih =>
      have hfresh : pair.1 ∉ table.names := fun hmem =>
        (List.nodup_append.1 h).2.2 pair.1 hmem pair.1 (by simp) rfl
      have hperm : (table.insert pair.1 pair.2).entries.Perm (pair :: table.entries) :=
        insertEntry_perm hfresh pair.2
      have hnames : ((table.insert pair.1 pair.2).names ++ pairs.map (·.1)).Perm
          (table.names ++ pair.1 :: pairs.map (·.1)) :=
        ((hperm.map (·.1)).append_right _).trans List.perm_middle.symm
      exact (ih (hnames.nodup_iff.2 h)).trans
        ((hperm.append_right pairs).trans List.perm_middle.symm)

theorem mem_names_insert {table : NameTable} {name other : Text} {value : Int64} :
    other ∈ (table.insert name value).names ↔ other = name ∨ other ∈ table.names := by
  simp only [names, insert]
  generalize table.entries = entries
  induction entries with
  | nil => simp [insertEntry]
  | cons first rest ih =>
      rw [insertEntry]
      split
      · rename_i he
        simp [he]
      split
      · simp
      · rw [List.map_cons, List.mem_cons, ih, List.map_cons, List.mem_cons]
        exact or_left_comm

theorem mem_names_insertAll {table : NameTable} {pairs : List (Text × Int64)} {name : Text} :
    name ∈ (table.insertAll pairs).names ↔ name ∈ table.names ∨ name ∈ pairs.map (·.1) := by
  induction pairs generalizing table with
  | nil => simp [insertAll]
  | cons pair pairs ih =>
      have hcons : table.insertAll (pair :: pairs) = (table.insert pair.1 pair.2).insertAll pairs :=
        rfl
      rw [hcons, ih, mem_names_insert, List.map_cons, List.mem_cons]
      exact or_assoc.trans or_left_comm

/-- A name is bound to the integer of its entry. -/
theorem find?_eq_some_iff {table : NameTable} {name : Text} {value : Int64} :
    table.find? name = some value ↔ (name, value) ∈ table.entries := by
  rw [find?, Option.map_eq_some_iff]
  constructor
  · rintro ⟨entry, hfind, rfl⟩
    have hname : entry.1 = name := by simpa using List.find?_some hfind
    rw [← hname]
    exact List.mem_of_find?_eq_some hfind
  · intro hmem
    have hsome : (table.entries.find? (·.1 == name)).isSome := by
      rw [List.find?_isSome]
      exact ⟨_, hmem, by simp⟩
    obtain ⟨entry, hfind⟩ := Option.isSome_iff_exists.1 hsome
    have hname : entry.1 = name := by simpa using List.find?_some hfind
    have hsame : entry = (name, value) := by
      exact List.inj_on_of_nodup_map table.nodup_names (List.mem_of_find?_eq_some hfind) hmem hname
    exact ⟨entry, hfind, by rw [hsame]⟩

/-- A name is bound to what was inserted last under it. -/
theorem find?_insert (table : NameTable) (name : Text) (value : Int64) (other : Text) :
    (table.insert name value).find? other =
      if name = other then some value else table.find? other := by
  simp only [find?, insert]
  generalize table.entries = entries
  induction entries with
  | nil =>
      by_cases he : name = other
      · simp [insertEntry, he]
      · simp [insertEntry, he]
  | cons first rest ih =>
      obtain ⟨held, n⟩ := first
      rw [insertEntry]
      by_cases hsame : name = held
      · subst hsame
        by_cases he : name = other
        · simp [he]
        · simp [he]
      rw [if_neg hsame]
      by_cases hbefore : name.before held
      · rw [if_pos hbefore]
        by_cases he : name = other
        · simp [he]
        · simp [he]
      rw [if_neg hbefore]
      by_cases hheld : held = other
      · subst hheld
        simp [hsame]
      · rw [List.find?_cons_of_neg (by simpa using hheld), ih,
          List.find?_cons_of_neg (by simpa using hheld)]

theorem find?_insertAll_of_not_mem {table : NameTable} {pairs : List (Text × Int64)} {name : Text}
    (h : name ∉ pairs.map (·.1)) : (table.insertAll pairs).find? name = table.find? name := by
  induction pairs generalizing table with
  | nil => rfl
  | cons pair pairs ih =>
      rw [List.map_cons, List.mem_cons, not_or] at h
      have hcons : table.insertAll (pair :: pairs) = (table.insert pair.1 pair.2).insertAll pairs :=
        rfl
      rw [hcons, ih h.2, find?_insert, if_neg (Ne.symm h.1)]

/-- Tables that bind the same names alike are equal. -/
theorem ext_find? {table other : NameTable} (hfind : ∀ name, table.find? name = other.find? name) :
    table = other := by
  have hnodup := table.nodup_names.of_map _
  have hnodup' := other.nodup_names.of_map _
  refine eq_of_perm ((List.perm_ext_iff_of_nodup hnodup hnodup').2 ?_)
  rintro ⟨name, value⟩
  rw [← find?_eq_some_iff, ← find?_eq_some_iff, hfind]

/-- The pairs are the entries of the table, in some order. -/
def Yields (table : NameTable) (pairs : List (Text × Int64)) : Prop := pairs.Perm table.entries

theorem insertAll_append (table : NameTable) (pairs pairs' : List (Text × Int64)) :
    table.insertAll (pairs ++ pairs') = (table.insertAll pairs).insertAll pairs' :=
  List.foldl_append

theorem find?_insertAll_of_mem {table : NameTable} {pairs : List (Text × Int64)} {name : Text}
    {value : Int64} (hnodup : (pairs.map (·.1)).Nodup) (h : (name, value) ∈ pairs) :
    (table.insertAll pairs).find? name = some value := by
  induction pairs generalizing table with
  | nil => cases h
  | cons pair pairs ih =>
      have hcons : table.insertAll (pair :: pairs) = (table.insert pair.1 pair.2).insertAll pairs :=
        rfl
      rw [List.map_cons, List.nodup_cons] at hnodup
      rw [hcons]
      obtain rfl | h := List.mem_cons.1 h
      · rw [find?_insertAll_of_not_mem hnodup.1, find?_insert, if_pos rfl]
      · exact ih hnodup.2 h

/-- What a sequence of pairs binds hides what was bound before, whatever the order of the pairs. -/
theorem find?_insertAll_of_yields {other : NameTable} {pairs : List (Text × Int64)}
    (hpairs : other.Yields pairs) (table : NameTable) (name : Text) :
    (table.insertAll pairs).find? name = (other.find? name).or (table.find? name) := by
  have hnames : (pairs.map (·.1)).Perm other.names := hpairs.map (·.1)
  cases hfind : other.find? name with
  | some value =>
      have hmem : (name, value) ∈ pairs := hpairs.mem_iff.2 (find?_eq_some_iff.1 hfind)
      exact find?_insertAll_of_mem (hnames.nodup_iff.2 other.nodup_names) hmem
  | none =>
      have hfresh : name ∉ pairs.map (·.1) := by
        rw [hnames.mem_iff, ← contains_iff, contains, hfind]
        simp
      rw [find?_insertAll_of_not_mem hfresh, Option.none_or]

/-- All orders of the entries of a table have the same effect on another one. -/
theorem insertAll_eq_of_yields {table other : NameTable} {pairs pairs' : List (Text × Int64)}
    (hpairs : other.Yields pairs) (hpairs' : other.Yields pairs') :
    table.insertAll pairs = table.insertAll pairs' := by
  refine ext_find? fun name => ?_
  rw [find?_insertAll_of_yields hpairs, find?_insertAll_of_yields hpairs']

/-- The entries of a table in any order make up the table. -/
theorem ofPairs_of_yields {table : NameTable} {pairs : List (Text × Int64)}
    (hpairs : table.Yields pairs) : ofPairs pairs = table := by
  refine ext_find? fun name => ?_
  rw [ofPairs, find?_insertAll_of_yields hpairs]
  exact Option.or_none

end NameTable

end RegisterMachine

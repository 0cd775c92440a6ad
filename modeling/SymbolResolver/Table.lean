/-!
# Tables of texts

Finite maps from texts to texts, kept in increasing order of their keys, so that a table is determined
by what it maps and is always written in one order.
-/

namespace SymbolResolver

namespace TextTable

/-- Keys increase along the list. -/
abbrev Increasing (entries : List (String × String)) : Prop :=
  entries.Pairwise fun earlier later => earlier.1 < later.1

/-- Puts an entry in its place. An entry with the same key is replaced. -/
def insertEntry (key value : String) : List (String × String) → List (String × String)
  | [] => [(key, value)]
  | entry :: entries =>
    if key < entry.1 then (key, value) :: entry :: entries
    else if key = entry.1 then (key, value) :: entries
    else entry :: insertEntry key value entries

theorem fst_of_mem_insertEntry {key value : String} {entries : List (String × String)}
    {found : String × String} (member : found ∈ insertEntry key value entries) :
    found.1 = key ∨ found ∈ entries := by
  induction entries with
  | nil => simp_all [insertEntry]
  | cons entry entries induction =>
    simp only [insertEntry] at member
    split at member
    · rcases List.mem_cons.mp member with rfl | older
      · exact .inl rfl
      · exact .inr older
    · split at member
      · rcases List.mem_cons.mp member with rfl | older
        · exact .inl rfl
        · exact .inr (List.mem_cons_of_mem _ older)
      · rcases List.mem_cons.mp member with rfl | older
        · exact .inr List.mem_cons_self
        · exact (induction older).imp_right (List.mem_cons_of_mem _)

theorem increasing_insertEntry (key value : String) {entries : List (String × String)}
    (increasing : Increasing entries) : Increasing (insertEntry key value entries) := by
  induction entries with
  | nil => simp [insertEntry]
  | cons entry entries induction =>
    obtain ⟨first, rest⟩ := List.pairwise_cons.mp increasing
    simp only [insertEntry]
    split
    · rename_i before
      refine List.pairwise_cons.mpr ⟨fun later member => ?_, increasing⟩
      rcases List.mem_cons.mp member with rfl | older
      · exact before
      · exact String.lt_trans before (first later older)
    · split
      · rename_i same
        exact List.pairwise_cons.mpr ⟨fun later member => same ▸ first later member, rest⟩
      · rename_i notBefore different
        refine List.pairwise_cons.mpr ⟨fun later member => ?_, induction rest⟩
        rcases fst_of_mem_insertEntry member with same | older
        · rw [same]
          exact Std.lt_of_le_of_ne notBefore fun equal => different equal.symm
        · exact first later older

end TextTable

/-- A finite map from texts to texts. -/
structure TextTable where
  /-- The entries, in increasing order of their keys. -/
  entries : List (String × String)
  /-- The order of the entries. -/
  increasing : TextTable.Increasing entries
deriving DecidableEq, Repr

namespace TextTable

/-- The table without entries. -/
def empty : TextTable := ⟨[], List.Pairwise.nil⟩

/-- Maps a key to a value. -/
def insert (table : TextTable) (key value : String) : TextTable :=
  ⟨insertEntry key value table.entries, increasing_insertEntry key value table.increasing⟩

/-- The value of a key. -/
def get? (table : TextTable) (key : String) : Option String := table.entries.lookup key

/-- The number of keys. -/
def size (table : TextTable) : Nat := table.entries.length

/-- The table of a list of pairs. Of two pairs with one key the later one counts. -/
def ofList (pairs : List (String × String)) : TextTable :=
  pairs.foldl (fun table pair => table.insert pair.1 pair.2) empty

end TextTable

end SymbolResolver

import Mathlib.Data.List.Nodup
import SymbolResolver.Proofs.FilePaths
import SymbolResolver.Project.Discovery

/-!
# Listings of snapshots

Looking for snapshots walks down a directory and leaves out hidden places on the way. What it lists
can be said without the walk: the files below the directory whose name ends as those of snapshots do,
and whose location holds no hidden name (`Discovery.IsVisible`). In a tree whose directories have one
entry of a name (`Files.Node.Sound`) the walk comes by each of them once (`Discovery.mem_foundIn`,
`Discovery.nodup_foundIn`), and they are listed by the components of their paths
(`Discovery.listing_exact`).
-/

namespace SymbolResolver

namespace Files

/-! ## Trees -/

/-- A name that an entry of a directory can have: it is not empty and holds no slash. -/
def IsEntryName (name : String) : Prop := name ≠ "" ∧ '/' ∉ name.toList

instance (name : String) : Decidable (IsEntryName name) := inferInstanceAs (Decidable (_ ∧ _))

namespace Node

mutual

/-- A tree in which every directory has at most one entry of a name, and names that entries can have. -/
def Sound : Node → Prop
  | file _ => True
  | directory entries => EntriesSound entries

/-- Entries of a directory with different names, and with sound trees. -/
def EntriesSound : List (String × Node) → Prop
  | [] => True
  | (name, node) :: entries =>
    IsEntryName name ∧ name ∉ entries.map Prod.fst ∧ node.Sound ∧ EntriesSound entries

end

mutual

/-- Soundness is decided node by node. -/
def decideSound : (node : Node) → Decidable node.Sound
  | file _ => .isTrue trivial
  | directory entries => decideEntriesSound entries

/-- Soundness of entries is decided entry by entry. -/
def decideEntriesSound : (entries : List (String × Node)) → Decidable (EntriesSound entries)
  | [] => .isTrue trivial
  | (name, node) :: entries =>
    have := decideSound node
    have := decideEntriesSound entries
    inferInstanceAs (Decidable (_ ∧ name ∉ entries.map Prod.fst ∧ node.Sound ∧ EntriesSound entries))

end

instance (node : Node) : Decidable node.Sound := node.decideSound

theorem lookup_of_not_mem {entries : List (String × Node)} {name : String}
    (alone : name ∉ entries.map Prod.fst) : entries.lookup name = none := by
  rw [List.lookup_eq_none_iff]
  intro entry member
  rw [bne_iff_ne]
  rintro rfl
  exact alone (List.mem_map_of_mem member)

theorem sound_of_lookup {entries : List (String × Node)} (sound : EntriesSound entries)
    {name : String} {child : Node} (found : entries.lookup name = some child) :
    IsEntryName name ∧ child.Sound := by
  induction entries with
  | nil => cases found
  | cons entry entries ih =>
      rcases entry with ⟨other, node⟩
      obtain ⟨named, -, node_sound, rest_sound⟩ := sound
      rw [List.lookup_cons] at found
      split at found
      · rename_i same
        cases found
        rw [eq_of_beq same]
        exact ⟨named, node_sound⟩
      · exact ih rest_sound found

/-- Whatever stands in a sound tree is sound, and the names on the way to it are names of entries. -/
theorem Sound.get? {root : Node} (sound : root.Sound) {location : List String} {node : Node}
    (found : root.get? location = some node) :
    node.Sound ∧ ∀ name ∈ location, IsEntryName name := by
  induction location generalizing root with
  | nil =>
      cases found
      exact ⟨sound, nofun⟩
  | cons name location ih =>
      cases root with
      | file content => cases found
      | directory entries =>
          rw [get?_directory_cons] at found
          obtain ⟨child, in_entries, below⟩ := Option.bind_eq_some_iff.mp found
          obtain ⟨named, child_sound⟩ := sound_of_lookup sound in_entries
          obtain ⟨node_sound, others⟩ := ih child_sound below
          exact ⟨node_sound, List.forall_mem_cons.mpr ⟨named, others⟩⟩

end Node

/-! ## Components of paths -/

/-- The names between slashes, without those that stay in a directory. -/
def namesThrough (chars : List Char) : List String :=
  ((names chars).map String.ofList).filter fun name => Step.ofName name ≠ .stay

/-- The components of a path. Paths below one directory are compared by them. -/
def components (path : String) : List String := namesThrough path.toList

/-- The path of a location below a directory. -/
def pathTo (root : String) (location : List String) : String := location.foldl join root

theorem namesThrough_append (front back : List Char) :
    namesThrough (front ++ '/' :: back) = namesThrough front ++ namesThrough back := by
  rw [namesThrough, names_append, List.map_append, List.filter_append, namesThrough, namesThrough]

theorem namesThrough_nil : namesThrough [] = [] := by decide

theorem namesThrough_name {name : String} (named : IsEntryName name) (moves : name ≠ ".") :
    namesThrough name.toList = [name] := by
  have kept : Step.ofName name ≠ .stay := by
    rw [Step.ofName, if_neg (by simp [named.1, moves])]
    split <;> exact nofun
  rw [namesThrough, names_of_not_mem named.2, List.map_singleton, String.ofList_toList]
  exact List.filter_cons_of_pos (decide_eq_true kept)

/-- A name behind a path is its last component. -/
theorem components_join (base : String) {name : String} (named : IsEntryName name)
    (moves : name ≠ ".") : components (join base name) = components base ++ [name] := by
  have last := namesThrough_name named moves
  rw [join]
  split
  · rename_i empty
    rw [components, last, components, empty, namesThrough_nil, List.nil_append]
  · split
    · rename_i closed
      obtain ⟨front, spelled⟩ := List.getLast?_eq_some_iff.mp closed
      have chars : (base ++ name).toList = front ++ '/' :: name.toList := by
        rw [String.toList_append, spelled, List.append_assoc, List.singleton_append]
      rw [components, chars, namesThrough_append, last, components, spelled, namesThrough_append,
        namesThrough_nil, List.append_nil]
    · have chars : (base ++ "/" ++ name).toList = base.toList ++ '/' :: name.toList := by simp
      rw [components, chars, namesThrough_append, last, components]

theorem components_pathTo (root : String) {location : List String}
    (named : ∀ name ∈ location, IsEntryName name ∧ name ≠ ".") :
    components (pathTo root location) = components root ++ location := by
  induction location generalizing root with
  | nil => exact (List.append_nil _).symm
  | cons name location ih =>
      rw [List.forall_mem_cons] at named
      rw [pathTo, List.foldl_cons, ← pathTo, ih _ named.2,
        components_join root named.1.1 named.1.2, List.append_assoc, List.singleton_append]

/-- What two lists begin with in common does not matter for their order. -/
theorem compare_append_left (front left right : List String) :
    compare (front ++ left) (front ++ right) = compare left right := by
  induction front with
  | nil => rfl
  | cons name front ih =>
      have same : compare name name = .eq := Std.ReflCmp.compare_self
      rw [List.cons_append, List.cons_append, List.compare_eq_compareLex, List.compareLex_cons_cons,
        same, Ordering.eq_then, ← List.compare_eq_compareLex, ih]

end Files

namespace Discovery

open Files

/-! ## What a walk finds -/

/-- A location below a node where a file stands whose name ends as those of snapshots do, and that
holds no name beginning with a dot. -/
structure IsVisible (node : Node) (location : List String) : Prop where
  file : ∃ content, node.get? location = some (.file content)
  ending : ∃ name, location.getLast? = some name ∧ suffix.toList <:+ name.toList
  shown : ∀ name ∈ location, name.toList.head? ≠ some '.'

/-- What may follow a name whose entry is a node in the location of a snapshot. -/
def Leads (name : String) : Node → List String → Prop
  | .file _, rest => rest = [] ∧ suffix.toList <:+ name.toList
  | .directory entries, rest => IsVisible (.directory entries) rest

theorem not_isVisible_nil (node : Node) : ¬ IsVisible node [] := by
  rintro ⟨-, ⟨name, last, -⟩, -⟩
  cases last

/-- A snapshot below a directory is one of its entries or below one, and that entry is not hidden. -/
theorem isVisible_cons_iff {entries : List (String × Node)} {name : String} {rest : List String} :
    IsVisible (.directory entries) (name :: rest) ↔
      name.toList.head? ≠ some '.' ∧ ∃ child, entries.lookup name = some child ∧
        Leads name child rest := by
  constructor
  · rintro ⟨⟨content, found⟩, ⟨last, ends, ending⟩, shown⟩
    rw [Node.get?_directory_cons] at found
    obtain ⟨child, in_entries, below⟩ := Option.bind_eq_some_iff.mp found
    rw [List.forall_mem_cons] at shown
    refine ⟨shown.1, child, in_entries, ?_⟩
    cases child with
    | file other =>
        cases rest with
        | nil =>
            cases ends
            exact ⟨rfl, ending⟩
        | cons second others => cases below
    | directory inner =>
        cases rest with
        | nil => cases below
        | cons second others =>
            rw [List.getLast?_cons_cons] at ends
            exact ⟨⟨content, below⟩, ⟨last, ends, ending⟩, shown.2⟩
  · rintro ⟨name_shown, child, in_entries, leads⟩
    have found : (Node.directory entries).get? (name :: rest) = child.get? rest := by
      rw [Node.get?_directory_cons, in_entries, Option.bind_some]
    cases child with
    | file content =>
        obtain ⟨rfl, ending⟩ := leads
        exact ⟨⟨content, found⟩, ⟨name, rfl, ending⟩, List.forall_mem_singleton.mpr name_shown⟩
    | directory inner =>
        cases rest with
        | nil => exact (not_isVisible_nil _ leads).elim
        | cons second others =>
            obtain ⟨⟨content, below⟩, ⟨last, ends, ending⟩, shown⟩ := leads
            exact ⟨⟨content, found.trans below⟩, ⟨last, List.getLast?_cons_cons.trans ends, ending⟩,
              List.forall_mem_cons.mpr ⟨name_shown, shown⟩⟩

theorem isHidden_eq_true_iff {name : String} :
    isHidden name = true ↔ name.toList.head? = some '.' :=
  beq_iff_eq

theorem isSnapshotName_iff {name : String} :
    isSnapshotName name = true ↔ suffix.toList <:+ name.toList :=
  List.isSuffixOf_iff_suffix

mutual

theorem mem_foundAt {name : String} {location : List String} : ∀ {node : Node}, node.Sound →
    (location ∈ foundAt name node.shape ↔ ∃ rest, location = name :: rest ∧ Leads name node rest)
  | .file content, _ => by
    rw [Node.shape, foundAt]
    by_cases ending : isSnapshotName name = true
    · rw [if_pos ending, List.mem_singleton]
      constructor
      · rintro rfl
        exact ⟨[], rfl, rfl, isSnapshotName_iff.mp ending⟩
      · rintro ⟨_, rfl, rfl, -⟩
        rfl
    · rw [if_neg ending]
      refine iff_of_false List.not_mem_nil ?_
      rintro ⟨_, rfl, rfl, ends⟩
      exact ending (isSnapshotName_iff.mpr ends)
  | .directory entries, sound => by
    rw [Node.shape, foundAt, List.mem_map]
    constructor
    · rintro ⟨rest, member, rfl⟩
      exact ⟨rest, rfl, (mem_foundIn sound).mp member⟩
    · rintro ⟨rest, rfl, visible⟩
      exact ⟨rest, (mem_foundIn sound).mpr visible, rfl⟩

/-- The walk through the entries of a directory finds the visible snapshots below it. -/
theorem mem_foundIn {location : List String} : ∀ {entries : List (String × Node)},
    Node.EntriesSound entries →
    (location ∈ foundIn (Node.entryShapes entries) ↔ IsVisible (.directory entries) location)
  | [], _ => by
    refine iff_of_false List.not_mem_nil ?_
    rintro ⟨⟨content, found⟩, -, -⟩
    cases location <;> cases found
  | (name, node) :: entries, sound => by
    obtain ⟨-, alone, node_sound, rest_sound⟩ := sound
    have at_name : location ∈ (if isHidden name then [] else foundAt name node.shape) ↔
        name.toList.head? ≠ some '.' ∧ ∃ rest, location = name :: rest ∧ Leads name node rest := by
      by_cases hidden : isHidden name = true
      · rw [if_pos hidden]
        exact iff_of_false List.not_mem_nil fun both => both.1 (isHidden_eq_true_iff.mp hidden)
      · rw [if_neg hidden, mem_foundAt node_sound]
        exact (and_iff_right (mt isHidden_eq_true_iff.mpr hidden)).symm
    rw [Node.entryShapes, foundIn, List.mem_append, at_name, mem_foundIn rest_sound]
    cases location with
    | nil => simp [not_isVisible_nil]
    | cons first rest =>
        rw [isVisible_cons_iff, isVisible_cons_iff, List.lookup_cons]
        by_cases same : first = name
        · subst same
          simp [Node.lookup_of_not_mem alone]
        · have different : (first == name) = false := beq_eq_false_iff_ne.mpr same
          simp [same, different]

end

mutual

theorem nodup_foundAt {name : String} : ∀ {node : Node}, node.Sound →
    (foundAt name node.shape).Nodup
  | .file content, _ => by
    rw [Node.shape, foundAt]
    split
    · exact List.nodup_singleton _
    · exact List.nodup_nil
  | .directory entries, sound => by
    rw [Node.shape, foundAt]
    exact List.Nodup.map List.cons_injective (nodup_foundIn sound)

/-- The walk finds every snapshot once. -/
theorem nodup_foundIn : ∀ {entries : List (String × Node)}, Node.EntriesSound entries →
    (foundIn (Node.entryShapes entries)).Nodup
  | [], _ => List.nodup_nil
  | (name, node) :: entries, sound => by
    obtain ⟨-, alone, node_sound, rest_sound⟩ := sound
    rw [Node.entryShapes, foundIn]
    split
    · exact nodup_foundIn rest_sound
    · refine List.nodup_append.mpr ⟨nodup_foundAt node_sound, nodup_foundIn rest_sound, ?_⟩
      -- What is found at an entry begins with its name, and no later entry has this name.
      rintro location at_name _ later rfl
      obtain ⟨rest, rfl, -⟩ := (mem_foundAt node_sound).mp at_name
      obtain ⟨-, child, in_entries, -⟩ :=
        isVisible_cons_iff.mp ((mem_foundIn rest_sound).mp later)
      cases (Node.lookup_of_not_mem alone).symm.trans in_entries

end

/-! ## The order of a listing -/

theorem namesLE_iff {left right : List String} :
    namesLE left right = true ↔ (compare left right).isLE = true := by
  rw [namesLE, List.compare_eq_compareLex]

/-- Locations that are all different are put into strictly increasing order. -/
theorem pairwise_mergeSort {locations : List (List String)} (distinct : locations.Nodup) :
    (locations.mergeSort namesLE).Pairwise fun left right => compare left right = .lt := by
  have sorted : (locations.mergeSort namesLE).Pairwise fun left right =>
      namesLE left right = true := by
    refine List.pairwise_mergeSort (fun left middle right => ?_) (fun left right => ?_) locations
    · rw [namesLE_iff, namesLE_iff, namesLE_iff]
      exact Std.TransCmp.isLE_trans
    · rw [Bool.or_eq_true, namesLE_iff, namesLE_iff]
      cases order : compare left right with
      | lt => exact .inl rfl
      | eq => exact .inl rfl
      | gt => exact .inr (by rw [Std.OrientedCmp.lt_of_gt order]; rfl)
  have still_distinct := (List.mergeSort_perm locations namesLE).nodup_iff.mpr distinct
  refine (sorted.and still_distinct).imp ?_
  rintro left right ⟨ordered, different⟩
  cases order : compare left right with
  | lt => rfl
  | eq => exact (different (Std.LawfulEqCmp.eq_of_compare order)).elim
  | gt =>
      rw [namesLE_iff, order] at ordered
      cases ordered

/-- The names on the way to a snapshot are names of entries, and each of them leads down. -/
theorem IsVisible.named {entries : List (String × Node)} (sound : Node.EntriesSound entries)
    {location : List String} (visible : IsVisible (.directory entries) location) :
    ∀ name ∈ location, IsEntryName name ∧ name ≠ "." := by
  intro name member
  obtain ⟨content, found⟩ := visible.file
  have directory_sound : (Node.directory entries).Sound := sound
  refine ⟨(directory_sound.get? found).2 name member, ?_⟩
  rintro rfl
  exact visible.shown "." member rfl

/-- Paths to increasing locations increase component by component. -/
theorem pairwise_pathTo (root : String) {locations : List (List String)}
    (named : ∀ location ∈ locations, ∀ name ∈ location, IsEntryName name ∧ name ≠ ".")
    (increasing : locations.Pairwise fun left right => compare left right = .lt) :
    (locations.map (pathTo root)).Pairwise fun left right =>
      compare (components left) (components right) = .lt := by
  rw [List.pairwise_map]
  refine increasing.imp_of_mem fun {left right} left_mem right_mem ordered => ?_
  rw [components_pathTo root (named left left_mem), components_pathTo root (named right right_mem),
    compare_append_left, ordered]

/-- The slash does not count as a character between others. -/
example : compare (components "d/a/x") (components "d/a-b") = .lt ∧
    compare "d/a-b" "d/a/x" = .lt := by
  decide

theorem discover_eq (path : String) (disk : Disk) :
    discover (m := StateM Disk) path disk =
      (match disk.node? path with
        | some (.file _) => .ok [path]
        | some (.directory entries) => .ok (pathsBelow path (Node.entryShapes entries))
        | none => .error (.snapshot "no such file or directory" path), disk) := by
  unfold discover
  simp only [bind, StateT.bind, FileSystem.lookUp]
  cases disk.node? path with
  | none => rfl
  | some node => cases node <;> rfl

/-- A path that leads to a file stands for itself, and one that leads nowhere is an error. For a
directory, whatever its own name is, the listing is made of the visible snapshots below it, each of
them once, and their paths are increasing component by component, so that they differ. -/
theorem listing_exact (disk : Disk) (path : String) :
    (∀ content, disk.node? path = some (.file content) →
      discover (m := StateM Disk) path disk = (.ok [path], disk)) ∧
    (disk.node? path = none →
      discover (m := StateM Disk) path disk =
        (.error (.snapshot "no such file or directory" path), disk)) ∧
    ∀ entries, disk.root.Sound → disk.node? path = some (.directory entries) →
      ∃ locations : List (List String),
        discover (m := StateM Disk) path disk = (.ok (locations.map (pathTo path)), disk) ∧
        locations.Nodup ∧ (locations.map (pathTo path)).Nodup ∧
        (∀ location, location ∈ locations ↔ IsVisible (.directory entries) location) ∧
        (locations.map (pathTo path)).Pairwise fun left right =>
          compare (components left) (components right) = .lt := by
  refine ⟨fun content found => ?_, fun missing => ?_, fun entries sound found => ?_⟩
  · rw [discover_eq, found]
  · rw [discover_eq, missing]
  · obtain ⟨location, -, there⟩ := Disk.node?_eq_some.mp found
    have entries_sound : Node.EntriesSound entries := (sound.get? there).1
    have walked := List.mergeSort_perm (foundIn (Node.entryShapes entries)) namesLE
    have distinct := nodup_foundIn entries_sound
    have visible_iff : ∀ location,
        location ∈ (foundIn (Node.entryShapes entries)).mergeSort namesLE ↔
          IsVisible (.directory entries) location := fun location => by
      rw [walked.mem_iff, mem_foundIn entries_sound]
    have increasing := pairwise_pathTo path
      (fun location member => ((visible_iff location).mp member).named entries_sound)
      (pairwise_mergeSort distinct)
    refine ⟨_, by rw [discover_eq, found]; rfl, walked.nodup_iff.mpr distinct, increasing.imp ?_,
      visible_iff, increasing⟩
    rintro path _ ordered rfl
    have same : compare (components path) (components path) = .eq := Std.ReflCmp.compare_self
    cases same.symm.trans ordered

/-- A directory with a hidden name. It holds snapshots in entries and below them, and entries that
are no snapshots or hidden. -/
def hiddenDirectory : List (String × Node) :=
  [("a.symres.json", .file (some "{}")), ("a-b", .directory [("x.symres.json", .file none)]),
    ("a", .directory [("x.symres.json", .file none), ("notes", .file (some ""))]),
    (".symres.json", .file none), (".b", .directory [("y.symres.json", .file none)])]

/-- The snapshots below a hidden directory, a file below it, and a path that leads nowhere. -/
theorem listing_exact_hidden :
    ∃ disk : Disk, disk.root = .directory [(".work", .directory hiddenDirectory)] ∧
      disk.root.Sound ∧
      (∃ locations : List (List String),
        discover (m := StateM Disk) ".work" disk = (.ok (locations.map (pathTo ".work")), disk) ∧
        ["a", "x.symres.json"] ∈ locations ∧ ["a.symres.json"] ∈ locations ∧
        [".b", "y.symres.json"] ∉ locations ∧ ["a", "notes"] ∉ locations) ∧
      discover (m := StateM Disk) ".work/a/notes" disk = (.ok [".work/a/notes"], disk) ∧
      discover (m := StateM Disk) "none" disk =
        (.error (.snapshot "no such file or directory" "none"), disk) := by
  have sound : (Node.directory [(".work", .directory hiddenDirectory)]).Sound := by decide
  obtain ⟨locations, listed, -, -, visible_iff, -⟩ :=
    (listing_exact ⟨_, []⟩ ".work").2.2 hiddenDirectory sound (by rfl)
  refine ⟨⟨_, []⟩, rfl, sound, ⟨locations, listed, ?_, ?_, ?_, ?_⟩,
    (listing_exact ⟨_, []⟩ ".work/a/notes").1 (some "") (by rfl),
    (listing_exact ⟨_, []⟩ "none").2.1 (by rfl)⟩
  · exact (visible_iff _).mpr ⟨⟨none, by rfl⟩, ⟨_, rfl, by decide⟩, by decide⟩
  · exact (visible_iff _).mpr ⟨⟨some "{}", by rfl⟩, ⟨_, rfl, by decide⟩, by decide⟩
  · exact fun member => ((visible_iff _).mp member).shown ".b" List.mem_cons_self (by decide)
  · intro member
    obtain ⟨name, last, ending⟩ := ((visible_iff _).mp member).ending
    cases last
    exact absurd ending (by decide)

end Discovery

end SymbolResolver

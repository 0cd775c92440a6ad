import SymbolResolver.Proofs.FileTrees

/-!
# Files by their paths

What the operations on paths do to a file tree, for a plain name behind a path. Such a path leads to
an entry of the directory that the path before it leads to.
-/

namespace SymbolResolver

namespace Files

/-! ## Paths put together -/

/-- A name that is one step down. -/
def Plain (name : String) : Prop :=
  '/' ∉ name.toList ∧ Step.ofName name = .down name ∧ name.utf8ByteSize ≤ Disk.maximalNameSize

instance (name : String) : Decidable (Plain name) := inferInstanceAs (Decidable (_ ∧ _ ∧ _))

/-- A path that ends in a name. -/
def Solid (path : String) : Prop :=
  path.toList ≠ [] ∧ path.toList.getLast? ≠ some '/'

instance (path : String) : Decidable (Solid path) := inferInstanceAs (Decidable (_ ∧ _))

theorem names_ne_nil (chars : List Char) : names chars ≠ [] := by
  cases chars with
  | nil => exact nofun
  | cons char chars =>
      rw [names]
      split
      · exact nofun
      · split <;> exact nofun

theorem names_append (front back : List Char) :
    names (front ++ '/' :: back) = names front ++ names back := by
  induction front with
  | nil => simp [names]
  | cons char front ih =>
      obtain ⟨name, others, spelled⟩ := List.exists_cons_of_ne_nil (names_ne_nil front)
      rw [List.cons_append, names, names, ih, spelled]
      split <;> rfl

theorem names_of_not_mem {chars : List Char} (whole : '/' ∉ chars) : names chars = [chars] := by
  induction chars with
  | nil => rfl
  | cons char chars ih =>
      rw [List.mem_cons, not_or] at whole
      rw [names, if_neg (Ne.symm whole.1), ih whole.2]

theorem join_of_solid {base : String} (solid : Solid base) (name : String) :
    join base name = base ++ "/" ++ name := by
  rw [join, if_neg solid.1, if_neg solid.2]

theorem solid_join (base : String) {name : String} (solid : Solid name) :
    Solid (join base name) := by
  obtain ⟨nonempty, last⟩ := solid
  have behind : ∀ front : List Char,
      front ++ name.toList ≠ [] ∧ (front ++ name.toList).getLast? ≠ some '/' := by
    intro front
    rw [List.getLast?_eq_some_getLast nonempty] at last
    refine ⟨List.append_ne_nil_of_right_ne_nil front nonempty, ?_⟩
    rwa [List.getLast?_append, List.getLast?_eq_some_getLast nonempty, Option.some_or]
  simp only [Solid, join]
  split
  · exact ⟨nonempty, last⟩
  · split
    · rw [String.toList_append]
      exact behind _
    · rw [String.toList_append]
      exact behind _

/-- The steps of the names between slashes. -/
def stepsOf (chars : List Char) : List Step :=
  (names chars).map fun name => Step.ofName (String.ofList name)

theorem stepsOf_append (front : List Char) {name : String} (plain : Plain name) :
    stepsOf (front ++ '/' :: name.toList) = stepsOf front ++ [.down name] := by
  simp [stepsOf, names_append, names_of_not_mem plain.1, plain.2.1]

theorem steps?_of_root {path : String} {rest : List Char} (spelled : path.toList = '/' :: rest) :
    steps? path = some (true, stepsOf rest) := by
  simp only [steps?, spelled, stepsOf]

theorem steps?_of_relative {path : String} {char : Char} {rest : List Char}
    (spelled : path.toList = char :: rest) (relative : char ≠ '/') :
    steps? path = some (false, stepsOf (char :: rest)) := by
  simp only [steps?, spelled]
  split
  · rename_i empty
    cases empty
  · rename_i same
    cases same
    exact (relative rfl).elim
  · rfl

theorem exists_steps {path : String} (solid : Solid path) :
    ∃ fromRoot steps, steps? path = some (fromRoot, steps) ∧ steps ≠ [] := by
  obtain ⟨char, rest, spelled⟩ := List.exists_cons_of_ne_nil solid.1
  by_cases root : char = '/'
  · subst root
    exact ⟨_, _, steps?_of_root spelled, by simp [stepsOf, names_ne_nil]⟩
  · exact ⟨_, _, steps?_of_relative spelled root, by simp [stepsOf, names_ne_nil]⟩

/-- The last step of a plain name behind a path goes down to that name. -/
theorem steps?_join {base name : String} (solid : Solid base) (plain : Plain name)
    {fromRoot : Bool} {steps : List Step} (known : steps? base = some (fromRoot, steps)) :
    steps? (join base name) = some (fromRoot, steps ++ [.down name]) := by
  obtain ⟨char, rest, spelled⟩ := List.exists_cons_of_ne_nil solid.1
  have joined : (join base name).toList = char :: (rest ++ '/' :: name.toList) := by
    simp [join_of_solid solid, spelled]
  by_cases root : char = '/'
  · subst root
    cases (steps?_of_root spelled).symm.trans known
    rw [steps?_of_root joined, stepsOf_append rest plain]
  · cases (steps?_of_relative spelled root).symm.trans known
    rw [steps?_of_relative joined root, ← List.cons_append, stepsOf_append _ plain]

namespace Disk

open Node

/-- What rules out a path rules out every path behind it. -/
theorem ruledOut?_of_join {base name : String} (solid : Solid base)
    (fine : ruledOut? (join base name) = none) : ruledOut? base = none := by
  rw [join_of_solid solid] at fine
  simp only [ruledOut?, String.toList_append, String.utf8ByteSize_append] at fine ⊢
  grind

theorem locate_eq_ok {disk : Disk} {path : String} {fromRoot : Bool} {steps : List Step}
    (known : steps? path = some (fromRoot, steps)) {target : List String} :
    disk.locate path = .ok target ↔
      ruledOut? path = none ∧ walk disk.root (disk.start fromRoot) steps = .ok target := by
  rw [locate, known]
  cases ruledOut? path with
  | none => simp
  | some obstacle => simp

/-- A plain name behind a path leads to an entry of the directory that the path leads to. -/
theorem locate_join {disk : Disk} {base name : String} (solid : Solid base) (plain : Plain name)
    {target : List String} :
    disk.locate (join base name) = .ok target ↔
      ruledOut? (join base name) = none ∧ ∃ location, disk.locate base = .ok location ∧
        disk.root.sight? location = some .directory ∧ target = location ++ [name] := by
  obtain ⟨fromRoot, steps, known, -⟩ := exists_steps solid
  rw [locate_eq_ok (steps?_join solid plain known), walk_concat_eq_ok]
  refine and_congr_right fun fine => exists_congr fun location => ?_
  rw [locate_eq_ok known]
  constructor
  · rintro ⟨walked, entered, ⟨⟩⟩
    exact ⟨⟨ruledOut?_of_join solid fine, walked⟩, entered, rfl⟩
  · rintro ⟨⟨-, walked⟩, entered, rfl⟩
    exact ⟨walked, entered, .down plain.2.2⟩

/-- A path leads to a directory. -/
def IsDirectory (disk : Disk) (path : String) : Prop :=
  ∃ location, disk.locate path = .ok location ∧ disk.root.sight? location = some .directory

/-- Neither the form of a path nor a directory at its end keeps it from leading to a file. -/
def AdmitsFile (disk : Disk) (path : String) : Prop :=
  ruledOut? path = none ∧ ¬ disk.IsDirectory path

/-- A part of a path leads to a location. -/
def Passes (disk : Disk) (path : String) (location : List String) : Prop :=
  ∃ fromRoot steps front, steps? path = some (fromRoot, steps) ∧ front <+: steps ∧
    walk disk.root (disk.start fromRoot) front = .ok location

/-- Every step up along a path leads out of a directory that is there. -/
def StepsBackAlong (disk : Disk) (path : String) : Prop :=
  ∀ fromRoot steps, steps? path = some (fromRoot, steps) →
    StepsBack disk.root (disk.start fromRoot) steps

/-- A state of a disk in which every directory of an earlier state is still one. -/
structure Extends (before after : Disk) : Prop where
  working : after.working = before.working
  stay : DirectoriesStay before.root after.root

namespace Extends

variable {before after : Disk}

theorem start (extended : Extends before after) (fromRoot : Bool) :
    after.start fromRoot = before.start fromRoot := by
  rw [Disk.start, Disk.start, extended.working]

theorem locate (extended : Extends before after) {path : String} {location : List String}
    (located : before.locate path = .ok location) : after.locate path = .ok location := by
  cases known : steps? path with
  | none =>
      rw [Disk.locate, known] at located
      cases ruled : ruledOut? path with
      | none => rw [ruled] at located; cases located
      | some obstacle => rw [ruled] at located; cases located
  | some found =>
      obtain ⟨fromRoot, steps⟩ := found
      rw [locate_eq_ok known] at located ⊢
      rw [extended.start]
      exact ⟨located.1, extended.stay.walk located.2⟩

theorem trans {middle : Disk} (first : Extends before middle) (second : Extends middle after) :
    Extends before after :=
  ⟨second.working.trans first.working, fun _ there => second.stay _ (first.stay _ there)⟩

theorem locate_iff (forth : Extends before after) (back : Extends after before) {path : String}
    {location : List String} :
    after.locate path = .ok location ↔ before.locate path = .ok location :=
  ⟨back.locate, forth.locate⟩

theorem passes (extended : Extends before after) {path : String} {location : List String}
    (passed : before.Passes path location) : after.Passes path location := by
  obtain ⟨fromRoot, steps, front, known, among, walked⟩ := passed
  refine ⟨fromRoot, steps, front, known, among, ?_⟩
  rw [extended.start]
  exact extended.stay.walk walked

end Extends

/-- A later state of a disk. Apart from some locations, everything that was there is as it was, and
all that is new are directories that a path passes. -/
structure Kept (touched : List String → Prop) (path : String) (before after : Disk) : Prop where
  working : after.working = before.working
  sights : ∀ location, ¬ touched location →
    after.root.sight? location = before.root.sight? location ∨
      before.root.sight? location = none ∧ after.root.sight? location = some .directory ∧
        after.Passes path location

/-! ## Making directories -/

theorem createDirectories_of_steps (disk : Disk) {path : String} {fromRoot : Bool}
    {steps : List Step} (known : steps? path = some (fromRoot, steps))
    (fine : ruledOut? path = none) :
    disk.createDirectories path =
      ((makeDirectory disk.root (disk.start fromRoot) steps.reverse).1,
        { disk with root := (makeDirectory disk.root (disk.start fromRoot) steps.reverse).2 }) := by
  simp only [createDirectories, known, fine]

theorem createDirectories_of_ruledOut (disk : Disk) {path : String} {obstacle : Obstacle}
    (ruled : ruledOut? path = some obstacle) :
    disk.createDirectories path = (.error obstacle.cause, disk) := by
  simp only [createDirectories, ruled]

/-- Making a directory adds directories that its path passes. Afterwards there is a directory
exactly if that has succeeded. -/
theorem createDirectories_spec (disk : Disk) {path : String} (solid : Solid path) :
    Kept (fun _ => False) path disk (disk.createDirectories path).2 ∧
      ((disk.createDirectories path).1 = .ok () ↔
        (disk.createDirectories path).2.IsDirectory path) := by
  obtain ⟨fromRoot, steps, known, some_steps⟩ := exists_steps solid
  cases ruled : ruledOut? path with
  | some obstacle =>
      rw [createDirectories_of_ruledOut disk ruled]
      refine ⟨⟨rfl, fun _ _ => .inl rfl⟩, nofun, ?_⟩
      rintro ⟨location, located, -⟩
      cases ruled.symm.trans ((locate_eq_ok known).mp located).1
  | none =>
      have makes := makeDirectory_makes disk.root (disk.start fromRoot) steps.reverse
      rw [List.reverse_reverse] at makes
      rw [createDirectories_of_steps disk known ruled]
      refine ⟨⟨rfl, fun location _ => ?_⟩, fun made => ?_, ?_⟩
      · rcases makes.grows location with same | ⟨missing, added, front, among, walked⟩
        · exact .inl same
        · exact .inr ⟨missing, added, fromRoot, steps, front, known, among, walked⟩
      · obtain ⟨location, walked, entered⟩ := makes.leads made some_steps
        exact ⟨location, (locate_eq_ok known).mpr ⟨ruled, walked⟩, entered⟩
      · rintro ⟨location, located, entered⟩
        cases result : (makeDirectory disk.root (disk.start fromRoot) steps.reverse).1 with
        | ok _ => rfl
        | error cause =>
            have walked := ((locate_eq_ok known).mp located).2
            exact (makes.fails cause result ⟨location, walked, entered⟩).elim

theorem createDirectories_of_isDirectory {disk : Disk} {path : String} (solid : Solid path)
    (there : disk.IsDirectory path) : disk.createDirectories path = (.ok (), disk) := by
  obtain ⟨fromRoot, steps, known, -⟩ := exists_steps solid
  obtain ⟨location, located, entered⟩ := there
  obtain ⟨fine, walked⟩ := (locate_eq_ok known).mp located
  have made : makeDirectory disk.root (disk.start fromRoot) steps.reverse = (.ok (), disk.root) :=
    makeDirectory_of_leads (by rw [List.reverse_reverse]; exact ⟨location, walked, entered⟩)
  rw [createDirectories_of_steps disk known fine, made]

theorem Kept.extends {path : String} {before after : Disk}
    (kept : Kept (fun _ => False) path before after) : Extends before after := by
  refine ⟨kept.working, fun location there => ?_⟩
  rcases kept.sights location id with same | ⟨missing, -, -⟩
  · rw [same, there]
  · cases missing.symm.trans there

/-- Changes after directories have been made add up to changes apart from which a disk is kept. -/
theorem Kept.of_extends {touched : List String → Prop} {path : String} {before middle after : Disk}
    (kept : Kept (fun _ => False) path before middle) (extended : Extends middle after)
    (same : ∀ location, ¬ touched location →
      after.root.sight? location = middle.root.sight? location) :
    Kept touched path before after := by
  refine ⟨extended.working.trans kept.working, fun location untouched => ?_⟩
  rw [same location untouched]
  rcases kept.sights location id with unchanged | ⟨missing, made, passed⟩
  · exact .inl unchanged
  · exact .inr ⟨missing, made, extended.passes passed⟩

theorem node?_of_locate {disk : Disk} {path : String} {location : List String}
    (located : disk.locate path = .ok location) : disk.node? path = disk.root.get? location := by
  rw [node?, located]

theorem node?_eq_some {disk : Disk} {path : String} {node : Node} :
    disk.node? path = some node ↔
      ∃ location, disk.locate path = .ok location ∧ disk.root.get? location = some node := by
  rw [node?]
  cases disk.locate path with
  | ok location => simp
  | error obstacle => simp

/-- Making a directory changes nothing about its entries, unless an entry could not be found and a
directory that the path steps out of is made. -/
theorem node?_createDirectories {disk : Disk} {base name : String} (solid : Solid base)
    (plain : Plain name) (back : disk.node? (join base name) = none → disk.StepsBackAlong base) :
    (disk.createDirectories base).2.node? (join base name) = disk.node? (join base name) := by
  cases before : disk.node? (join base name) with
  | some node =>
      obtain ⟨_, located, -⟩ := node?_eq_some.mp before
      obtain ⟨-, location, base_located, entered, -⟩ := (locate_join solid plain).mp located
      rw [createDirectories_of_isDirectory solid ⟨location, base_located, entered⟩, before]
  | none =>
      obtain ⟨kept, -⟩ := createDirectories_spec disk solid
      generalize (disk.createDirectories base).2 = made at kept
      cases after : made.node? (join base name) with
      | none => rfl
      | some node =>
          obtain ⟨fromRoot, steps, known, -⟩ := exists_steps solid
          obtain ⟨_, located, found⟩ := node?_eq_some.mp after
          obtain ⟨fine, location, base_located, -, rfl⟩ := (locate_join solid plain).mp located
          have walked := ((locate_eq_ok known).mp base_located).2
          rw [kept.extends.start] at walked
          have back := back before fromRoot steps known
          rcases kept.sights _ id with same | ⟨missing, -, _, _, front, again, among, passed⟩
          · have there : disk.root.sight? (location ++ [name]) ≠ none := by
              rw [← same, sight?, found, Option.map_some]
              exact Option.some_ne_none _
            have around := directory_of_below there
            have known_before := back.walk kept.extends.stay walked around
            have located_before : disk.locate (join base name) = .ok (location ++ [name]) :=
              (locate_join solid plain).mpr ⟨fine, location,
                (locate_eq_ok known).mpr ⟨ruledOut?_of_join solid fine, known_before⟩, around, rfl⟩
            rw [sight?, ← node?_of_locate located_before, before] at there
            exact (there rfl).elim
          · cases known.symm.trans again
            rw [kept.extends.start] at passed
            have inside := back.prefix_of_new kept.extends.stay walked among passed missing
            have longer := inside.length_le
            rw [List.length_append, List.length_singleton] at longer
            omega

/-! ## Writing and moving -/

theorem write_failed {disk after : Disk} {path cause : String} {content : Option String}
    (failed : disk.write path content = (.error cause, after)) : after = disk := by
  unfold write at failed
  split at failed
  · cases failed
    rfl
  · split at failed
    · cases failed
      rfl
    · cases failed

theorem write_eq_ok {disk after : Disk} {path : String} {content : Option String} :
    disk.write path content = (.ok (), after) ↔
      ∃ location, disk.locate path = .ok location ∧
        disk.root.sight? location ≠ some .directory ∧
        after = { disk with root := disk.root.put location (.file content) } := by
  unfold write
  cases disk.locate path with
  | error obstacle => simp
  | ok location =>
      simp only [Except.ok.injEq, exists_eq_left', sight?]
      cases disk.root.get? location with
      | none => simp [eq_comm]
      | some node => cases node <;> simp [sight, eq_comm]

theorem rename_failed {disk after : Disk} {source target cause : String}
    (failed : disk.rename source target = (.error cause, after)) : after = disk := by
  unfold rename at failed
  split at failed
  · split at failed <;> cases failed <;> rfl
  · cases failed
    rfl
  · cases failed
    rfl

theorem rename_eq_ok {disk after : Disk} {source target : String} :
    disk.rename source target = (.ok (), after) ↔
      ∃ origin goal content, disk.locate source = .ok origin ∧ disk.locate target = .ok goal ∧
        disk.root.sight? origin = some (.file content) ∧
        disk.root.sight? goal ≠ some .directory ∧
        after = { disk with root := (disk.root.erase origin).put goal (.file content) } := by
  unfold rename
  cases disk.locate source with
  | error obstacle => simp
  | ok origin =>
      cases disk.locate target with
      | error obstacle => simp
      | ok goal =>
          simp only [Except.ok.injEq, exists_eq_left', exists_and_left, sight?]
          cases disk.root.get? origin with
          | none => simp
          | some moved =>
              cases moved with
              | directory entries => simp [sight]
              | file content =>
                  cases disk.root.get? goal with
                  | none => simp [sight, eq_comm]
                  | some node => cases node <;> simp [sight, eq_comm]

theorem directoriesStay_of_update {before after : Node} {location : List String}
    {value : Option Sight} (changed : after.sight? = Function.update before.sight? location value)
    (free : before.sight? location ≠ some .directory) : DirectoriesStay before after := by
  intro other there
  have elsewhere : other ≠ location := by
    rintro rfl
    exact free there
  rw [changed, Function.update_of_ne elsewhere, there]

theorem directoriesStay_of_restored {before after : Node} {location : List String}
    {value : Option Sight} (changed : after.sight? = Function.update before.sight? location value)
    (plain : value ≠ some .directory) : DirectoriesStay after before := by
  intro other there
  have elsewhere : other ≠ location := by
    rintro rfl
    rw [changed, Function.update_self] at there
    exact plain there
  rw [← there, changed, Function.update_of_ne elsewhere]

/-! ## Replacing a file -/

section Replacing

variable {disk written after : Disk} {base staged name : String} {content : Option String}
  {location : List String}

/-- A later state of a disk, in which a name in a directory has become a file. -/
structure Staged (location : List String) (staged : String) (content : Option String)
    (before after : Disk) : Prop where
  around : before.root.sight? location = some .directory
  sights : after.root.sight? =
    Function.update before.root.sight? (location ++ [staged]) (some (.file content))
  forth : Extends before after
  back : Extends after before

theorem exists_staged (solid : Solid base) (plain : Plain staged)
    (wrote : disk.write (join base staged) content = (.ok (), written)) :
    ∃ location, disk.locate base = .ok location ∧
      written.locate (join base staged) = .ok (location ++ [staged]) ∧
      Staged location staged content disk written := by
  obtain ⟨_, located, free, rfl⟩ := write_eq_ok.mp wrote
  obtain ⟨-, location, base_located, around, rfl⟩ := (locate_join solid plain).mp located
  have changed : (disk.root.put (location ++ [staged]) (.file content)).sight? =
      Function.update disk.root.sight? (location ++ [staged]) (some (.file content)) :=
    sight?_put around free fun _ _ => rfl
  have forth : Extends disk
      { disk with root := disk.root.put (location ++ [staged]) (.file content) } :=
    ⟨rfl, directoriesStay_of_update changed free⟩
  exact ⟨location, base_located, forth.locate located, around, changed, forth,
    ⟨rfl, directoriesStay_of_restored changed nofun⟩⟩

/-- Writing a file leaves the entries beside it as they are, with all they hold. -/
theorem node?_write (solid : Solid base) (plain_staged : Plain staged) (plain : Plain name)
    (different : name ≠ staged)
    (wrote : disk.write (join base staged) content = (.ok (), written)) :
    written.node? (join base name) = disk.node? (join base name) := by
  obtain ⟨location, base_located, -, write⟩ := exists_staged solid plain_staged wrote
  obtain ⟨_, staged_located, -, rfl⟩ := write_eq_ok.mp wrote
  obtain ⟨-, _, again, -, rfl⟩ := (locate_join solid plain_staged).mp staged_located
  cases base_located.symm.trans again
  ext node
  rw [node?_eq_some, node?_eq_some]
  refine exists_congr fun target => ?_
  rw [write.forth.locate_iff write.back]
  refine and_congr_right fun located => ?_
  obtain ⟨-, _, again, -, rfl⟩ := (locate_join solid plain).mp located
  cases base_located.symm.trans again
  rw [get?_put_beside disk.root _ location different]

/-- A file that is written and then moved has replaced the entry that it was moved to. -/
theorem exists_replaced (solid : Solid base) (plain_staged : Plain staged) (plain : Plain name)
    (different : name ≠ staged)
    (wrote : disk.write (join base staged) content = (.ok (), written))
    (moved : written.rename (join base staged) (join base name) = (.ok (), after)) :
    ∃ location, after.locate (join base staged) = .ok (location ++ [staged]) ∧
      after.locate (join base name) = .ok (location ++ [name]) ∧ Extends disk after ∧
      after.root.sight? = Function.update
        (Function.update disk.root.sight? (location ++ [staged]) none)
        (location ++ [name]) (some (.file content)) := by
  obtain ⟨location, base_located, -, write⟩ := exists_staged solid plain_staged wrote
  obtain ⟨_, _, found, origin, goal, there, free, rfl⟩ := rename_eq_ok.mp moved
  obtain ⟨-, _, again, around, rfl⟩ := (locate_join solid plain_staged).mp origin
  obtain ⟨-, _, once_more, -, rfl⟩ := (locate_join solid plain).mp goal
  cases (write.forth.locate base_located).symm.trans again
  cases (write.forth.locate base_located).symm.trans once_more
  have same : some (Sight.file content) = some (.file found) := by
    rw [← there, write.sights, Function.update_self]
  cases same
  have apart : location ++ [name] ≠ location ++ [staged] := by simp [different]
  have erased := sight?_erase there
  have emptied : (written.root.erase (location ++ [staged])).sight? =
      Function.update disk.root.sight? (location ++ [staged]) none := by
    rw [erased, write.sights, Function.update_idem]
  have still_free : (written.root.erase (location ++ [staged])).sight? (location ++ [name]) ≠
      some .directory := by
    rw [erased, Function.update_of_ne apart]
    exact free
  have erased_stay := directoriesStay_of_update erased (by rw [there]; exact nofun)
  have put_sights := sight?_put (erased_stay location around) still_free
    (fun _ _ => rfl : ∀ name rest, (Node.file content).sight? (name :: rest) = none)
  rw [emptied] at put_sights
  have put_stay := directoriesStay_of_update (put_sights.trans (by rw [emptied])) still_free
  have extended : Extends written { written with root :=
      (written.root.erase (location ++ [staged])).put (location ++ [name]) (.file content) } :=
    ⟨rfl, fun other here => put_stay other (erased_stay other here)⟩
  exact ⟨location, extended.locate origin, extended.locate goal, write.forth.trans extended,
    put_sights⟩

/-- Replacing a file this way succeeds exactly if its directory is there and both paths can lead to
files. -/
theorem replaces_iff (solid : Solid base) (plain_staged : Plain staged) (plain : Plain name)
    (different : name ≠ staged) :
    (∃ written after, disk.write (join base staged) content = (.ok (), written) ∧
        written.rename (join base staged) (join base name) = (.ok (), after)) ↔
      disk.IsDirectory base ∧ disk.AdmitsFile (join base staged) ∧
        disk.AdmitsFile (join base name) := by
  constructor
  · rintro ⟨written, after, wrote, moved⟩
    obtain ⟨location, base_located, -, write⟩ := exists_staged solid plain_staged wrote
    obtain ⟨_, staged_located, staged_free, -⟩ := write_eq_ok.mp wrote
    obtain ⟨_, goal, _, -, located, -, free, -⟩ := rename_eq_ok.mp moved
    refine ⟨⟨location, base_located, write.around⟩,
      ⟨((locate_join solid plain_staged).mp staged_located).1, ?_⟩,
      ⟨((locate_join solid plain).mp located).1, ?_⟩⟩
    · rintro ⟨_, again, seen⟩
      cases staged_located.symm.trans again
      exact staged_free seen
    · rintro ⟨_, again, seen⟩
      cases located.symm.trans (write.forth.locate again)
      exact free (write.forth.stay _ seen)
  · rintro ⟨⟨location, base_located, around⟩, ⟨staged_fine, staged_free⟩, fine, free⟩
    have staged_located : disk.locate (join base staged) = .ok (location ++ [staged]) :=
      (locate_join solid plain_staged).mpr ⟨staged_fine, location, base_located, around, rfl⟩
    have located : disk.locate (join base name) = .ok (location ++ [name]) :=
      (locate_join solid plain).mpr ⟨fine, location, base_located, around, rfl⟩
    have wrote : disk.write (join base staged) content = (.ok (), _) := write_eq_ok.mpr
      ⟨_, staged_located, fun seen => staged_free ⟨_, staged_located, seen⟩, rfl⟩
    obtain ⟨_, again, moved_located, write⟩ := exists_staged solid plain_staged wrote
    cases base_located.symm.trans again
    refine ⟨_, _, wrote, rename_eq_ok.mpr ⟨_, _, content, moved_located,
      write.forth.locate located, ?_, ?_, rfl⟩⟩
    · rw [write.sights, Function.update_self]
    · rw [write.sights, Function.update_of_ne (by simp [different])]
      exact fun seen => free ⟨_, located, seen⟩

end Replacing

end Disk

end Files

end SymbolResolver

import Mathlib.Data.List.Induction
import Mathlib.Logic.Function.Basic
import SymbolResolver.Files.Disk

/-!
# Views of file trees

A file tree is determined by what is seen at each of its locations. Writing, removing and making a
directory change the view at one location, and where a path leads depends on which locations are
directories. Making a directory along a path adds directories that the path passes and nothing else.
It does not change what another path leads to, with one exception: a path that steps back out of a
missing directory leads nowhere until that directory is made.
-/

namespace SymbolResolver

namespace Files

/-- What is seen at a location: a file with its text, or a directory. -/
inductive Sight
  /-- A file, as in `Node.file`. -/
  | file (content : Option String)
  /-- A directory, whatever it holds. -/
  | directory
deriving DecidableEq, Repr

namespace Node

/-- What is seen of a node without looking into it. -/
def sight : Node → Sight
  | file content => .file content
  | directory _ => .directory

/-- What is seen at a location. -/
def sight? (root : Node) (location : List String) : Option Sight :=
  (root.get? location).map sight

theorem lookup_setEntry (name other : String) (node : Node) (entries : List (String × Node)) :
    (setEntry name node entries).lookup other =
      if other = name then some node else entries.lookup other := by
  induction entries with
  | nil => grind [setEntry]
  | cons entry entries ih => grind [setEntry]

theorem lookup_filter_ne (name other : String) (entries : List (String × Node)) :
    (entries.filter (·.1 != name)).lookup other =
      if other = name then none else entries.lookup other := by
  induction entries with
  | nil => grind
  | cons entry entries ih => grind

theorem get?_directory_cons (entries : List (String × Node)) (name : String)
    (location : List String) :
    (directory entries).get? (name :: location) =
      (entries.lookup name).bind fun child => child.get? location := by
  simp only [get?]
  cases entries.lookup name <;> rfl

theorem sight?_directory_cons (entries : List (String × Node)) (name : String)
    (location : List String) :
    (directory entries).sight? (name :: location) =
      (entries.lookup name).bind fun child => child.sight? location := by
  simp only [sight?, get?_directory_cons, Option.map_bind]
  rfl

theorem get?_of_sight?_file {root : Node} {location : List String} {content : Option String}
    (seen : root.sight? location = some (.file content)) :
    root.get? location = some (.file content) := by
  obtain ⟨node, found, same⟩ := Option.map_eq_some_iff.mp seen
  cases node with
  | file other =>
      cases same
      exact found
  | directory entries => cases same

theorem get?_of_sight?_none {root : Node} {location : List String}
    (missing : root.sight? location = none) : root.get? location = none :=
  Option.map_eq_none_iff.mp missing

/-- Only a directory has something below it. -/
theorem directory_of_below {root : Node} {location rest : List String} {name : String}
    (there : root.sight? (location ++ name :: rest) ≠ none) :
    root.sight? location = some .directory := by
  induction location generalizing root with
  | nil =>
      cases root with
      | file content => exact (there rfl).elim
      | directory entries => rfl
  | cons first location ih =>
      cases root with
      | file content => exact (there rfl).elim
      | directory entries =>
          rw [List.cons_append, sight?_directory_cons] at there
          rw [sight?_directory_cons]
          cases found : entries.lookup first with
          | none => exact (there (by rw [found]; rfl)).elim
          | some child =>
              rw [found] at there
              exact ih there

/-- Below a directory that is missing or a file there is nothing. -/
theorem sight?_below {root : Node} {location rest : List String} {name : String}
    (closed : root.sight? location ≠ some .directory) :
    root.sight? (location ++ name :: rest) = none := by
  by_contra there
  exact closed (directory_of_below there)

/-- Directories that agree in all entries but one, and there up to one location. -/
theorem sight?_directory_update {entries changed : List (String × Node)} {name : String}
    {rest : List String} {value : Option Sight}
    (others : ∀ other, other ≠ name → changed.lookup other = entries.lookup other)
    (inside : ∀ location, (changed.lookup name).bind (·.sight? location) =
      if location = rest then value else (entries.lookup name).bind (·.sight? location)) :
    (directory changed).sight? =
      Function.update (directory entries).sight? (name :: rest) value := by
  funext location
  rw [Function.update_apply]
  cases location with
  | nil => rfl
  | cons first location =>
      rw [sight?_directory_cons, sight?_directory_cons]
      by_cases same : first = name
      · subst same
        simp only [inside, List.cons.injEq, true_and]
      · rw [others first same, if_neg (by simp [same])]

/-- A node without anything below it, put into a directory where no directory is, is seen there. The
rest of the tree stays as it was. -/
theorem sight?_put {root added : Node} {parent : List String} {name : String}
    (around : root.sight? parent = some .directory)
    (free : root.sight? (parent ++ [name]) ≠ some .directory)
    (bare : ∀ name rest, added.sight? (name :: rest) = none) :
    (root.put (parent ++ [name]) added).sight? =
      Function.update root.sight? (parent ++ [name]) (some added.sight) := by
  induction parent generalizing root with
  | nil =>
      cases root with
      | file content => cases around
      | directory entries =>
          refine sight?_directory_update (fun other different => ?_) fun location => ?_
          · rw [lookup_setEntry, if_neg different]
          · rw [lookup_setEntry, if_pos rfl, Option.bind_some, put]
            cases location with
            | nil => rfl
            | cons next rest =>
                rw [bare, if_neg (List.cons_ne_nil _ _), ← sight?_directory_cons]
                exact (sight?_below free).symm
  | cons step parent ih =>
      cases root with
      | file content => cases around
      | directory entries =>
          rw [sight?_directory_cons] at around
          rw [List.cons_append, sight?_directory_cons] at free
          refine sight?_directory_update (fun other different => ?_) fun location => ?_
          · rw [lookup_setEntry, if_neg different]
          · rw [lookup_setEntry, if_pos rfl, Option.bind_some]
            cases found : entries.lookup step with
            | none => rw [found] at around; cases around
            | some child =>
                rw [found] at around free
                rw [Option.getD_some, List.append_eq, ih around free, Function.update_apply,
                  Option.bind_some]

/-- Removing a file changes nothing else. -/
theorem sight?_erase {root : Node} {parent : List String} {name : String} {content : Option String}
    (there : root.sight? (parent ++ [name]) = some (.file content)) :
    (root.erase (parent ++ [name])).sight? =
      Function.update root.sight? (parent ++ [name]) none := by
  induction parent generalizing root with
  | nil =>
      cases root with
      | file content => cases there
      | directory entries =>
          refine sight?_directory_update (fun other different => ?_) fun location => ?_
          · rw [lookup_filter_ne, if_neg different]
          · rw [lookup_filter_ne, if_pos rfl, Option.bind_none]
            cases location with
            | nil => rfl
            | cons next rest =>
                have closed : (directory entries).sight? [name] ≠ some .directory := by
                  intro same
                  cases there.symm.trans same
                rw [if_neg (List.cons_ne_nil _ _), ← sight?_directory_cons]
                exact (sight?_below closed).symm
  | cons step parent ih =>
      cases root with
      | file content => cases there
      | directory entries =>
          rw [List.cons_append, sight?_directory_cons] at there
          cases found : entries.lookup step with
          | none => rw [found] at there; cases there
          | some child =>
              rw [found] at there
              have erased : (directory entries).erase (step :: (parent ++ [name])) =
                  directory (setEntry step (child.erase (parent ++ [name])) entries) := by
                rw [erase, found]
                simp
              rw [List.cons_append, erased]
              refine sight?_directory_update (fun other different => ?_) fun location => ?_
              · rw [lookup_setEntry, if_neg different]
              · rw [lookup_setEntry, if_pos rfl, Option.bind_some, ih there,
                  Function.update_apply, found, Option.bind_some]

/-- What stands beside a node that is put somewhere stays there with all it holds. -/
theorem get?_put_beside (root added : Node) (parent : List String) {name other : String}
    (different : other ≠ name) :
    (root.put (parent ++ [name]) added).get? (parent ++ [other]) =
      root.get? (parent ++ [other]) := by
  induction parent generalizing root with
  | nil =>
      cases root with
      | file content => rfl
      | directory entries =>
          simp only [List.nil_append, put, get?_directory_cons, lookup_setEntry, if_neg different]
  | cons step parent ih =>
      cases root with
      | file content => rfl
      | directory entries =>
          simp only [List.cons_append, put, get?_directory_cons, lookup_setEntry, if_true,
            Option.bind_some, ih]
          cases entries.lookup step with
          | some child => rfl
          | none => cases parent <;> rfl

end Node

namespace Disk

open Node

/-! ## Where steps lead -/

/-- Where a step leads from a directory. -/
inductive Leads : List String → Step → List String → Prop
  /-- To the directory itself. -/
  | stay (location : List String) : Leads location .stay location
  /-- To the enclosing directory. The root encloses itself. -/
  | up (location : List String) : Leads location .up location.dropLast
  /-- To an entry. -/
  | down {location : List String} {name : String} (short : name.utf8ByteSize ≤ maximalNameSize) :
      Leads location (.down name) (location ++ [name])

theorem enter_eq_ok {root : Node} {location : List String} :
    enter root location = .ok () ↔ root.sight? location = some .directory := by
  unfold enter sight?
  cases root.get? location with
  | none => simp
  | some node => cases node <;> simp [sight]

theorem walk_nil_eq_ok {root : Node} {origin target : List String} :
    walk root origin [] = .ok target ↔ origin = target := by
  rw [walk, Except.ok.injEq]

theorem walk_cons_eq_ok {root : Node} {origin target : List String} {step : Step}
    {steps : List Step} :
    walk root origin (step :: steps) = .ok target ↔
      root.sight? origin = some .directory ∧
        ∃ next, Leads origin step next ∧ walk root next steps = .ok target := by
  rw [← enter_eq_ok]
  cases entered : enter root origin with
  | error obstacle => cases step <;> simp [walk, entered, bind, Except.bind]
  | ok _ =>
      simp only [true_and]
      cases step with
      | stay =>
          simp only [walk, entered, bind, Except.bind]
          refine ⟨fun walked => ⟨_, .stay origin, walked⟩, ?_⟩
          rintro ⟨_, ⟨⟩, walked⟩
          exact walked
      | up =>
          simp only [walk, entered, bind, Except.bind]
          refine ⟨fun walked => ⟨_, .up origin, walked⟩, ?_⟩
          rintro ⟨_, ⟨⟩, walked⟩
          exact walked
      | down name =>
          simp only [walk, entered, bind, Except.bind]
          by_cases long : maximalNameSize < name.utf8ByteSize
          · rw [if_pos long]
            refine ⟨nofun, ?_⟩
            rintro ⟨_, ⟨short⟩, -⟩
            omega
          · rw [if_neg long]
            refine ⟨fun walked => ⟨_, .down (by omega), walked⟩, ?_⟩
            rintro ⟨_, ⟨-⟩, walked⟩
            exact walked

theorem walk_append_eq_ok {root : Node} {origin target : List String} {front back : List Step} :
    walk root origin (front ++ back) = .ok target ↔
      ∃ middle, walk root origin front = .ok middle ∧ walk root middle back = .ok target := by
  induction front generalizing origin with
  | nil => simp [walk_nil_eq_ok]
  | cons step front ih =>
      simp only [List.cons_append, walk_cons_eq_ok, ih]
      constructor
      · rintro ⟨entered, next, leads, middle, before, after⟩
        exact ⟨middle, ⟨entered, next, leads, before⟩, after⟩
      · rintro ⟨middle, ⟨entered, next, leads, before⟩, after⟩
        exact ⟨entered, next, leads, middle, before, after⟩

theorem walk_concat_eq_ok {root : Node} {origin target : List String} {front : List Step}
    {last : Step} :
    walk root origin (front ++ [last]) = .ok target ↔
      ∃ location, walk root origin front = .ok location ∧
        root.sight? location = some .directory ∧ Leads location last target := by
  simp only [walk_append_eq_ok, walk_cons_eq_ok, walk_nil_eq_ok, exists_eq_right]

/-- Every directory of a tree is one of another tree. -/
def DirectoriesStay (before after : Node) : Prop :=
  ∀ location, before.sight? location = some .directory → after.sight? location = some .directory

/-- More directories leave a way where it leads. -/
theorem DirectoriesStay.walk {before after : Node} (stay : DirectoriesStay before after)
    {origin target : List String} {steps : List Step}
    (walked : walk before origin steps = .ok target) : walk after origin steps = .ok target := by
  induction steps generalizing origin with
  | nil => exact walked
  | cons step steps ih =>
      obtain ⟨entered, next, leads, rest⟩ := walk_cons_eq_ok.mp walked
      exact walk_cons_eq_ok.mpr ⟨stay origin entered, next, leads, ih rest⟩

/-- Only a step up leads out of a location. -/
theorem prefix_of_walk {root : Node} {origin target : List String} {steps : List Step}
    (inward : .up ∉ steps) (walked : walk root origin steps = .ok target) : origin <+: target := by
  induction steps generalizing origin with
  | nil =>
      cases walked
      exact List.prefix_refl _
  | cons step steps ih =>
      obtain ⟨-, next, leads, rest⟩ := walk_cons_eq_ok.mp walked
      rw [List.mem_cons, not_or] at inward
      have further := ih inward.2 rest
      cases leads with
      | stay => exact further
      | up => exact (inward.1 rfl).elim
      | down short => exact (List.prefix_append origin _).trans further

/-- A way that ends nowhere ends in a directory, at an entry that is missing. -/
theorem parent_of_walk {root : Node} {origin location : List String} {front : List Step}
    {last : Step} (walked : walk root origin (front ++ [last]) = .ok location)
    (missing : root.sight? location = none) :
    ∃ parent name, location = parent ++ [name] ∧ root.sight? parent = some .directory := by
  obtain ⟨around, -, entered, leads⟩ := walk_concat_eq_ok.mp walked
  cases leads with
  | stay => cases missing.symm.trans entered
  | down short => exact ⟨around, _, rfl, entered⟩
  | up =>
      rcases List.eq_nil_or_concat around with rfl | ⟨outer, name, rfl⟩
      · cases missing.symm.trans entered
      · rw [List.concat_eq_append, List.dropLast_concat] at missing
        rw [List.concat_eq_append] at entered
        have enclosing : root.sight? outer = some .directory :=
          directory_of_below (by rw [entered]; exact nofun)
        cases missing.symm.trans enclosing

/-! ## Making directories -/

/-- A tree that has grown along steps: new are only directories that a part of the steps leads
to. -/
def Grows (origin : List String) (steps : List Step) (before after : Node) : Prop :=
  ∀ location, after.sight? location = before.sight? location ∨
    before.sight? location = none ∧ after.sight? location = some .directory ∧
      ∃ front, front <+: steps ∧ walk after origin front = .ok location

namespace Grows

variable {origin : List String} {steps more : List Step} {before middle after : Node}

theorem refl (root : Node) : Grows origin steps root root := fun _ => .inl rfl

theorem directoriesStay (grows : Grows origin steps before after) :
    DirectoriesStay before after := by
  intro location there
  rcases grows location with same | ⟨missing, -, -⟩
  · rw [same, there]
  · cases missing.symm.trans there

theorem of_prefix (grows : Grows origin steps before after) (shorter : steps <+: more) :
    Grows origin more before after := by
  intro location
  rcases grows location with same | ⟨missing, made, front, among, walked⟩
  · exact .inl same
  · exact .inr ⟨missing, made, front, among.trans shorter, walked⟩

theorem trans (first : Grows origin steps before middle)
    (second : Grows origin steps middle after) : Grows origin steps before after := by
  intro location
  rcases second location with same | ⟨missing, made, passed⟩
  · rcases first location with unchanged | ⟨missing, made, front, among, walked⟩
    · exact .inl (same.trans unchanged)
    · exact .inr ⟨missing, same.trans made, front, among, second.directoriesStay.walk walked⟩
  · rcases first location with unchanged | ⟨-, already, -⟩
    · exact .inr ⟨unchanged.symm.trans missing, made, passed⟩
    · cases missing.symm.trans already

end Grows

/-- Steps lead to a directory. -/
def LeadsToDirectory (root : Node) (origin : List String) (steps : List Step) : Prop :=
  ∃ location, walk root origin steps = .ok location ∧ root.sight? location = some .directory

theorem leadsToDirectory_of_concat {root : Node} {origin location : List String}
    {front : List Step} {last : Step} (walked : walk root origin (front ++ [last]) = .ok location) :
    LeadsToDirectory root origin front := by
  obtain ⟨around, before, entered, -⟩ := walk_concat_eq_ok.mp walked
  exact ⟨around, before, entered⟩

/-- An attempt to make the directory that steps lead to. The tree grows along the steps, and there
is a directory at their end exactly if the attempt succeeds. No steps are an attempt to do nothing. -/
structure Makes (origin : List String) (steps : List Step) (before : Node)
    (attempt : Attempt Unit × Node) : Prop where
  grows : Grows origin steps before attempt.2
  leads : attempt.1 = .ok () → steps ≠ [] → LeadsToDirectory attempt.2 origin steps
  fails : ∀ cause, attempt.1 = .error cause → ¬ LeadsToDirectory attempt.2 origin steps

theorem Makes.of_grown {origin : List String} {steps : List Step} {before around : Node}
    {attempt : Attempt Unit × Node} (grows : Grows origin steps before around)
    (makes : Makes origin steps around attempt) : Makes origin steps before attempt :=
  ⟨grows.trans makes.grows, makes.leads, makes.fails⟩

theorem makes_error {origin : List String} {steps : List Step} {before after : Node}
    (grows : Grows origin steps before after) (stuck : ¬ LeadsToDirectory after origin steps)
    (cause : String) : Makes origin steps before (.error cause, after) :=
  ⟨grows, nofun, fun _ _ => stuck⟩

theorem makeAt_makes {root : Node} {origin location : List String} {front : List Step}
    {last : Step} (walked : walk root origin (front ++ [last]) = .ok location) :
    Makes origin (front ++ [last]) root (makeAt root location) := by
  unfold makeAt
  cases found : root.get? location with
  | some node =>
      have seen : root.sight? location = some node.sight := by rw [sight?, found]; rfl
      cases node with
      | directory entries => exact ⟨.refl root, fun _ _ => ⟨location, walked, seen⟩, nofun⟩
      | file content =>
          refine makes_error (.refl root) ?_ _
          rintro ⟨_, again, entered⟩
          cases walked.symm.trans again
          cases seen.symm.trans entered
  | none =>
      have missing : root.sight? location = none := by rw [sight?, found]; rfl
      obtain ⟨parent, name, rfl, around⟩ := parent_of_walk walked missing
      have put_sight : (root.put (parent ++ [name]) (.directory [])).sight? =
          Function.update root.sight? (parent ++ [name]) (some .directory) :=
        sight?_put around (by rw [missing]; exact nofun) fun _ _ => rfl
      have made : (root.put (parent ++ [name]) (.directory [])).sight? (parent ++ [name]) =
          some .directory := by
        rw [put_sight, Function.update_self]
      have stay : DirectoriesStay root (root.put (parent ++ [name]) (.directory [])) := by
        intro other there
        rw [put_sight, Function.update_apply]
        split
        · rfl
        · exact there
      have arrived := stay.walk walked
      refine ⟨fun other => ?_, fun _ _ => ⟨_, arrived, made⟩, nofun⟩
      by_cases same : other = parent ++ [name]
      · subst same
        exact .inr ⟨missing, made, _, List.prefix_refl _, arrived⟩
      · exact .inl (by rw [put_sight, Function.update_of_ne same])

theorem makeDirectory_makes (root : Node) (origin : List String) (reversed : List Step) :
    Makes origin reversed.reverse root (makeDirectory root origin reversed) := by
  induction reversed with
  | nil => exact ⟨.refl root, fun _ some => (some rfl).elim, nofun⟩
  | cons last reversed ih =>
      rw [makeDirectory, List.reverse_cons]
      have inner : Grows origin (reversed.reverse ++ [last]) root
          (makeDirectory root origin reversed).2 :=
        ih.grows.of_prefix (List.prefix_append _ _)
      cases walked : walk root origin (reversed.reverse ++ [last]) with
      | ok location => exact makeAt_makes walked
      | error obstacle =>
          have stuck : ¬ LeadsToDirectory root origin (reversed.reverse ++ [last]) := by
            rintro ⟨_, again, -⟩
            cases walked.symm.trans again
          cases obstacle with
          | notDirectory => exact makes_error (.refl root) stuck _
          | tooLong => exact makes_error (.refl root) stuck _
          | illegal => exact makes_error (.refl root) stuck _
          | missing =>
              -- The directory around comes first. If it cannot be made, no step leads on.
              rcases made : makeDirectory root origin reversed with ⟨result, around⟩
              rw [made] at ih inner
              cases result with
              | error cause =>
                  refine makes_error inner ?_ _
                  rintro ⟨_, further, -⟩
                  exact ih.fails cause rfl (leadsToDirectory_of_concat further)
              | ok _ =>
                  cases further : walk around origin (reversed.reverse ++ [last]) with
                  | ok location =>
                      simp only [further]
                      exact (makeAt_makes further).of_grown inner
                  | error obstacle =>
                      simp only [further]
                      refine makes_error inner ?_ _
                      rintro ⟨_, again, -⟩
                      cases further.symm.trans again

/-- A directory that is there is left alone. -/
theorem makeDirectory_of_leads {root : Node} {origin : List String} {reversed : List Step}
    (there : LeadsToDirectory root origin reversed.reverse) :
    makeDirectory root origin reversed = (.ok (), root) := by
  cases reversed with
  | nil => rfl
  | cons last reversed =>
      obtain ⟨location, walked, entered⟩ := there
      simp only [makeDirectory, walked, makeAt]
      obtain ⟨node, found, seen⟩ := Option.map_eq_some_iff.mp entered
      cases node with
      | file content => cases seen
      | directory entries => rw [found]

/-! ## Steps up -/

/-- Every step up leads out of a directory that is there. -/
def StepsBack (root : Node) (origin : List String) (steps : List Step) : Prop :=
  ∀ front, front ++ [.up] <+: steps → LeadsToDirectory root origin front

theorem StepsBack.of_prefix {root : Node} {origin : List String} {steps more : List Step}
    (back : StepsBack root origin more) (shorter : steps <+: more) :
    StepsBack root origin steps :=
  fun front among => back front (among.trans shorter)

/-- A directory that was there before the tree grew was reached by the same steps. -/
theorem StepsBack.walk {before after : Node} {origin target : List String} {steps : List Step}
    (back : StepsBack before origin steps) (stay : DirectoriesStay before after)
    (walked : walk after origin steps = .ok target)
    (there : before.sight? target = some .directory) :
    Disk.walk before origin steps = .ok target := by
  -- The last step up settles what comes before it. Later steps go down through directories around
  -- the target.
  induction steps using List.reverseRecOn generalizing target with
  | nil => exact walked
  | append_singleton front last ih =>
      obtain ⟨location, earlier, entered, leads⟩ := walk_concat_eq_ok.mp walked
      have front_back := back.of_prefix (List.prefix_append front [last])
      have located : Disk.walk before origin front = .ok location ∧
          before.sight? location = some .directory := by
        cases leads with
        | stay => exact ⟨ih front_back earlier there, there⟩
        | down short =>
            have around : before.sight? location = some .directory :=
              directory_of_below (by rw [there]; exact nofun)
            exact ⟨ih front_back earlier around, around⟩
        | up =>
            obtain ⟨known, reached, inside⟩ := back front (List.prefix_refl _)
            cases earlier.symm.trans (stay.walk reached)
            exact ⟨reached, inside⟩
      exact walk_concat_eq_ok.mpr ⟨location, located.1, located.2, leads⟩

/-- If every step up leads out of a directory that was there, then the tree has grown only on the
way down to the end of the steps. -/
theorem StepsBack.prefix_of_new {before after : Node} {origin target location : List String}
    {steps front : List Step} (back : StepsBack before origin steps)
    (stay : DirectoriesStay before after) (walked : Disk.walk after origin steps = .ok target)
    (among : front <+: steps) (passed : Disk.walk after origin front = .ok location)
    (missing : before.sight? location = none) : location <+: target := by
  obtain ⟨rest, rfl⟩ := among
  obtain ⟨middle, first, further⟩ := walk_append_eq_ok.mp walked
  cases passed.symm.trans first
  apply prefix_of_walk ?_ further
  intro later
  obtain ⟨between, others, rfl⟩ := List.append_of_mem later
  obtain ⟨known, reached, inside⟩ := back (front ++ between) (by simp)
  obtain ⟨_, early, onward⟩ := walk_append_eq_ok.mp reached
  cases passed.symm.trans (stay.walk early)
  cases between with
  | nil =>
      cases walk_nil_eq_ok.mp onward
      cases missing.symm.trans inside
  | cons step between =>
      cases missing.symm.trans (walk_cons_eq_ok.mp onward).1

end Disk

end Files

end SymbolResolver

import Mathlib.Data.List.Find
import SymbolResolver.Proofs.Forecasts
import SymbolResolver.Snapshot

/-!
# Snapshots with and without a cache

An answer from a cache is the answer to the first reference that had the same file identity, text
and language. Files of a snapshot that share a path share their identity, though their packages,
aliases and imports may differ. So keeping answers changes what a snapshot resolves to exactly if
such a file repeats a reference that means something else there, and no failure ends the work before
(`Snapshot.resolutionsFrom_firstAsked_iff`).
-/

namespace SymbolResolver

open Lazy Resolution

/-! ## Results of given answers -/

section Mapping

variable {α β : Type} {work : α → Outcome β} {items : List α}

theorem mapM_of_all_ok {value : α → β} (all_ok : ∀ item ∈ items, work item = .ok (value item)) :
    items.mapM work = .ok (items.map value) := by
  induction items with
  | nil => rfl
  | cons item items ih =>
      rw [List.forall_mem_cons] at all_ok
      rw [List.mapM_cons, all_ok.1, ih all_ok.2]
      rfl

/-- Where only one error can occur, it does not matter which item fails first. -/
theorem mapM_of_failure {error : Error}
    (only : ∀ item ∈ items, ∀ other, work item = .error other → other = error)
    (failed : ∃ item ∈ items, work item = .error error) : items.mapM work = .error error := by
  induction items with
  | nil => simp at failed
  | cons item items ih =>
      rw [List.forall_mem_cons] at only
      rw [List.mapM_cons]
      cases first : work item with
      | error other =>
          rw [only.1 other first]
          rfl
      | ok value =>
          have failed_later : ∃ item ∈ items, work item = .error error := by
            simpa [first] using failed
          rw [ih only.2 failed_later]
          rfl

end Mapping

namespace SnapshotFile

/-- The references of a file with given answers. -/
def answersFrom (given : Occurrence → Outcome Answer) (file : FileContext)
    (references : List ReferenceName) : Outcome (List (ReferenceName × Answer)) :=
  references.mapM fun reference => (given (file, reference)).map (reference, ·)

/-- The requests for the references of a file. -/
def requests (file : SnapshotFile) : List Occurrence :=
  file.referenceNames.map fun reference => (file.context, reference)

/-- What a file resolves to with given answers. -/
def resolutionFrom (given : Occurrence → Outcome Answer) (file : SnapshotFile) :
    Outcome FileResolution :=
  (answersFrom given file.context file.referenceNames).map fun answers =>
    ⟨file.path, .ofAnswers answers⟩

end SnapshotFile

namespace Snapshot

/-- All requests for the references of a snapshot, in order. -/
def requests (snapshot : Snapshot) : List Occurrence := snapshot.files.flatMap SnapshotFile.requests

/-- What a snapshot resolves to with given answers. -/
def resolutionsFrom (given : Occurrence → Outcome Answer) (snapshot : Snapshot) :
    Outcome (List FileResolution) :=
  snapshot.files.mapM (SnapshotFile.resolutionFrom given)

end Snapshot

/-! ## Comparing results -/

theorem Resolution.Summary.mem_resolved {answers : List (ReferenceName × Answer)}
    {written resolved : ReferenceName} :
    ⟨written, resolved⟩ ∈ (Summary.ofAnswers answers).resolved ↔
      (written, some resolved) ∈ answers := by
  simp only [Summary.ofAnswers, List.mem_filterMap]
  constructor
  · rintro ⟨⟨reference, answer⟩, member, found⟩
    obtain ⟨_, rfl, same⟩ := Option.map_eq_some_iff.mp found
    rw [ResolvedReference.mk.injEq] at same
    rw [← same.1, ← same.2]
    exact member
  · exact fun member => ⟨_, member, rfl⟩

namespace SnapshotFile

/-- What a file resolves to if every request succeeds. -/
def resolutionOf (value : Occurrence → Answer) (file : SnapshotFile) : FileResolution :=
  ⟨file.path, .ofAnswers (file.referenceNames.map fun reference =>
    (reference, value (file.context, reference)))⟩

/-- The resolution of a file tells all answers. -/
theorem resolutionOf_eq_iff {value other : Occurrence → Answer} {file : SnapshotFile} :
    file.resolutionOf value = file.resolutionOf other ↔
      ∀ occurrence ∈ file.requests, value occurrence = other occurrence := by
  rw [requests, List.forall_mem_map]
  constructor
  · intro same reference member
    -- A reference has one answer in a file, so the answer can be read off from the summary.
    have same_resolved := congrArg (fun result => result.summary.resolved) same
    apply Option.ext
    intro resolved
    have is_answer : ∀ given : Occurrence → Answer,
        given (file.context, reference) = some resolved ↔
          ⟨reference, resolved⟩ ∈ (file.resolutionOf given).summary.resolved := by
      intro given
      rw [resolutionOf, Summary.mem_resolved, List.mem_map]
      constructor
      · exact fun answered => ⟨reference, member, by rw [answered]⟩
      · rintro ⟨_, _, same_pair⟩
        obtain ⟨rfl, answered⟩ := Prod.mk.inj same_pair
        exact answered
    rw [is_answer value, is_answer other, same_resolved]
  · intro same
    have same_answers : (file.referenceNames.map fun reference =>
        (reference, value (file.context, reference))) = file.referenceNames.map fun reference =>
        (reference, other (file.context, reference)) := by
      rw [List.map_inj_left]
      intro reference member
      rw [same reference member]
    rw [resolutionOf, same_answers, resolutionOf]

variable {given : Occurrence → Outcome Answer} {file : SnapshotFile}

theorem resolutionFrom_ok {value : Occurrence → Answer}
    (all_ok : ∀ occurrence ∈ file.requests, given occurrence = .ok (value occurrence)) :
    file.resolutionFrom given = .ok (file.resolutionOf value) := by
  rw [requests, List.forall_mem_map] at all_ok
  have answered : answersFrom given file.context file.referenceNames = .ok (file.referenceNames.map
      fun reference => (reference, value (file.context, reference))) :=
    mapM_of_all_ok fun reference member => by rw [all_ok reference member]; rfl
  rw [resolutionFrom, answered]
  rfl

theorem resolutionFrom_error {error : Error}
    (only : ∀ occurrence other, given occurrence = .error other → other = error)
    (failed : ∃ occurrence ∈ file.requests, given occurrence = .error error) :
    file.resolutionFrom given = .error error := by
  obtain ⟨occurrence, member, occurrence_failed⟩ := failed
  obtain ⟨reference, reference_member, rfl⟩ := List.mem_map.mp member
  have answered : answersFrom given file.context file.referenceNames = .error error := by
    apply mapM_of_failure
    · intro other_reference _ other other_failed
      cases answered : given (file.context, other_reference) with
      | error own_error =>
          rw [answered] at other_failed
          exact Except.error.inj other_failed ▸ only _ own_error answered
      | ok value => simp [answered, Except.map] at other_failed
    · exact ⟨reference, reference_member, by rw [occurrence_failed]; rfl⟩
  rw [resolutionFrom, answered]
  rfl

end SnapshotFile

namespace Snapshot

theorem resolutionsFrom_ok {given : Occurrence → Outcome Answer} {snapshot : Snapshot}
    {value : Occurrence → Answer}
    (all_ok : ∀ occurrence ∈ snapshot.requests, given occurrence = .ok (value occurrence)) :
    snapshot.resolutionsFrom given =
      .ok (snapshot.files.map (SnapshotFile.resolutionOf value)) := by
  rw [requests, List.forall_mem_flatMap] at all_ok
  exact mapM_of_all_ok fun file member => SnapshotFile.resolutionFrom_ok (all_ok file member)

theorem exists_value_of_no_failure {given : Occurrence → Outcome Answer} {asked : List Occurrence}
    (no_failure : ¬∃ occurrence ∈ asked, ∃ error, given occurrence = .error error) :
    ∃ value : Occurrence → Answer,
      ∀ occurrence ∈ asked, given occurrence = .ok (value occurrence) := by
  refine ⟨fun occurrence => (given occurrence).toOption.getD none, fun occurrence member => ?_⟩
  cases answered : given occurrence with
  | error error => exact absurd ⟨occurrence, member, error, answered⟩ no_failure
  | ok answer => simp [answered, Except.toOption]

theorem resolutionsFrom_error {given : Occurrence → Outcome Answer} {snapshot : Snapshot}
    {error : Error} (only : ∀ occurrence other, given occurrence = .error other → other = error)
    (failed : ∃ occurrence ∈ snapshot.requests, given occurrence = .error error) :
    snapshot.resolutionsFrom given = .error error := by
  obtain ⟨occurrence, member, occurrence_failed⟩ := failed
  obtain ⟨file, file_member, in_file⟩ := List.mem_flatMap.mp member
  apply mapM_of_failure
  · intro other_file _ other other_failed
    by_cases fails : ∃ occurrence ∈ other_file.requests, ∃ error, given occurrence = .error error
    · obtain ⟨second, second_member, own_error, second_failed⟩ := fails
      have own_eq := only second own_error second_failed
      rw [SnapshotFile.resolutionFrom_error only ⟨second, second_member, own_eq ▸ second_failed⟩]
        at other_failed
      exact (Except.error.inj other_failed).symm
    · obtain ⟨value, all_ok⟩ := exists_value_of_no_failure fails
      simp [SnapshotFile.resolutionFrom_ok all_ok] at other_failed
  · exact ⟨file, file_member,
      SnapshotFile.resolutionFrom_error only ⟨occurrence, in_file, occurrence_failed⟩⟩

/-- Where only one error can occur, a snapshot fails with it or all its requests succeed. -/
theorem resolutionsFrom_cases {given : Occurrence → Outcome Answer} {fault : Option Error}
    (only : ∀ occurrence error, given occurrence = .error error → fault = some error)
    (snapshot : Snapshot) :
    (∃ error, fault = some error ∧ snapshot.resolutionsFrom given = .error error ∧
      ∃ occurrence ∈ snapshot.requests, given occurrence = .error error) ∨
    ∃ value, snapshot.resolutionsFrom given =
        .ok (snapshot.files.map (SnapshotFile.resolutionOf value)) ∧
      ∀ occurrence ∈ snapshot.requests, given occurrence = .ok (value occurrence) := by
  by_cases fails : ∃ occurrence ∈ snapshot.requests, ∃ error, given occurrence = .error error
  · obtain ⟨occurrence, member, error, failed⟩ := fails
    have is_fault := only occurrence error failed
    have only_error : ∀ second other, given second = .error other → other = error := by
      intro second other second_failed
      exact Option.some.inj ((only second other second_failed).symm.trans is_fault)
    exact Or.inl ⟨error, is_fault, resolutionsFrom_error only_error ⟨occurrence, member, failed⟩,
      occurrence, member, failed⟩
  · obtain ⟨value, all_ok⟩ := exists_value_of_no_failure fails
    exact Or.inr ⟨value, resolutionsFrom_ok all_ok, all_ok⟩

/-- Where only one error can occur, two ways to answer have the same result exactly if all answers
agree or both fail. -/
theorem resolutionsFrom_eq_iff {given other : Occurrence → Outcome Answer} {fault : Option Error}
    (given_only : ∀ occurrence error, given occurrence = .error error → fault = some error)
    (other_only : ∀ occurrence error, other occurrence = .error error → fault = some error)
    {snapshot : Snapshot} :
    snapshot.resolutionsFrom given = snapshot.resolutionsFrom other ↔
      (∀ occurrence ∈ snapshot.requests, given occurrence = other occurrence) ∨
      (∃ occurrence ∈ snapshot.requests, ∃ error, given occurrence = .error error) ∧
        ∃ occurrence ∈ snapshot.requests, ∃ error, other occurrence = .error error := by
  have ok_excludes : ∀ {answers : Occurrence → Outcome Answer} {value : Occurrence → Answer},
      (∀ occurrence ∈ snapshot.requests, answers occurrence = .ok (value occurrence)) →
      ¬∃ occurrence ∈ snapshot.requests, ∃ error, answers occurrence = .error error := by
    rintro answers value all_ok ⟨occurrence, member, error, failed⟩
    simp [all_ok occurrence member] at failed
  rcases resolutionsFrom_cases given_only snapshot with
    ⟨error, is_fault, given_eq, occurrence, member, failed⟩ | ⟨value, given_eq, all_ok⟩ <;>
  rcases resolutionsFrom_cases other_only snapshot with
    ⟨second, second_fault, other_eq, place, place_member, place_failed⟩ |
      ⟨other_value, other_eq, other_ok⟩ <;>
  rw [given_eq, other_eq]
  · obtain rfl : error = second := Option.some.inj (is_fault.symm.trans second_fault)
    exact iff_of_true rfl
      (Or.inr ⟨⟨occurrence, member, error, failed⟩, place, place_member, error, place_failed⟩)
  · refine iff_of_false nofun ?_
    rintro (agree | ⟨_, fails⟩)
    · exact ok_excludes other_ok ⟨occurrence, member, error, agree occurrence member ▸ failed⟩
    · exact ok_excludes other_ok fails
  · refine iff_of_false nofun ?_
    rintro (agree | ⟨fails, _⟩)
    · exact ok_excludes all_ok
        ⟨place, place_member, second, agree place place_member ▸ place_failed⟩
    · exact ok_excludes all_ok fails
  · rw [or_iff_left fun both => ok_excludes all_ok both.1, Except.ok.injEq, List.map_inj_left]
    simp only [SnapshotFile.resolutionOf_eq_iff, ← List.forall_mem_flatMap]
    refine forall₂_congr fun occurrence member => ?_
    rw [all_ok occurrence member, other_ok occurrence member, Except.ok.injEq]

/-! ## Resolving one request after the other -/

/-- A resolver answers a list of requests as given, if they come one after the other. What has been
asked is tracked by a property of the world. -/
def Serves (resolver : Resolver) (given : Occurrence → Outcome Answer) (requests : List Occurrence)
    (Tracks : List Occurrence → World → Prop) : Prop :=
  ∀ asked occurrence later, requests = asked ++ occurrence :: later → ∀ world, Tracks asked world →
    ∃ after, resolver.resolve occurrence.1 occurrence.2.text occurrence.2.language world =
        (.finished (given occurrence), after) ∧ Tracks (asked ++ [occurrence]) after

namespace Serves

variable {resolver : Resolver} {given : Occurrence → Outcome Answer} {requests : List Occurrence}
  {Tracks : List Occurrence → World → Prop}

theorem resolveEach (serves : Serves resolver given requests Tracks) (file : FileContext)
    (references : List ReferenceName) {asked later : List Occurrence} {world : World}
    (split_eq : requests = asked ++ (references.map fun reference => (file, reference)) ++ later)
    (tracks : Tracks asked world) :
    ∃ after, resolver.resolveEach file references world =
        (.finished (SnapshotFile.answersFrom given file references), after) ∧
      ∀ answers, SnapshotFile.answersFrom given file references = .ok answers →
        Tracks (asked ++ references.map fun reference => (file, reference)) after := by
  induction references generalizing asked world with
  | nil =>
      refine ⟨world, rfl, fun _ _ => ?_⟩
      simpa using tracks
  | cons reference references ih =>
      obtain ⟨middle, resolved, middle_tracks⟩ :=
        serves asked (file, reference) _ (by simpa using split_eq) world tracks
      rw [Resolver.resolveEach, resolved]
      cases answered : given (file, reference) with
      | error error =>
          have ended : SnapshotFile.answersFrom given file (reference :: references) =
              .error error := by
            rw [SnapshotFile.answersFrom, List.mapM_cons, answered]
            rfl
          rw [ended]
          exact ⟨middle, rfl, fun _ impossible => nomatch impossible⟩
      | ok answer =>
          obtain ⟨after, rest_resolved, rest_tracks⟩ := ih (by simpa using split_eq) middle_tracks
          have continued : SnapshotFile.answersFrom given file (reference :: references) =
              (SnapshotFile.answersFrom given file references).map ((reference, answer) :: ·) := by
            rw [SnapshotFile.answersFrom, List.mapM_cons, answered]
            rfl
          simp only [World.andThen, rest_resolved, continued]
          cases rest : SnapshotFile.answersFrom given file references with
          | error error => exact ⟨after, rfl, fun _ impossible => nomatch impossible⟩
          | ok answers =>
              refine ⟨after, rfl, fun _ _ => ?_⟩
              simpa using rest_tracks answers rest

theorem resolveFiles (serves : Serves resolver given requests Tracks) (files : List SnapshotFile)
    {asked : List Occurrence} {world : World}
    (split_eq : requests = asked ++ files.flatMap SnapshotFile.requests)
    (tracks : Tracks asked world) :
    ∃ after, Snapshot.resolveFiles resolver files world =
      (.finished (resolutionsFrom given ⟨files⟩), after) := by
  induction files generalizing asked world with
  | nil => exact ⟨world, rfl⟩
  | cons file files ih =>
      rw [List.flatMap_cons, ← List.append_assoc] at split_eq
      obtain ⟨middle, resolved, middle_tracks⟩ :=
        serves.resolveEach file.context file.referenceNames split_eq tracks
      rw [Snapshot.resolveFiles, Resolver.resolveAll, resolved, resolutionsFrom, List.mapM_cons,
        SnapshotFile.resolutionFrom]
      cases answered : SnapshotFile.answersFrom given file.context file.referenceNames with
      | error error => exact ⟨middle, rfl⟩
      | ok answers =>
          obtain ⟨after, rest_resolved⟩ := ih split_eq (middle_tracks answers answered)
          simp only [World.andThen, rest_resolved]
          rw [resolutionsFrom]
          cases files.mapM (SnapshotFile.resolutionFrom given) with
          | error error => exact ⟨after, rfl⟩
          | ok results => exact ⟨after, rfl⟩

theorem resolveWith {snapshot : Snapshot} {world : World}
    (serves : Serves resolver given snapshot.requests Tracks) (tracks : Tracks [] world) :
    (snapshot.resolveWith resolver world).1 = .finished (snapshot.resolutionsFrom given) := by
  obtain ⟨after, resolved⟩ := serves.resolveFiles snapshot.files (List.nil_append _).symm tracks
  rw [Snapshot.resolveWith, resolved]

end Serves

/-! ## The forecast of a snapshot -/

/-- The outcomes of the sources of a snapshot, which are its first cells. -/
def foreseen (snapshot : Snapshot) (cell : Nat) : Outcome Payload :=
  ((snapshot.files[cell]?).map fun file => file.declaredNames.map Payload.declarations).getD
    (.ok (.declarations []))

theorem fileSources_cells (store : Store Event Payload) (files : List SnapshotFile) :
    (fileSources store files).2.cells = store.cells ++ files.map fun file =>
      ⟨.pending (.finish (file.declaredNames.map Payload.declarations)), []⟩ := by
  induction files generalizing store with
  | nil => simp [fileSources]
  | cons file files ih => simp [fileSources, ih, fileSource, Store.defer, Store.allocate]

theorem fileSources_placed {store : Store Event Payload} (ordered : store.Ordered)
    (files : List SnapshotFile) :
    (fileSources store files).2.Ordered ∧
      ∀ source ∈ (fileSources store files).1, source.cell < (fileSources store files).2.size := by
  induction files generalizing store with
  | nil => exact ⟨ordered, by simp [fileSources]⟩
  | cons file files ih =>
      have work_within : (Computation.finish (file.declaredNames.map Payload.declarations) :
          Computation Event Payload (Outcome Payload)).Within (below store.size) := trivial
      have file_ordered : (fileSource store file).2.Ordered := ordered.defer work_within []
      obtain ⟨rest_ordered, rest_before⟩ := ih file_ordered
      refine ⟨rest_ordered, List.forall_mem_cons.mpr ⟨?_, rest_before⟩⟩
      have size_eq : (fileSources (fileSource store file).2 files).2.size =
          store.size + (files.length + 1) := by
        simp [Store.size, fileSources_cells, fileSource, Store.defer, Store.allocate]
      change store.size < (fileSources (fileSource store file).2 files).2.size
      rw [size_eq]
      omega

theorem declarations_placed (snapshot : Snapshot) :
    Placed (snapshot.declarations .empty).2.store (snapshot.declarations .empty).1 :=
  (placed_build (fileSources_placed Store.ordered_empty snapshot.files).1
    (fileSources_placed Store.ordered_empty snapshot.files).2).2

/-- The forecast of a snapshot under a configuration. -/
def forecast (snapshot : Snapshot) (config : Config) : Forecast where
  kinds := config.stages
  stdlib := .ofTable config.stdlib
  declarations := (snapshot.declarations .empty).1
  shown := snapshot.foreseen
  sources_before := snapshot.declarations_placed.sources_before

theorem resolverOf_cached (snapshot : Snapshot) (config : Config) :
    snapshot.resolverOf { config with cacheResults := true } .empty =
      ((snapshot.forecast config).resolver (some 0),
        ⟨(snapshot.declarations .empty).2.store, [.empty]⟩) := rfl

theorem resolverOf_plain (snapshot : Snapshot) (config : Config) :
    snapshot.resolverOf { config with cacheResults := false } .empty =
      ((snapshot.forecast config).resolver none,
        ⟨(snapshot.declarations .empty).2.store, []⟩) := rfl

/-- Nothing has run when the declarations of a snapshot have been built. -/
theorem forecast_holds (snapshot : Snapshot) (config : Config) :
    (snapshot.forecast config).Holds (snapshot.declarations .empty).2.store := by
  have sources_size : (fileSources .empty snapshot.files).2.size = snapshot.files.length := by
    simp [Store.size, fileSources_cells, Store.empty]
  have built_state : ∀ cell, (snapshot.declarations .empty).2.store.state? cell =
      if cell = snapshot.files.length then
        some (.pending (Collection.mergeWork (snapshot.declarations .empty).1.sources))
      else (fileSources .empty snapshot.files).2.state? cell := by
    intro cell
    rw [← sources_size]
    exact Store.state?_allocate _ _ _ cell
  have merged_eq : (snapshot.declarations .empty).1.merged = snapshot.files.length := sources_size
  refine ⟨⟨fun cell before => Or.inl ?_, ?_⟩, snapshot.declarations_placed.merged_lt⟩
  · change cell < (snapshot.declarations .empty).1.merged at before
    rw [merged_eq] at before
    rw [built_state, if_neg (Nat.ne_of_lt before), Store.state?, fileSources_cells]
    simp [Store.empty, forecast, foreseen, before]
  · change (snapshot.declarations .empty).2.store.outcome?
      (snapshot.declarations .empty).1.merged = none
    rw [Store.outcome?, merged_eq, built_state, if_pos rfl]
    rfl

/-! ## Requests with one key -/

/-- The first request of a snapshot for the same reference in a file of the same identity. -/
def firstAsked (snapshot : Snapshot) (occurrence : Occurrence) : Occurrence :=
  (snapshot.requests.find? fun earlier =>
    earlier.1.id == occurrence.1.id && earlier.2 == occurrence.2).getD occurrence

theorem trim_of_mem_requests {snapshot : Snapshot} {occurrence : Occurrence}
    (member : occurrence ∈ snapshot.requests) :
    Text.trim occurrence.2.text = occurrence.2.text := by
  obtain ⟨file, _, in_file⟩ := List.mem_flatMap.mp member
  obtain ⟨reference, reference_member, rfl⟩ := List.mem_map.mp in_file
  obtain ⟨text, _, rfl⟩ := List.mem_map.mp reference_member
  exact Text.trim_trim text

theorem keyOf_eq_iff {snapshot : Snapshot} (config : Config) {first second : Occurrence}
    (first_member : first ∈ snapshot.requests) (second_member : second ∈ snapshot.requests) :
    (snapshot.forecast config).keyOf first = (snapshot.forecast config).keyOf second ↔
      first.1.id = second.1.id ∧ first.2 = second.2 := by
  have key_eq : ∀ occurrence, (snapshot.forecast config).keyOf occurrence =
      ⟨occurrence.1.id, Text.trim occurrence.2.text, occurrence.2.language, none⟩ := fun _ => rfl
  obtain ⟨_, text, language⟩ := first
  obtain ⟨_, second_text, second_language⟩ := second
  rw [key_eq, key_eq, trim_of_mem_requests first_member, trim_of_mem_requests second_member]
  simp

/-- The first request with the key of a request is the first one for its reference. -/
theorem first?_requests {snapshot : Snapshot} (config : Config) {occurrence first : Occurrence}
    (member : occurrence ∈ snapshot.requests)
    (is_first : (snapshot.forecast config).first? snapshot.requests
      ((snapshot.forecast config).keyOf occurrence) = some first) :
    snapshot.firstAsked occurrence = first := by
  have same_test : (snapshot.requests.find? fun earlier =>
      earlier.1.id == occurrence.1.id && earlier.2 == occurrence.2) =
      (snapshot.forecast config).first? snapshot.requests
        ((snapshot.forecast config).keyOf occurrence) := by
    apply List.find?_congr
    intro earlier earlier_member
    rw [Bool.eq_iff_iff]
    simp only [Bool.and_eq_true, beq_iff_eq]
    exact (keyOf_eq_iff config earlier_member member).symm
  rw [firstAsked, same_test, is_first, Option.getD_some]

theorem firstAsked_mem {snapshot : Snapshot} {occurrence : Occurrence}
    (member : occurrence ∈ snapshot.requests) :
    snapshot.firstAsked occurrence ∈ snapshot.requests := by
  rw [firstAsked]
  cases found : snapshot.requests.find? fun earlier =>
      earlier.1.id == occurrence.1.id && earlier.2 == occurrence.2 with
  | none => exact member
  | some first => exact List.mem_of_find?_eq_some found

/-! ## Both settings -/

/-- What a snapshot resolves to under a configuration. -/
def resolution (snapshot : Snapshot) (config : Config) : Ending (List FileResolution) :=
  let (resolver, world) := snapshot.resolverOf config .empty
  (snapshot.resolveWith resolver world).1

/-- The answer to a request of its own, when no answers are kept. -/
def ownAnswer (snapshot : Snapshot) (config : Config) (occurrence : Occurrence) : Ending Answer :=
  let (resolver, world) := snapshot.resolverOf { config with cacheResults := false } .empty
  (resolver.resolve occurrence.1 occurrence.2.text occurrence.2.language world).1

theorem ownAnswer_eq (snapshot : Snapshot) (config : Config) (occurrence : Occurrence) :
    snapshot.ownAnswer config occurrence =
      .finished ((snapshot.forecast config).answer occurrence) := by
  have holds : (snapshot.forecast config).Holds
      (World.mk (snapshot.declarations .empty).2.store []).store := snapshot.forecast_holds config
  obtain ⟨after, resolved, _⟩ := Forecast.resolve_plain holds occurrence
  simp only [ownAnswer, resolverOf_plain, resolved]

/-- Without a cache every reference gets an answer of its own. -/
theorem resolution_plain (snapshot : Snapshot) (config : Config) :
    snapshot.resolution { config with cacheResults := false } =
      .finished (snapshot.resolutionsFrom (snapshot.forecast config).answer) := by
  have serves : Serves ((snapshot.forecast config).resolver none)
      (snapshot.forecast config).answer snapshot.requests
      fun _ world => (snapshot.forecast config).Holds world.store :=
    fun _ occurrence _ _ _ holds => Forecast.resolve_plain holds occurrence
  simp only [resolution, resolverOf_plain]
  exact serves.resolveWith (snapshot.forecast_holds config)

/-- With a cache every reference gets the answer to the first request that had its key. -/
theorem resolution_cached (snapshot : Snapshot) (config : Config) :
    snapshot.resolution { config with cacheResults := true } =
      .finished (snapshot.resolutionsFrom fun occurrence =>
        (snapshot.forecast config).answer (snapshot.firstAsked occurrence)) := by
  have serves : Serves ((snapshot.forecast config).resolver (some 0))
      (fun occurrence => (snapshot.forecast config).answer (snapshot.firstAsked occurrence))
      snapshot.requests (snapshot.forecast config).Records := by
    intro asked occurrence later split_eq world records
    obtain ⟨after, first, resolved, is_first, after_records⟩ :=
      Forecast.resolve_cached records occurrence
    have member : occurrence ∈ snapshot.requests := by simp [split_eq]
    have first_of_all : (snapshot.forecast config).first? snapshot.requests
        ((snapshot.forecast config).keyOf occurrence) = some first := by
      rw [split_eq, List.append_cons, Forecast.first?, List.find?_append, ← Forecast.first?,
        is_first, Option.some_or]
    simp only [first?_requests config member first_of_all]
    exact ⟨after, resolved, after_records⟩
  have nothing_asked : (snapshot.forecast config).Records []
      ⟨(snapshot.declarations .empty).2.store, [.empty]⟩ := by
    refine ⟨snapshot.forecast_holds config, Nat.zero_lt_one, ?_, fun _ _ => rfl⟩
    intro key cell found
    change Cache.empty.cell? key = some cell at found
    simp at found
  simp only [resolution, resolverOf_cached]
  exact serves.resolveWith nothing_asked

/-- The results with and without a cache are the same exactly if every reference means the same as
the first one that had its key, or one of these fails. -/
theorem resolutionsFrom_firstAsked_iff (snapshot : Snapshot) (config : Config) :
    (snapshot.resolutionsFrom fun occurrence =>
        (snapshot.forecast config).answer (snapshot.firstAsked occurrence)) =
      snapshot.resolutionsFrom (snapshot.forecast config).answer ↔
    (∀ occurrence ∈ snapshot.requests, snapshot.ownAnswer config (snapshot.firstAsked occurrence) =
      snapshot.ownAnswer config occurrence) ∨
    ∃ occurrence ∈ snapshot.requests, ∃ error,
      snapshot.ownAnswer config (snapshot.firstAsked occurrence) = .finished (.error error) := by
  have only : ∀ occurrence error, (snapshot.forecast config).answer occurrence = .error error →
      fault? (snapshot.forecast config).shown (snapshot.forecast config).declarations.sources =
        some error := fun _ _ => (snapshot.forecast config).fault_of_answer
  rw [resolutionsFrom_eq_iff (fun occurrence => only (snapshot.firstAsked occurrence)) only]
  simp only [ownAnswer_eq, Computation.Progress.finished.injEq]
  refine or_congr_right ⟨And.left, fun failed => ⟨failed, ?_⟩⟩
  -- The first request fails without a cache, too.
  obtain ⟨occurrence, member, error, first_failed⟩ := failed
  exact ⟨snapshot.firstAsked occurrence, firstAsked_mem member, error, first_failed⟩

/-- Where files with one identity have one context, every request is as good as the first one for
its reference. -/
theorem firstAsked_eq_self {snapshot : Snapshot}
    (one_context : ∀ first ∈ snapshot.files, ∀ second ∈ snapshot.files,
      first.context.id = second.context.id → first.context = second.context)
    {occurrence : Occurrence} (member : occurrence ∈ snapshot.requests) :
    snapshot.firstAsked occurrence = occurrence := by
  have context_of_mem : ∀ request ∈ snapshot.requests, ∃ file ∈ snapshot.files,
      request.1 = file.context := by
    intro request request_member
    obtain ⟨file, file_member, in_file⟩ := List.mem_flatMap.mp request_member
    obtain ⟨reference, _, rfl⟩ := List.mem_map.mp in_file
    exact ⟨file, file_member, rfl⟩
  rw [firstAsked]
  cases found : snapshot.requests.find? fun earlier =>
      earlier.1.id == occurrence.1.id && earlier.2 == occurrence.2 with
  | none => rfl
  | some first =>
      have same := List.find?_some found
      simp only [Bool.and_eq_true, beq_iff_eq] at same
      obtain ⟨file, file_member, file_eq⟩ := context_of_mem first (List.mem_of_find?_eq_some found)
      obtain ⟨other, other_member, other_eq⟩ := context_of_mem occurrence member
      have same_context : first.1 = occurrence.1 := by
        rw [file_eq, other_eq] at same ⊢
        exact one_context file file_member other other_member same.1
      exact Prod.ext same_context same.2

/-- Keeping answers is of no consequence exactly if every reference means the same as the first one
with its file identity, text and language, or one of these first ones fails. This is so if files
with one identity have one context. -/
theorem cache_setting_exact (snapshot : Snapshot) (config : Config) :
    ∃ kept plainly,
      snapshot.resolution { config with cacheResults := true } = .finished kept ∧
      snapshot.resolution { config with cacheResults := false } = .finished plainly ∧
      (kept = plainly ↔
        (∀ occurrence ∈ snapshot.requests,
          snapshot.ownAnswer config (snapshot.firstAsked occurrence) =
            snapshot.ownAnswer config occurrence) ∨
        ∃ occurrence ∈ snapshot.requests, ∃ error,
          snapshot.ownAnswer config (snapshot.firstAsked occurrence) = .finished (.error error)) ∧
      ((∀ first ∈ snapshot.files, ∀ second ∈ snapshot.files,
          first.context.id = second.context.id → first.context = second.context) →
        kept = plainly) := by
  refine ⟨_, _, snapshot.resolution_cached config, snapshot.resolution_plain config,
    snapshot.resolutionsFrom_firstAsked_iff config, fun one_context => ?_⟩
  rw [resolutionsFrom_firstAsked_iff]
  exact Or.inl fun occurrence member => by rw [firstAsked_eq_self one_context member]

/-- A file at a fixed path that imports one name and refers to it. -/
def importingFile (imported : String) : SnapshotFile :=
  ⟨"app/Main.kt", ⟨"com.app"⟩, none, none, [imported], [], ["Foo"]⟩

/-- The request for the reference of such a file. -/
def importingRequest (imported : String) : Occurrence :=
  ((importingFile imported).context, ⟨"Foo", .kotlin⟩)

/-- Two snapshots with a file at the same path, each with an import of its own for a short name. -/
def clashing : Snapshot :=
  merge [⟨[importingFile "lib.one.Foo"]⟩, ⟨[importingFile "lib.two.Foo"]⟩]

/-- The default configuration without a standard library. -/
def clashingConfig : Config := { Config.default with stdlib := .empty }

theorem firstAsked_of_head {snapshot : Snapshot} {first occurrence : Occurrence}
    {later : List Occurrence} (requests_eq : snapshot.requests = first :: later)
    (same_id : first.1.id = occurrence.1.id) (same_reference : first.2 = occurrence.2) :
    snapshot.firstAsked occurrence = first := by
  simp [firstAsked, requests_eq, same_id, same_reference]

set_option maxRecDepth 2000 in
/-- A usable configuration for which it matters whether answers are kept. -/
theorem cache_setting_matters :
    clashingConfig.validate = .ok () ∧
      clashing.resolution { clashingConfig with cacheResults := true } ≠
        clashing.resolution { clashingConfig with cacheResults := false } := by
  refine ⟨rfl, ?_⟩
  rw [resolution_cached, resolution_plain, Ne, Computation.Progress.finished.injEq,
    resolutionsFrom_firstAsked_iff]
  have requests_eq : clashing.requests =
      [importingRequest "lib.one.Foo", importingRequest "lib.two.Foo"] := rfl
  have first_eq : ∀ occurrence ∈ clashing.requests,
      clashing.firstAsked occurrence = importingRequest "lib.one.Foo" := by
    rw [requests_eq, List.forall_mem_cons, List.forall_mem_singleton]
    exact ⟨firstAsked_of_head requests_eq rfl rfl, firstAsked_of_head requests_eq rfl rfl⟩
  have own_first : clashing.ownAnswer clashingConfig (importingRequest "lib.one.Foo") =
      .finished (.ok (some ⟨"lib.one.Foo", .kotlin⟩)) := by rfl
  have own_second : clashing.ownAnswer clashingConfig (importingRequest "lib.two.Foo") =
      .finished (.ok (some ⟨"lib.two.Foo", .kotlin⟩)) := by rfl
  have second_member : importingRequest "lib.two.Foo" ∈ clashing.requests := by
    rw [requests_eq]
    exact .tail _ (.head _)
  rintro (agree | ⟨occurrence, member, error, failed⟩)
  · have same := agree _ second_member
    rw [first_eq _ second_member, own_first, own_second] at same
    simp at same
  · rw [first_eq occurrence member, own_first] at failed
    simp at failed

end Snapshot

end SymbolResolver

import SymbolResolver.Proofs.FoundDeclarations
import SymbolResolver.Proofs.Membership
import SymbolResolver.Proofs.NameEquality

/-!
# Package hints

The source of a file rules out the names of other packages, and declared names are equal if their
qualified texts and their languages are. One text can be split into a package and simple names in
several ways, so a hint may rule out a name that the file holds under another split. What a
membership test on new declarations answers is said exactly (`Snapshot.package_hints_exact`): it
misses the names that are declared only in files of other packages (`Snapshot.package_hints_hide`),
and after all members have been read it finds them.
-/

namespace SymbolResolver

open Lazy Resolution

/-! ## Waiting -/

/-- A computation that begins with a wait and is not waiting has seen the outcome. -/
theorem exists_outcome_of_await {ε ν β : Type} {store : Store ε ν} {firm : Nat → Prop} {cell : Nat}
    {next : Outcome ν → Computation ε ν β} {trace : List ε} {rest : Computation ε ν β}
    (run : store.Runs firm (.await cell next) trace rest) (ended : rest.progress ≠ .waiting) :
    ∃ outcome, store.outcome? cell = some outcome := by
  cases run with
  | stay => exact absurd rfl ended
  | @await _ _ outcome _ _ known _ => exact ⟨outcome, known⟩

/-! ## The packages of declared names -/

/-- The names of a file are in its package, without blanks around it. -/
theorem SnapshotFile.package_of_declared {file : SnapshotFile} {names : List DeclaredName}
    (succeed : file.declaredNames = .ok names) {own : DeclaredName} (member : own ∈ names) :
    own.package = .ofText file.package.text := by
  have read : file.declarations.mapM file.declaredName = .ok names := by
    rw [SnapshotFile.declaredNames] at succeed
    cases found : file.declarations.mapM file.declaredName with
    | ok others =>
        rw [found] at succeed
        exact congrArg _ (Except.ok.inj succeed)
    | error fault =>
        rw [found] at succeed
        cases succeed
  obtain ⟨declaration, -, parsed⟩ := exists_of_mem_mapM read own member
  exact (DeclaredName.parts_of_parse parsed).1

namespace Snapshot

/-! ## New declarations -/

/-- Nothing has been merged in new declarations. -/
theorem unmerged_declarations (snapshot : Snapshot) (world : World) :
    (snapshot.declarations world).2.store.outcome? (snapshot.declarations world).1.merged =
      none := by
  have pending : (snapshot.declarations world).2.store.state?
      (snapshot.declarations world).1.merged = some (.pending (Collection.mergeWork
        (snapshot.declarations world).1.sources)) :=
    (Store.state?_allocate _ _ _ _).trans (if_pos rfl)
  rw [Store.outcome?, pending]
  rfl

namespace Stands

variable {snapshot : Snapshot} {collection : Collection DeclaredName} {trusted : Nat → Prop}
  {shown : Nat → Outcome Payload} {store : Store Event Payload}
  {names : SnapshotFile → List DeclaredName}

/-- A test that asks the sources comes to whether a file of the package holds the name. -/
theorem scanFor_means (stands : snapshot.Stands collection trusted shown store)
    (succeed : ∀ file ∈ snapshot.files, file.declaredNames = .ok (names file))
    (declared : DeclaredName) :
    (Collection.scanFor declared collection.sources :
      Computation Event Payload (Outcome Bool)).Means shown
        (.finished (.ok (snapshot.files.any fun file =>
          declared.package == file.package && (names file).contains declared))) := by
  have scanned : (Collection.scanFor declared collection.sources :
      Computation Event Payload (Outcome Bool)).Means shown _ :=
    Collection.scanFor_means declared collection.sources
  let admitting := snapshot.files.filter (declared.package == ·.package)
  have lists_eq : admitting.map SnapshotFile.declaredNames = (admitting.map names).map .ok := by
    rw [List.map_map]
    exact List.map_congr_left fun file member => succeed file (List.mem_filter.mp member).1
  have answer : ((admitting.map names).flatten.find? (declared == ·)).isSome =
      snapshot.files.any fun file =>
        declared.package == file.package && (names file).contains declared := by
    rw [isSome_find?_flatten, List.any_map, List.any_filter]
    rfl
  rw [lists_of_stand (admitted_of_stand stands.sources declared), lists_eq,
    firstIn_map_ok] at scanned
  rw [← answer]
  exact scanned

theorem scanFor_ends (stands : snapshot.Stands collection trusted shown store)
    (succeed : ∀ file ∈ snapshot.files, file.declaredNames = .ok (names file))
    (declared : DeclaredName) :
    (store.run (Collection.scanFor declared collection.sources)).1.progress =
      .finished (.ok (snapshot.files.any fun file =>
        declared.package == file.package && (names file).contains declared)) := by
  have within : (Collection.scanFor declared collection.sources :
      Computation Event Payload (Outcome Bool)).Within
        (relying trusted (fun _ => False) store.size) := by
    refine Collection.scanFor_within fun source member _ => ?_
    have is_trusted := trusted_of_stand stands.sources source member
    exact ⟨is_trusted, stands.inside _ is_trusted⟩
  exact stands.tells.run_progress (fun _ => False.elim) within
    (stands.scanFor_means succeed declared)

/-- Reading all members finds the distinct names of all files, and leaves them merged. -/
theorem materialize_ends (stands : snapshot.Stands collection trusted shown store)
    (succeed : ∀ file ∈ snapshot.files, file.declaredNames = .ok (names file)) :
    (store.run collection.materialize).1.progress =
        .finished (.ok (distinct (snapshot.files.flatMap names))) ∧
      (store.run (collection.materialize : Computation Event Payload
        (Outcome (List DeclaredName)))).2.outcome? collection.merged =
          some (.ok (.declarations (distinct (snapshot.files.flatMap names)))) := by
  let work : Computation Event Payload (Outcome (List DeclaredName)) := collection.materialize
  have within : work.Within (relying trusted (fun _ => False) store.size) :=
    Collection.materialize_within ⟨stands.merged_trusted, stands.inside _ stands.merged_trusted⟩
  have means : work.Means shown (.finished ((shown collection.merged).map Listed.unwrap)) :=
    (Computation.means_outcomeOf collection.merged).mapOk _
  rw [stands.merged_eq succeed] at means
  have ended := stands.tells.run_progress (fun _ => False.elim) within means
  refine ⟨ended, ?_⟩
  obtain ⟨trace, run⟩ := store.run_runs work
  have moved : (store.run work).1.progress ≠ .waiting := by
    rw [ended]
    nofun
  obtain ⟨outcome, known⟩ := exists_outcome_of_await run moved
  rw [known, (stands.run work).tells.outcome_eq stands.merged_trusted known,
    stands.merged_eq succeed]

end Stands

/-- What a membership test on new declarations answers, and what it answers after all members have
been read. -/
theorem package_hints_exact (snapshot : Snapshot) (names : SnapshotFile → List DeclaredName)
    (succeed : ∀ file ∈ snapshot.files, file.declaredNames = .ok (names file)) (world : World)
    (declared : DeclaredName) :
    let built := snapshot.declarations world
    let asked := built.2.store.run (built.1.contains declared)
    let read := asked.2.run built.1.materialize
    let again := read.2.run (built.1.contains declared)
    let admitted := snapshot.files.any fun file =>
      declared.package == file.package && (names file).contains declared
    let held := snapshot.files.any fun file => (names file).contains declared
    asked.1.progress = .finished (.ok admitted) ∧
    read.1.progress = .finished (.ok (distinct (snapshot.files.flatMap names))) ∧
    again.1.progress = .finished (.ok held) ∧
    -- Both answers agree exactly if a file of the name's own package holds it or no file does.
    (admitted = held ↔ ∀ file ∈ snapshot.files, (names file).contains declared = true →
      ∃ other ∈ snapshot.files, declared.package = other.package ∧
        (names other).contains declared = true) ∧
    -- The hints look at the package of what is declared, where equality looks at its text.
    ((∀ file ∈ snapshot.files, Text.trim file.package.text = file.package.text) →
      (admitted = true ↔ ∃ file ∈ snapshot.files, ∃ own ∈ names file,
        (declared == own) = true ∧ declared.package = own.package)) := by
  intro built asked read again admitted held
  obtain ⟨trusted, shown, stands⟩ := snapshot.declarations_stand world
  have asked_eq : asked = built.2.store.run (Collection.scanFor declared built.1.sources) :=
    Collection.run_of_unmerged fun stored known => by
      cases (snapshot.unmerged_declarations world).symm.trans known
  have asked_ends : asked.1.progress = .finished (.ok admitted) := by
    rw [asked_eq]
    exact stands.scanFor_ends succeed declared
  obtain ⟨read_ends, merged_known⟩ :=
    (stands.run (built.1.contains declared)).materialize_ends succeed
  have admitted_iff : admitted = true ↔ ∃ file ∈ snapshot.files,
      declared.package = file.package ∧ (names file).contains declared = true := by
    simp only [admitted, List.any_eq_true, Bool.and_eq_true, beq_iff_eq]
  have held_iff : held = true ↔ ∃ file ∈ snapshot.files, (names file).contains declared = true := by
    simp only [held, List.any_eq_true]
  refine ⟨asked_ends, read_ends, ?_, ?_, ?_⟩
  · have again_eq : again = (.finish (.ok ((distinct (snapshot.files.flatMap names)).contains
        declared)), read.2) := Collection.run_of_merged merged_known
    have held_eq : (distinct (snapshot.files.flatMap names)).contains declared = held := by
      rw [contains_distinct, List.contains_eq_any_beq, List.any_flatMap]
      simp only [held, List.contains_eq_any_beq]
    rw [again_eq, held_eq]
    rfl
  · constructor
    · intro same file member holds
      rw [← admitted_iff, same, held_iff]
      exact ⟨file, member, holds⟩
    · intro covered
      rw [Bool.eq_iff_iff, admitted_iff, held_iff]
      constructor
      · rintro ⟨file, member, -, holds⟩
        exact ⟨file, member, holds⟩
      · rintro ⟨file, member, holds⟩
        exact covered file member holds
  · intro trimmed
    have package_eq : ∀ file ∈ snapshot.files, ∀ own ∈ names file, own.package = file.package := by
      intro file member own held_own
      rw [SnapshotFile.package_of_declared (succeed file member) held_own, PackageName.ofText,
        trimmed file member]
    rw [admitted_iff]
    constructor
    · rintro ⟨file, member, same_package, holds⟩
      obtain ⟨own, own_member, same⟩ := List.contains_iff_exists_mem_beq.mp holds
      refine ⟨file, member, own, own_member, same, ?_⟩
      rw [same_package, package_eq file member own own_member]
    · rintro ⟨file, member, own, own_member, same, same_package⟩
      refine ⟨file, member, ?_, List.contains_iff_exists_mem_beq.mpr ⟨own, own_member, same⟩⟩
      rw [same_package, package_eq file member own own_member]

/-- A name that is declared under two splits of its text is found by the file of its package, and is
one member. -/
theorem package_hints_exact_twice :
    let file (package names : String) : SnapshotFile :=
      ⟨"a.kt", ⟨package⟩, none, none, [], [⟨names, none⟩], []⟩
    let snapshot : Snapshot := ⟨[file "app" "A.B", file "app.A" "B"]⟩
    let split : DeclaredName :=
      ⟨⟨"app.A"⟩, [⟨"B", by decide⟩], .singleton .kotlin, "app.A.B", List.cons_ne_nil _ _⟩
    let built := snapshot.declarations .empty
    (built.2.store.run (built.1.contains split)).1.progress = .finished (.ok true) ∧
      (distinct (snapshot.files.flatMap SnapshotFile.knownNames)).length = 1 := by
  intro file snapshot split built
  have parses : snapshot.Parses := by decide +kernel
  obtain ⟨asked_ends, -⟩ := snapshot.package_hints_exact SnapshotFile.knownNames
    (fun file member => SnapshotFile.declaredNames_eq (parses file member)) .empty split
  have admitted : (snapshot.files.any fun file => split.package == file.package &&
      file.knownNames.contains split) = true := by decide +kernel
  rw [admitted] at asked_ends
  exact ⟨asked_ends, by decide +kernel⟩

/-- A file of another package holds a name, but a membership test does not find it before all
members have been read. -/
theorem package_hints_hide :
    let file : SnapshotFile := ⟨"a.kt", ⟨"com.app"⟩, none, none, [], [⟨"A.B", none⟩], []⟩
    let split : DeclaredName :=
      ⟨⟨"com.app.A"⟩, [⟨"B", by decide⟩], .singleton .kotlin, "com.app.A.B", List.cons_ne_nil _ _⟩
    let built := (⟨[file]⟩ : Snapshot).declarations .empty
    let asked := built.2.store.run (built.1.contains split)
    let read := asked.2.run built.1.materialize
    let again := read.2.run (built.1.contains split)
    file.declaredNames.map (·.contains split) = .ok true ∧
      asked.1.progress = .finished (.ok false) ∧ again.1.progress = .finished (.ok true) := by
  decide +kernel

end Snapshot

end SymbolResolver

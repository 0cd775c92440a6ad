import Mathlib.Computability.Primrec.List
import Mathlib.Data.List.Permutation
import SymbolResolver.Proofs.NameEquality
import SymbolResolver.Proofs.Readings

/-!
# First matches

A search for the first match looks through the merged list if it is there when the search begins,
and otherwise through the lists of the sources, where equal elements stand beside each other. A test
may tell equal elements apart, and then the two do not always find the same
(`Shelf.first_match_exact`, `Shelf.first_match_copies`): they do exactly if the first match among
the lists of the sources is the first of its equals.
-/

namespace SymbolResolver

namespace Lazy

variable {ε ν α β : Type}

/-! ## Keeping the first of equal elements -/

section Distinct

variable [BEq α] {test : α → Bool}

/-- The first match is kept if it comes first among its equals. -/
theorem find?_distinctAfter_of_first {met items : List α} {found : α}
    (matched : items.find? test = some found) (kept : found ∈ distinctAfter met items) :
    (distinctAfter met items).find? test = some found := by
  induction items generalizing met with
  | nil => cases matched
  | cons item items ih =>
      rw [distinctAfter] at kept ⊢
      cases passes : test item with
      | true =>
          rw [List.find?_cons_of_pos passes] at matched
          obtain rfl : item = found := Option.some.inj matched
          split at kept
          · next known =>
            rw [contains_of_mem_distinctAfter kept] at known
            cases known
          · next fresh =>
            rw [if_neg fresh, List.find?_cons_of_pos passes]
      | false =>
          rw [List.find?_cons_of_neg (by simp [passes])] at matched
          split at kept
          · next known =>
            rw [if_pos known]
            exact ih matched kept
          · next fresh =>
            rw [if_neg fresh, List.find?_cons_of_neg (by simp [passes])]
            rcases List.mem_cons.mp kept with rfl | later
            · rw [List.find?_some matched] at passes
              cases passes
            · exact ih matched later

/-- A test finds the same before and after equal elements are dropped exactly if what it finds
before is the first of its equals. -/
theorem find?_distinct_eq_iff [EquivBEq α] (items : List α) :
    (distinct items).find? test = items.find? test ↔
      ∀ found, items.find? test = some found → items.find? (· == found) = some found := by
  constructor
  · intro same found matched
    rw [matched] at same
    exact mem_distinct_iff.mp (List.mem_of_find?_eq_some same)
  · intro first
    cases matched : items.find? test with
    | some found =>
        exact find?_distinctAfter_of_first matched (mem_distinct_iff.mpr (first found matched))
    | none =>
        rw [List.find?_eq_none] at matched ⊢
        exact fun item member => matched item ((distinctAfter_sublist [] items).subset member)

end Distinct

/-! ## Where a search looks -/

namespace Collection

/-- Whether the merged list of a collection is there. -/
def isMerged (store : Store ε ν) (collection : Collection α) : Bool :=
  store.outcome? collection.merged matches some (.ok _)

theorem isMerged_iff {store : Store ε ν} {collection : Collection α} :
    collection.isMerged store = true ↔
      ∃ stored, store.outcome? collection.merged = some (.ok stored) := by
  rw [isMerged]
  rcases store.outcome? collection.merged with _ | (error | stored) <;> simp

section Lists

variable {listed : Nat → List α} {sources : List (Source α)}

theorem lists_of_succeed :
    (sources.map fun source => (.ok (listed source.cell) : Outcome (List α))) =
      (sources.map fun source => listed source.cell).map .ok := by
  rw [List.map_map]
  rfl

/-- Searching sources that succeed is searching their lists one after the other. -/
theorem firstIn_of_succeed (test : α → Bool) :
    firstIn test (sources.map fun source => .ok (listed source.cell)) =
      .ok ((sources.flatMap fun source => listed source.cell).find? test) := by
  rw [lists_of_succeed, firstIn_map_ok, List.flatMap]

end Lists

section Searches

variable [Listed ν α] {store : Store ε ν} {collection : Collection α} {listed : Nat → List α}
  {test : α → Bool} {outcome : Outcome (Finding α)}

/-- The course that a search chooses by what it sees of the merged list. -/
def searchWork (test : α → Bool) (collection : Collection α) :
    Option (Outcome ν) → Computation ε ν (Outcome (Finding α))
  | some (.ok stored) => .finish (.ok (.member ((Listed.unwrap stored).find? test)))
  | _ => (scanFirst test collection.sources).mapOk .member

theorem first_eq [BEq α] (test : α → Bool) (collection : Collection α) :
    ((Query.first test).work collection : Computation ε ν (Outcome (Finding α))) =
      .peek collection.merged (collection.searchWork test) := by
  refine congrArg (Computation.peek collection.merged) (funext fun seen => ?_)
  rcases seen with _ | (error | stored) <;> rfl

theorem searchWork_of_unmerged (unmerged : collection.isMerged store = false) :
    (collection.searchWork test (store.outcome? collection.merged) :
      Computation ε ν (Outcome (Finding α))) =
        (scanFirst test collection.sources).mapOk .member := by
  rcases seen : store.outcome? collection.merged with _ | (error | stored)
  · rfl
  · rfl
  · rw [isMerged_iff.mpr ⟨stored, seen⟩] at unmerged
    cases unmerged

/-- A search through the sources finds the first match among all their elements. -/
theorem ComesTo.scanned (comes : collection.ComesTo store fun cell => .ok (listed cell))
    (follows : (Reading.finished outcome : Reading ε ν α).Follows store
      ((scanFirst test collection.sources).mapOk .member)) :
    outcome = .ok (.member
      ((collection.sources.flatMap fun source => listed source.cell).find? test)) := by
  obtain ⟨trace, result, run, rfl⟩ := follows.of_mapOk (scanFirst_attends test)
  rw [comes.scanned_first run, firstIn_of_succeed]
  rfl

/-- A search through the merged list finds the first match among the distinct elements. -/
theorem Merges.searched [BEq α] {roles : List (Role ε ν α)} {traces : Nat → List ε}
    {later : Store ε ν} (merges : collection.Merges roles)
    (booked : store.Booked (roles.map Role.state) traces)
    (comes : collection.ComesTo store fun cell => .ok (listed cell))
    (merged : collection.isMerged store = true)
    (follows : (Reading.finished outcome : Reading ε ν α).Follows later
      (collection.searchWork test (store.outcome? collection.merged))) :
    outcome = .ok (.member
      ((distinct (collection.sources.flatMap fun source => listed source.cell)).find? test)) := by
  obtain ⟨stored, known⟩ := isMerged_iff.mp merged
  obtain ⟨lists, succeed, stored_eq⟩ := merges.merged_lists booked comes known
  rw [lists_of_succeed] at succeed
  have lists_eq := List.map_injective_iff.mpr (fun _ _ => Except.ok.inj) succeed
  rw [known] at follows
  obtain ⟨trace, rest, run, ended⟩ := follows
  cases run
  rcases ended with same | ⟨impossible, -⟩
  · injection same with same
    rw [← same, stored_eq, ← lists_eq, List.flatMap]
  · cases impossible

end Searches

end Collection

/-! ## Histories -/

namespace Shelf

variable [Listed ν α] [BEq α]

/-- A reading that looks at a cell first stays on the course that it has chosen when it began. -/
theorem looking_follows {shelf : Shelf ε ν α} {reader : String} {collection : Collection α}
    (named : shelf.collection? reader = some collection) (scheduling : Scheduling)
    {query : Query α} {cell : Nat}
    {next : Option (Outcome ν) → Computation ε ν (Outcome (Finding α))}
    (looks : query.work collection = .peek cell next) (later : List (ShelfMove ε ν α)) :
    ∃ reading, ((shelf.perform scheduling (.read reader query)).performAll scheduling
        later).readings[shelf.readings.length]? = some reading ∧
      reading.Follows ((shelf.perform scheduling (.read reader query)).performAll scheduling
        later).store (next (shelf.store.outcome? cell)) := by
  obtain ⟨began, store_eq⟩ := perform_read named scheduling query
  refine follows_performAll scheduling began ?_ later
  have chosen : shelf.follow collection (.peek cell next) =
      shelf.follow collection (next (shelf.store.outcome? cell)) := rfl
  rw [store_eq, looks, chosen]
  exact shelf.follow_follows collection (.stay _)

variable [EquivBEq α]

/-- What a search for the first match finds in sources that succeed: where the merged list is there
when the search begins, the first match among the distinct members, and otherwise the first match
among all elements of the sources. -/
theorem first_match_exact (scheduling : Scheduling) (earlier later : List (ShelfMove ε ν α))
    (reader : String) (collection : Collection α) (test : α → Bool) (listed : Nat → List α)
    (named : ((empty : Shelf ε ν α).performAll scheduling earlier).collection? reader =
      some collection)
    (comes : collection.ComesTo ((((empty : Shelf ε ν α).performAll scheduling earlier).perform
      scheduling (.read reader (.first test))).performAll scheduling later).store
        fun cell => .ok (listed cell)) :
    let before := (empty : Shelf ε ν α).performAll scheduling earlier
    let begun := before.perform scheduling (.read reader (.first test))
    let after := begun.performAll scheduling later
    let number := before.readings.length
    let elements := collection.sources.flatMap fun source => listed source.cell
    -- The sources are in the order of their priorities.
    Collection.Descending collection.sources ∧
    (∀ outcome, after.readings[number]? = some (.finished outcome) →
      outcome = .ok (.member
        ((if collection.isMerged before.store then distinct elements else elements).find? test)) ∧
      -- It is the first match among the members exactly if it is taken from the merged list, or if
      -- the first match among all elements is the first of its equals.
      (outcome = .ok (.member ((distinct elements).find? test)) ↔
        collection.isMerged before.store = true ∨ ∀ found, elements.find? test = some found →
          elements.find? (· == found) = some found) ∧
      -- So it is for a test that does not tell equal elements apart.
      ((∀ left right, (left == right) = true → test left = test right) →
        outcome = .ok (.member ((distinct elements).find? test)))) ∧
    -- The distinct elements are what every reading of all members has found, before and after.
    (∀ past future other outcome,
      earlier ++ .read reader (.first test) :: later =
        past ++ .read other .materialize :: future →
      ((empty : Shelf ε ν α).performAll scheduling past).collection? other = some collection →
      after.readings[((empty : Shelf ε ν α).performAll scheduling past).readings.length]? =
        some (.finished outcome) → outcome = .ok (.members (distinct elements))) ∧
    -- After such a reading has ended the merged list is there.
    (∀ past future other outcome, earlier = past ++ .read other .materialize :: future →
      ((empty : Shelf ε ν α).performAll scheduling past).collection? other = some collection →
      before.readings[((empty : Shelf ε ν α).performAll scheduling past).readings.length]? =
        some (.finished outcome) → collection.isMerged before.store = true) ∧
    -- A search that has had its turn waits only for a source that has no outcome.
    (∀ waiting rest, begun.readings[number]? = some (.waiting waiting rest) →
      ∃ source ∈ collection.sources, begun.store.outcome? source.cell = none) ∧
    (∀ waiting rest, (after.perform scheduling (.turn (.resume number))).readings[number]? =
        some (.waiting waiting rest) →
      ∃ source ∈ collection.sources,
        (after.perform scheduling (.turn (.resume number))).store.outcome? source.cell = none) := by
  intro before begun after number elements
  have kept := kept_performAll (ε := ε) (ν := ν) (α := α) scheduling earlier
  have order : before.store.Precedes after.store :=
    (before.precedes_perform scheduling _).trans (begun.precedes_performAll scheduling later)
  have within : (Query.work collection (.first test) :
      Computation ε ν (Outcome (Finding α))).Within _ :=
    Computation.within_mapOk
      (Collection.readMerged_attends (Collection.scanFirst_attends test)) _
  have matched : ∀ outcome, after.readings[number]? = some (.finished outcome) →
      outcome = .ok (.member ((if collection.isMerged before.store then distinct elements
        else elements).find? test)) := by
    intro outcome ended
    obtain ⟨reading, found, follows⟩ :=
      looking_follows named scheduling (Collection.first_eq test collection) later
    obtain rfl : .finished outcome = reading := Option.some.inj (ended.symm.trans found)
    cases merged : collection.isMerged before.store with
    | true =>
        obtain ⟨traces, booked⟩ := kept.booked
        exact (kept.merges_of_named named).searched booked (comes.earlier order) merged follows
    | false =>
        rw [Collection.searchWork_of_unmerged merged] at follows
        exact comes.scanned follows
  refine ⟨(kept.merges_of_named named).descending,
    fun outcome ended => ⟨matched outcome ended, ?_, ?_⟩, ?_, ?_, ?_, ?_⟩
  · rw [matched outcome ended, ← find?_distinct_eq_iff]
    cases collection.isMerged before.store with
    | true => simp
    | false => simpa using eq_comm
  · intro respects
    rw [matched outcome ended, find?_distinct respects]
    split
    · rw [find?_distinct respects]
    · rfl
  · intro past future other outcome same other_named ended
    have arrived : after = (empty : Shelf ε ν α).performAll scheduling
        (past ++ .read other .materialize :: future) := by
      rw [← same, performAll_append]
      rfl
    rw [(materialized_in_history arrived other_named comes Collection.lists_of_succeed ended).2,
      ← List.flatMap]
  · intro past future other outcome same other_named ended
    subst same
    exact Collection.isMerged_iff.mpr ⟨_, (materialized_in_history rfl other_named
      (comes.earlier order) Collection.lists_of_succeed ended).1⟩
  · intro waiting rest waits
    obtain ⟨_, ⟨source, member, -, rfl⟩, unknown⟩ := read_waits named scheduling within waits
    exact ⟨source, member, unknown⟩
  · intro waiting rest waits
    obtain ⟨reading, found, follows⟩ := read_follows named scheduling (.first test) later
    obtain ⟨_, ⟨source, member, -, rfl⟩, unknown⟩ := resume_waits within found follows waits
    exact ⟨source, member, unknown⟩

/-- A search that began before all members were read finds a declaration that is not among them, as
another one of the same name is: it goes on with the sources although the merged list is there. -/
theorem first_match_exact_resumed :
    let bar : SimpleName := ⟨"Bar", by decide⟩
    let nested : DeclaredName :=
      ⟨⟨"app"⟩, [⟨"Foo", by decide⟩, bar], .all, "app.Foo.Bar", List.cons_ne_nil _ _⟩
    let split : DeclaredName := ⟨⟨"app.Foo"⟩, [bar], .all, "app.Foo.Bar", List.cons_ne_nil _ _⟩
    let slow : Leaf String (Outcome (List DeclaredName)) := .pass "slow" (.finish (.ok [split]))
    let test (declared : DeclaredName) : Bool := declared.package.text == "app.Foo"
    let after := (((empty : Shelf String (List DeclaredName) DeclaredName).performAll .onDemand
      [.build "all" [(.low, .computed slow.work [] none), (.normal, .values [nested])]]).perform
        .onDemand (.read "all" (.first test))).performAll .onDemand
          [.turn (.openGate "slow"), .read "all" .materialize, .turn (.resume 0)]
    after.readings[1]? = some (.finished (.ok (.members [nested]))) ∧
      after.readings[0]? = some (.finished (.ok (.member (some split)))) := by
  intro bar nested split slow test after
  have known : after.store.outcome? 1 = some (.ok [nested]) ∧
      after.store.outcome? 0 = some (.ok [split]) := by
    simp only [after]
    constructor <;> cbv
  let listed (cell : Nat) : List DeclaredName := if cell = 0 then [split] else [nested]
  obtain ⟨-, searched, -⟩ := first_match_exact (ε := String) (ν := List DeclaredName) .onDemand
    [.build "all" [(.low, .computed slow.work [] none), (.normal, .values [nested])]]
    [.turn (.openGate "slow"), .read "all" .materialize, .turn (.resume 0)] "all"
    ⟨[⟨.normal, 1, none⟩, ⟨.low, 0, none⟩], 2⟩ test listed rfl
    (by
      simp only [Collection.ComesTo, List.forall_mem_cons]
      refine ⟨fun outcome found => ?_, fun outcome found => ?_, by simp⟩
      · obtain rfl := Option.some.inj (known.1.symm.trans found)
        rfl
      · obtain rfl := Option.some.inj (known.2.symm.trans found)
        rfl)
  obtain ⟨outcome, ended⟩ := exists_outcome after 0 (by decide +kernel)
  refine ⟨?_, ended.trans ?_⟩
  · simp only [after]
    cbv
  · rw [(searched outcome ended).1]
    rfl

/-- Reading all members changes what a search finds: a declaration that is not among the members
before, and nothing after. -/
theorem first_match_copies :
    let bar : SimpleName := ⟨"Bar", by decide⟩
    let nested : DeclaredName :=
      ⟨⟨"app"⟩, [⟨"Foo", by decide⟩, bar], .all, "app.Foo.Bar", List.cons_ne_nil _ _⟩
    let split : DeclaredName := ⟨⟨"app.Foo"⟩, [bar], .all, "app.Foo.Bar", List.cons_ne_nil _ _⟩
    let test (declared : DeclaredName) : Bool := declared.package.text == "app.Foo"
    let shelf := (empty : Shelf String (List DeclaredName) DeclaredName).performAll .onDemand
      [.build "all" [(.normal, .values [nested]), (.normal, .values [split])],
        .read "all" (.first test), .read "all" .materialize, .read "all" (.first test)]
    shelf.readings[0]? = some (.finished (.ok (.member (some split)))) ∧
      shelf.readings[1]? = some (.finished (.ok (.members [nested]))) ∧
        shelf.readings[2]? = some (.finished (.ok (.member none))) ∧
          [nested].find? test = none := by
  intro bar nested split test shelf
  refine ⟨?_, ?_, ?_, ?_⟩
  all_goals cbv

end Shelf

end Lazy

end SymbolResolver

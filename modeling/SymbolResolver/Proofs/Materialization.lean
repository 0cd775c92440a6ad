import SymbolResolver.Proofs.NameEquality
import SymbolResolver.Proofs.RegisteredSources

/-!
# Materialization

A collection that is built from registered sources materializes to the prioritized union of their
outcomes, in whatever order the sources settle, whoever runs them and whatever else is done with the
shelf. The merged list asks for the sources up to the first that fails, so nothing that comes after
it can hold it up (`Shelf.materializes_union`).
-/

namespace SymbolResolver

namespace Lazy

variable {ε ν α : Type}

/-! ## Readings -/

/-- A reading is on the course of a computation, or was dropped on it. -/
def Reading.Follows (store : Store ε ν) (work : Computation ε ν (Outcome (Finding α))) :
    Reading ε ν α → Prop
  | waiting _ rest => ∃ trace, store.Runs (fun _ => False) work trace rest
  | finished outcome => ∃ trace rest, store.Runs (fun _ => False) work trace rest ∧
      (rest = .finish outcome ∨ rest = .breakOff ∧ outcome = .error .brokenOff)
  | dropped => True

namespace Reading

variable {store later : Store ε ν} {work rest : Computation ε ν (Outcome (Finding α))}

theorem Follows.mono {reading : Reading ε ν α} (order : store.Precedes later)
    (follows : reading.Follows store work) : reading.Follows later work := by
  have still : ∀ {trace rest}, store.Runs (fun _ => False) work trace rest →
      later.Runs (fun _ => False) work trace rest :=
    fun run => run.mono order fun _ impossible => impossible.elim
  cases reading with
  | waiting collection rest =>
      obtain ⟨trace, run⟩ := follows
      exact ⟨trace, still run⟩
  | finished outcome =>
      obtain ⟨trace, rest, run, ended⟩ := follows
      exact ⟨trace, rest, still run, ended⟩
  | dropped => trivial

theorem follows_ofRest {trace : List ε} (run : store.Runs (fun _ => False) work trace rest)
    (collection : Collection α) : (ofRest collection rest).Follows store work := by
  cases rest with
  | finish outcome => exact ⟨trace, _, run, .inl rfl⟩
  | breakOff => exact ⟨trace, _, run, .inr ⟨rfl, rfl⟩⟩
  | note | pass | start | await | peek => exact ⟨trace, run⟩

theorem Follows.drop {reading : Reading ε ν α} (follows : reading.Follows store work) :
    reading.drop.Follows store work := by
  cases reading with
  | waiting collection rest => trivial
  | finished outcome => exact follows
  | dropped => trivial

end Reading

namespace Shelf

theorem follow_follows (shelf : Shelf ε ν α) (collection : Collection α)
    {work rest : Computation ε ν (Outcome (Finding α))} {trace : List ε}
    (run : shelf.store.Runs (fun _ => False) work trace rest) :
    (shelf.follow collection rest).1.Follows (shelf.follow collection rest).2 work := by
  obtain ⟨_, more, _, run_on⟩ :=
    Store.Ledger.advance (fun cell store => Store.Ledger.pollBelow _ cell store) rest shelf.store
  have earlier := run.mono (Store.precedes_run shelf.store rest)
    fun _ impossible => impossible.elim
  exact Reading.follows_ofRest (earlier.trans run_on) collection

theorem resume_of_waiting {shelf : Shelf ε ν α} {number : Nat} {collection : Collection α}
    {rest : Computation ε ν (Outcome (Finding α))}
    (found : shelf.readings[number]? = some (.waiting collection rest)) :
    (shelf.resume number).readings[number]? = some (shelf.follow collection rest).1 ∧
      (shelf.resume number).store = (shelf.follow collection rest).2 := by
  have inside := (List.getElem?_eq_some_iff.mp found).1
  simp only [resume, found]
  exact ⟨List.getElem?_set_self inside, trivial⟩

theorem follows_resume (shelf : Shelf ε ν α) {number : Nat} {reading : Reading ε ν α}
    {work : Computation ε ν (Outcome (Finding α))}
    (found : shelf.readings[number]? = some reading) (follows : reading.Follows shelf.store work)
    (other : Nat) :
    ∃ later, (shelf.resume other).readings[number]? = some later ∧
      later.Follows (shelf.resume other).store work := by
  cases found_other : shelf.readings[other]? with
  | none =>
      simp only [resume, found_other]
      exact ⟨reading, found, follows⟩
  | some other_reading =>
      cases other_reading with
      | finished outcome =>
          simp only [resume, found_other]
          exact ⟨reading, found, follows⟩
      | dropped =>
          simp only [resume, found_other]
          exact ⟨reading, found, follows⟩
      | waiting collection rest =>
          obtain ⟨resumed_found, resumed_store⟩ := resume_of_waiting found_other
          rw [resumed_store]
          by_cases same : other = number
          · subst same
            obtain rfl : .waiting collection rest = reading :=
              Option.some.inj (found_other.symm.trans found)
            obtain ⟨trace, run⟩ := follows
            exact ⟨_, resumed_found, shelf.follow_follows collection run⟩
          · refine ⟨reading, ?_, follows.mono (Store.precedes_run shelf.store rest)⟩
            simp only [resume, found_other]
            rw [List.getElem?_set_ne same]
            exact found

variable [Listed ν α] [BEq α]

theorem precedes_perform (scheduling : Scheduling) (shelf : Shelf ε ν α) (move : ShelfMove ε ν α) :
    shelf.store.Precedes (shelf.perform scheduling move).store := by
  cases builds : move.builds with
  | true => exact (shelf.perform_appends scheduling builds).1.precedes
  | false =>
      cases move with
      | feed | build | filterMap | chain | clone | drop => cases builds
      | read handle query =>
          simp only [store_perform, act]
          split
          · exact Store.precedes_run shelf.store _
          · exact .refl shelf.store
      | turn turn =>
          cases turn with
          | openGate gate => exact Store.precedes_openGate shelf.store gate
          | resume number =>
              simp only [store_perform, act, Shelf.turn, resume]
              split
              · exact Store.precedes_run shelf.store _
              · exact .refl shelf.store
          | drop number => exact .refl shelf.store
          | task cell => exact Executor.precedes_runTask scheduling shelf.toExecutor cell
          | settle => exact Executor.precedes_settle scheduling _ shelf.toExecutor

/-- Whatever happens, a reading stays on its course. -/
theorem follows_perform (scheduling : Scheduling) {shelf : Shelf ε ν α} {number : Nat}
    {reading : Reading ε ν α} {work : Computation ε ν (Outcome (Finding α))}
    (found : shelf.readings[number]? = some reading) (follows : reading.Follows shelf.store work)
    (move : ShelfMove ε ν α) :
    ∃ later, (shelf.perform scheduling move).readings[number]? = some later ∧
      later.Follows (shelf.perform scheduling move).store work := by
  have still := follows.mono (shelf.precedes_perform scheduling move)
  have of_same : (shelf.perform scheduling move).readings = shelf.readings →
      ∃ later, (shelf.perform scheduling move).readings[number]? = some later ∧
        later.Follows (shelf.perform scheduling move).store work :=
    fun same => ⟨reading, same ▸ found, still⟩
  cases builds : move.builds with
  | true => exact of_same (shelf.perform_appends scheduling builds).2
  | false =>
      cases move with
      | feed | build | filterMap | chain | clone | drop => cases builds
      | read handle query =>
          refine ⟨reading, ?_, still⟩
          simp only [readings_perform, act]
          split
          · exact (List.getElem?_append_left (List.getElem?_eq_some_iff.mp found).1).trans found
          · exact found
      | turn turn =>
          cases turn with
          | openGate | task | settle => exact of_same rfl
          | drop other =>
              have modified : (shelf.readings.modify other Reading.drop)[number]? =
                  some (if other = number then reading.drop else reading) := by
                rw [List.getElem?_modify, found]
                split <;> rfl
              refine ⟨_, modified, ?_⟩
              split
              · exact follows.drop
              · exact follows
          | resume other => exact shelf.follows_resume found follows other

theorem follows_performAll (scheduling : Scheduling) {shelf : Shelf ε ν α} {number : Nat}
    {reading : Reading ε ν α} {work : Computation ε ν (Outcome (Finding α))}
    (found : shelf.readings[number]? = some reading) (follows : reading.Follows shelf.store work)
    (moves : List (ShelfMove ε ν α)) :
    ∃ later, (shelf.performAll scheduling moves).readings[number]? = some later ∧
      later.Follows (shelf.performAll scheduling moves).store work := by
  induction moves generalizing shelf reading with
  | nil => exact ⟨reading, found, follows⟩
  | cons move moves ih =>
      obtain ⟨next, next_found, next_follows⟩ := follows_perform scheduling found follows move
      exact ih next_found next_follows

end Shelf

/-! ## Reading the merged list -/

namespace Collection

variable [Listed ν α] [BEq α]

/-- To materialize is to wait for the merged list. -/
theorem materialize_eq (collection : Collection α) :
    (Query.materialize.work collection : Computation ε ν (Outcome (Finding α))) =
      .await collection.merged fun outcome =>
        .finish ((outcome.map Listed.unwrap).map .members) := by
  have continuations : (fun outcome : Outcome ν => (((Computation.finish outcome).mapOk
      Listed.unwrap).mapOk .members : Computation ε ν (Outcome (Finding α)))) =
        fun outcome => .finish ((outcome.map Listed.unwrap).map .members) := by
    funext outcome
    cases outcome <;> rfl
  exact congrArg _ continuations

/-- A reading of all members that has ended has got what the merged list has come to. -/
theorem materialize_finished {store : Store ε ν} {collection : Collection α}
    {outcome : Outcome (Finding α)}
    (follows : (Reading.finished outcome : Reading ε ν α).Follows store
      (Query.materialize.work collection)) :
    ∃ merged, store.outcome? collection.merged = some merged ∧
      outcome = (merged.map Listed.unwrap).map .members := by
  obtain ⟨trace, rest, run, ended⟩ := follows
  rw [materialize_eq] at run
  cases run with
  | stay => rcases ended with impossible | ⟨impossible, -⟩ <;> cases impossible
  | await known run =>
      cases run
      rcases ended with same | ⟨impossible, -⟩
      · injection same with same
        exact ⟨_, known, same.symm⟩
      · cases impossible

namespace Unites

variable {roles : List (Role ε ν α)} {traces : Nat → List ε}
  {plans : List (Priority × Leaf ε (Outcome (List α)))} {collection : Collection α}

/-- A reading that has ended has found the union of the plans. -/
theorem finished_eq {store : Store ε ν} (unites : collection.Unites roles plans)
    (booked : store.Booked (roles.map Role.state) traces) {outcome : Outcome (Finding α)}
    (follows : (Reading.finished outcome : Reading ε ν α).Follows store
      (Query.materialize.work collection)) :
    outcome = (union (outcomes plans)).map .members := by
  obtain ⟨merged, known, rfl⟩ := materialize_finished follows
  rw [unites.merged_outcome booked known]
  cases union (outcomes plans) with
  | error error => rfl
  | ok items => simp [Except.map]

/-- A reading ends once the gates of the sources up to the first one that fails are open. -/
theorem follow_ends {shelf : Shelf ε ν α} (unites : collection.Unites roles plans)
    (booked : shelf.store.Booked (roles.map Role.state) traces)
    (gates : ∀ gate, AwaitsGate plans gate → shelf.store.isOpen gate = true)
    {rest : Computation ε ν (Outcome (Finding α))} {trace : List ε}
    (run : shelf.store.Runs (fun _ => False) (Query.materialize.work collection) trace rest)
    (reader : Collection α) : ∃ outcome, (shelf.follow reader rest).1 = .finished outcome := by
  rw [materialize_eq] at run
  cases run with
  | stay =>
      obtain ⟨outcome, known⟩ := unites.settles booked gates
      exact ⟨_, by simp only [Shelf.follow, Store.run, Store.advance, known, Reading.ofRest]; rfl⟩
  | await known run =>
      cases run
      exact ⟨_, rfl⟩

end Unites

end Collection

namespace Shelf

variable [Listed ν α] [BEq α]

/-! ## Histories -/

theorem performAll_append (scheduling : Scheduling) (shelf : Shelf ε ν α)
    (first second : List (ShelfMove ε ν α)) :
    shelf.performAll scheduling (first ++ second) =
      (shelf.performAll scheduling first).performAll scheduling second :=
  List.foldl_append

theorem roles_append (scheduling : Scheduling) (shelf : Shelf ε ν α)
    (first second : List (ShelfMove ε ν α)) :
    shelf.roles scheduling (first ++ second) =
      shelf.roles scheduling first ++
        (shelf.performAll scheduling first).roles scheduling second := by
  induction first generalizing shelf with
  | nil => rfl
  | cons move first ih =>
      rw [List.cons_append, roles, ih, roles, List.append_assoc]
      rfl

/-- A collection of a history unites its plans in every longer history. -/
theorem unites_performAll (scheduling : Scheduling) (earlier : List (ShelfMove ε ν α))
    {registered : List (Priority × SourceSpec ε ν α)}
    {plans : List (Priority × Leaf ε (Outcome (List α)))}
    (yields : List.Forall₂ (fun entry plan => entry.1 = plan.1 ∧
      entry.2.Yields ((empty : Shelf ε ν α).performAll scheduling earlier).feeds
        ((empty : Shelf ε ν α).roles scheduling earlier) plan.2) registered plans)
    (handle : String) :
    ∃ collection, ((empty : Shelf ε ν α).performAll scheduling
        (earlier ++ [.build handle registered])).collection? handle = some collection ∧
      ∀ moves, collection.Unites ((empty : Shelf ε ν α).roles scheduling
        (earlier ++ .build handle registered :: moves)) plans := by
  let before := (empty : Shelf ε ν α).performAll scheduling earlier
  obtain ⟨traces, booked⟩ := books_performAll (ε := ε) (ν := ν) (α := α) scheduling earlier
  have sized : before.store.size = ((empty : Shelf ε ν α).roles scheduling earlier).length := by
    rw [booked.size_eq, List.length_map]
  refine ⟨_, ?_, fun moves => (before.build_unites sized yields handle).extend ?_⟩
  · rw [performAll_append]
    exact List.lookup_cons_self
  · rw [roles_append, roles, ← List.append_assoc]
    exact List.prefix_append _ _

/-- Materializing a collection of registered sources gives the prioritized union of their outcomes.
-/
theorem materializes_union [EquivBEq α] [Hashable α] [LawfulHashable α] (scheduling : Scheduling)
    (earlier later : List (ShelfMove ε ν α)) (handle reader : String)
    (registered : List (Priority × SourceSpec ε ν α))
    (plans : List (Priority × Leaf ε (Outcome (List α))))
    (yields : List.Forall₂ (fun entry plan => entry.1 = plan.1 ∧
      entry.2.Yields ((empty : Shelf ε ν α).performAll scheduling earlier).feeds
        ((empty : Shelf ε ν α).roles scheduling earlier) plan.2) registered plans)
    (names_built : ((empty : Shelf ε ν α).performAll scheduling
        (earlier ++ .build handle registered :: later)).collection? reader =
      ((empty : Shelf ε ν α).performAll scheduling
        (earlier ++ [.build handle registered])).collection? handle) :
    let shelf := (empty : Shelf ε ν α).performAll scheduling
      (earlier ++ .build handle registered :: later)
    let reading := shelf.perform scheduling (.read reader .materialize)
    let number := shelf.readings.length
    let united := union (Collection.outcomes plans)
    -- A reading that ends has found the union, whatever has happened in the meantime.
    (∀ more outcome, (reading.performAll scheduling more).readings[number]? =
        some (.finished outcome) → outcome = united.map .members) ∧
    -- It ends at once if the gates up to the first failing source are open, and otherwise it ends
    -- when it is taken up after they have been opened.
    ((∀ gate, Collection.AwaitsGate plans gate → shelf.store.isOpen gate = true) →
      reading.readings[number]? = some (.finished (united.map .members))) ∧
    (∀ more collection rest, (reading.performAll scheduling more).readings[number]? =
        some (.waiting collection rest) →
      (∀ gate, Collection.AwaitsGate plans gate →
        (reading.performAll scheduling more).store.isOpen gate = true) →
      ((reading.performAll scheduling more).perform scheduling
        (.turn (.resume number))).readings[number]? = some (.finished (united.map .members))) ∧
    -- If all sources succeed, the union keeps the first of equal elements in order of the tiers.
    ((∀ plan ∈ plans, ∃ items, plan.2.outcome = .ok items) →
      ∃ lists : List (List α), (tiers plans).map Leaf.outcome = lists.map .ok ∧
        united = .ok (distinct lists.flatten) ∧
        (distinct lists.flatten).Sublist lists.flatten ∧
        (distinct lists.flatten).Pairwise (fun left right => (left == right) = false) ∧
        (∀ item ∈ lists.flatten, ∃ kept ∈ distinct lists.flatten, (kept == item) = true) ∧
        (∀ kept, kept ∈ distinct lists.flatten ↔
          lists.findSome? (fun items => items.find? (· == kept)) = some kept) ∧
        distinct lists.flatten = hashedAfter [] lists.flatten) ∧
    -- Otherwise it is the error of the first failing source, and no gate of a later one is awaited.
    ((∃ plan ∈ plans, ∃ error, plan.2.outcome = .error error) →
      ∃ before failing after error, tiers plans = before ++ failing :: after ∧
        (∀ leaf ∈ before, ∃ items, leaf.outcome = .ok items) ∧
        failing.outcome = .error error ∧ united = .error error ∧
        upToFailure Leaf.outcome (tiers plans) = before ++ [failing]) ∧
    -- The tiers are what a stable sort by descending priority gives.
    tiers plans = (plans.mergeSort comesFirst).map Prod.snd := by
  intro shelf reading number united
  obtain ⟨collection, built, unites⟩ := unites_performAll scheduling earlier yields handle
  have found : shelf.collection? reader = some collection := names_built.trans built
  -- The whole history has booked its notes, and the collection unites its plans all the time.
  have booked : ∀ more, ∃ traces, (shelf.performAll scheduling more).store.Booked
      (((empty : Shelf ε ν α).roles scheduling
        (earlier ++ .build handle registered :: (later ++ more))).map Role.state) traces := by
    intro more
    have books := books_performAll (ε := ε) (ν := ν) (α := α) scheduling
      (earlier ++ .build handle registered :: (later ++ more))
    rw [← List.cons_append, ← List.append_assoc, performAll_append] at books
    rw [← List.cons_append, ← List.append_assoc]
    exact books
  have began : reading.readings[number]? =
      some (shelf.follow collection (Query.materialize.work collection)).1 ∧
      reading.store = (shelf.follow collection (Query.materialize.work collection)).2 := by
    simp only [reading, store_perform, readings_perform, act, found, number]
    exact ⟨List.getElem?_concat_length, trivial⟩
  have follows : ∀ more, ∃ later, (reading.performAll scheduling more).readings[number]? =
      some later ∧ later.Follows (reading.performAll scheduling more).store
        (Query.materialize.work collection) := by
    intro more
    refine follows_performAll scheduling began.1 ?_ more
    rw [began.2]
    exact shelf.follow_follows collection (.stay _)
  have finished : ∀ more outcome, (reading.performAll scheduling more).readings[number]? =
      some (.finished outcome) → outcome = united.map .members := by
    intro more outcome ended
    obtain ⟨later_reading, at_number, course⟩ := follows more
    obtain rfl : .finished outcome = later_reading := Option.some.inj (ended.symm.trans at_number)
    obtain ⟨traces, books⟩ := booked (.read reader .materialize :: more)
    exact (unites _).finished_eq books course
  refine ⟨finished, ?_, ?_, ?_, ?_, tiers_eq_mergeSort plans⟩
  · intro gates
    obtain ⟨traces, books⟩ := booked []
    obtain ⟨outcome, ended⟩ := (unites _).follow_ends books gates (.stay _) collection
    have at_once := began.1.trans (congrArg some ended)
    rw [at_once, finished [] outcome at_once]
  · intro more waiting rest waits gates
    obtain ⟨later_reading, at_number, course⟩ := follows more
    obtain rfl : .waiting waiting rest = later_reading :=
      Option.some.inj (waits.symm.trans at_number)
    obtain ⟨trace, run⟩ := course
    obtain ⟨traces, books⟩ := booked (.read reader .materialize :: more)
    obtain ⟨outcome, ended⟩ := (unites _).follow_ends books gates run waiting
    have resumed := (resume_of_waiting waits).1.trans (congrArg some ended)
    have value := finished (more ++ [.turn (.resume number)]) outcome (by
      rw [performAll_append]
      exact resumed)
    rw [← value]
    exact resumed
  · intro succeed
    obtain ⟨lists, all_ok⟩ := exists_lists_of_all_ok succeed
    refine ⟨lists, all_ok, union_of_ok all_ok, distinctAfter_sublist [] _,
      pairwise_distinctAfter [] _, ?_, ?_, (hashedAfter_eq [] _).symm⟩
    · intro item member
      exact (represented_distinctAfter [] member).resolve_left (by simp)
    · intro kept
      rw [mem_distinct_iff, List.find?_flatten]
  · rintro ⟨plan, member, error, fails⟩
    obtain ⟨before, failing, after, error, split, first⟩ := exists_first_failure member fails
    refine ⟨before, failing, after, error, split, first.succeed, first.fails,
      union_of_first_failure split first, ?_⟩
    rw [split]
    exact first.upToFailure_eq after

/-- Of two declarations of one name the one from the source with the higher priority is kept, and an
error is found although another source never ends. -/
theorem materializes_union_copies :
    let bar : SimpleName := ⟨"Bar", by decide⟩
    let nested : DeclaredName :=
      ⟨⟨"app"⟩, [⟨"Foo", by decide⟩, bar], .all, "app.Foo.Bar", List.cons_ne_nil _ _⟩
    let split : DeclaredName := ⟨⟨"app.Foo"⟩, [bar], .all, "app.Foo.Bar", List.cons_ne_nil _ _⟩
    let slow : Leaf String (Outcome (List DeclaredName)) := .pass "slow" (.finish (.ok [split]))
    let stuck : Leaf String (Outcome (List DeclaredName)) := .pass "never" (.finish (.ok [nested]))
    let failing : Leaf String (Outcome (List DeclaredName)) := .finish (.error .brokenOff)
    let shelf (registered : List (Priority × SourceSpec String (List DeclaredName) DeclaredName)) :=
      (empty : Shelf String (List DeclaredName) DeclaredName).performAll .onDemand
        ([.feed "slow" slow.work []] ++ .build "all" registered ::
          [.read "all" .size, .turn (.openGate "slow")])
    ((shelf [(.low, .values [nested]), (.high, .feed "slow" none)]).perform .onDemand
        (.read "all" .materialize)).readings[1]? = some (.finished (.ok (.members [split]))) ∧
      ((shelf [(.normal, .computed stuck.work [] none),
        (.high, .computed failing.work [] none)]).perform .onDemand
          (.read "all" .materialize)).readings[1]? = some (.finished (.error .brokenOff)) := by
  intro bar nested split slow stuck failing shelf
  constructor
  · obtain ⟨-, at_once, -⟩ := materializes_union (ε := String) (ν := List DeclaredName) .onDemand
      [.feed "slow" slow.work []] [.read "all" .size, .turn (.openGate "slow")] "all" "all"
      [(.low, .values [nested]), (.high, .feed "slow" none)]
      [(.low, .finish (.ok [nested])), (.high, slow)]
      (.cons ⟨rfl, .values _⟩ (.cons ⟨rfl, .named none rfl ⟨_, rfl, .source slow⟩⟩ .nil))
      (Eq.trans (b := some _) rfl rfl)
    refine (at_once ?_).trans rfl
    rintro gate ⟨leaf, member, at_gate⟩
    have awaited : leaf = slow ∨ leaf = .finish (.ok [nested]) := by
      change leaf ∈ [slow, .finish (.ok [nested])] at member
      simpa using member
    rcases awaited with rfl | rfl
    · rw [List.mem_singleton.mp at_gate]
      rfl
    · cases at_gate
  · obtain ⟨-, at_once, -⟩ := materializes_union (ε := String) (ν := List DeclaredName) .onDemand
      [.feed "slow" slow.work []] [.read "all" .size, .turn (.openGate "slow")] "all" "all"
      [(.normal, .computed stuck.work [] none), (.high, .computed failing.work [] none)]
      [(.normal, stuck), (.high, failing)]
      (.cons ⟨rfl, .computed stuck [] none⟩ (.cons ⟨rfl, .computed failing [] none⟩ .nil))
      (Eq.trans (b := some _) rfl rfl)
    refine (at_once ?_).trans rfl
    rintro gate ⟨leaf, member, at_gate⟩
    change leaf ∈ [failing] at member
    rw [List.mem_singleton.mp member] at at_gate
    cases at_gate

end Shelf

end Lazy

end SymbolResolver

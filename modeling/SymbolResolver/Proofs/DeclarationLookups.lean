import Mathlib.Computability.Primrec.List
import Mathlib.Data.List.Permutation
import SymbolResolver.Proofs.Precedence
import SymbolResolver.Proofs.Readings

/-!
# Looking up declarations

The stage that looks among the declarations searches them for the reference and then for the
reference relative to the package of the file. Each search reads the merged list if it is there, and
otherwise it asks the sources, and which of the two happens may change between the searches. What
the stage comes to depends on the outcomes of the sources alone (`lookup_from_sources`): a failure
ends it unless the reference itself is declared before, and its answers are declared.
-/

namespace SymbolResolver

namespace Lazy

variable {ε ν α β γ : Type}

theorem Computation.andThen_assoc (work : Computation ε ν (Outcome α))
    (first : α → Computation ε ν (Outcome β)) (second : β → Computation ε ν (Outcome γ)) :
    (work.andThen first).andThen second =
      work.andThen fun value => (first value).andThen second := by
  rw [andThen, andThen, bind_assoc]
  refine congrArg work.bind (funext fun outcome => ?_)
  cases outcome <;> rfl

/-! ## Work beside the readings of a shelf -/

/-- A continued computation that has ended has failed in its first part, or has gone on with the
result of that. -/
theorem Store.Runs.of_andThen {store : Store ε ν} {firm : Nat → Prop}
    {work : Computation ε ν (Outcome α)} {continuation : α → Computation ε ν (Outcome β)}
    {trace : List ε} {outcome : Outcome β}
    (run : store.Runs firm (work.andThen continuation) trace (.finish outcome)) :
    (∃ first error, store.Runs firm work first (.finish (.error error)) ∧
        outcome = .error error) ∨
      ∃ first second value, store.Runs firm work first (.finish (.ok value)) ∧
        store.Runs firm (continuation value) second (.finish outcome) := by
  rcases run.of_bind with ⟨middle, course, ended⟩ | ⟨first, second, result, -, course, after⟩
  · cases middle with
    | finish result =>
        cases result with
        | ok value =>
            have continued : .finish outcome = continuation value := ended
            exact .inr ⟨trace, [], value, course, continued ▸ .stay _⟩
        | error error =>
            injection ended with same
            exact .inl ⟨trace, error, course, same⟩
    | breakOff | note | pass | start | await | peek => cases ended
  · cases result with
    | ok value => exact .inr ⟨first, second, value, course, after⟩
    | error error =>
        cases after
        exact .inl ⟨first, error, course, rfl⟩

namespace Shelf

/-- Runs a computation on the cells of a shelf as far as it can go. -/
def goOn (shelf : Shelf ε ν α) (work : Computation ε ν β) : Computation ε ν β × Shelf ε ν α :=
  let (rest, store) := shelf.store.run work
  (rest, { shelf with store := store })

variable [Listed ν α] [BEq α]

/-- Runs a computation on the cells of a shelf. Between the times that it is taken up, the shelf
goes through other moves. -/
def attend (scheduling : Scheduling) (shelf : Shelf ε ν α) (work : Computation ε ν β) :
    List (List (ShelfMove ε ν α)) → Computation ε ν β × Shelf ε ν α
  | [] => shelf.goOn work
  | moves :: breaks =>
    let (rest, shelf) := shelf.goOn work
    attend scheduling (shelf.performAll scheduling moves) rest breaks

variable {shelf : Shelf ε ν α} {roles : List (Role ε ν α)} {work : Computation ε ν β}

/-- What is left of a computation follows its course, and beside it the merged lists stay made from
the sources of their collections. -/
theorem attend_runs (scheduling : Scheduling) (kept : shelf.Kept roles)
    (silent : work.Within noteless) (breaks : List (List (ShelfMove ε ν α))) :
    shelf.store.Precedes (shelf.attend scheduling work breaks).2.store ∧
      (∃ longer, roles <+: longer ∧ (shelf.attend scheduling work breaks).2.Kept longer) ∧
      ∃ trace, (shelf.attend scheduling work breaks).2.store.Runs (fun _ => False) work trace
        (shelf.attend scheduling work breaks).1 := by
  obtain ⟨trace, run⟩ := shelf.store.run_runs work
  induction breaks generalizing shelf roles work trace with
  | nil => exact ⟨Store.precedes_run _ _, ⟨roles, List.prefix_rfl, kept.run silent⟩, trace, run⟩
  | cons moves breaks ih =>
      let gone := (shelf.goOn work).2
      obtain ⟨next_trace, next_run⟩ :=
        (gone.performAll scheduling moves).store.run_runs (shelf.goOn work).1
      obtain ⟨later, ⟨longer, extends_roles, longer_kept⟩, more, rest_run⟩ :=
        ih ((kept.run silent).performAll scheduling moves) (run.within silent).1 next_trace next_run
      have since : gone.store.Precedes (shelf.attend scheduling work (moves :: breaks)).2.store :=
        (gone.precedes_performAll scheduling moves).trans later
      refine ⟨(Store.precedes_run _ _).trans since,
        ⟨longer, (List.prefix_append _ _).trans extends_roles, longer_kept⟩, trace ++ more, ?_⟩
      exact (run.mono since fun _ impossible => impossible.elim).trans rest_run

/-- However often a computation has been taken up, it has ended, or it waits for a cell that has no
outcome. -/
theorem attend_waits (scheduling : Scheduling) {awaited looked : Nat → Prop}
    (within : work.Within (attending awaited looked)) (breaks : List (List (ShelfMove ε ν α))) :
    (∃ result, (shelf.attend scheduling work breaks).1 = .finish result) ∨
      ∃ cell, awaited cell ∧
        (shelf.attend scheduling work breaks).2.store.outcome? cell = none := by
  obtain ⟨trace, run⟩ := shelf.store.run_runs work
  have rest_within := (run.within within).1
  induction breaks generalizing shelf work trace with
  | nil =>
      cases left : (shelf.store.run work).1 with
      | finish result => exact .inl ⟨result, left⟩
      | breakOff =>
          rw [left] at rest_within
          exact rest_within.elim
      | note | pass | start | await | peek =>
          have waits : (shelf.store.run work).1.progress = .waiting := by
            rw [left]
            rfl
          exact .inr (Store.advance_waits within shelf.store waits)
  | cons moves breaks ih =>
      obtain ⟨next_trace, next_run⟩ :=
        ((shelf.goOn work).2.performAll scheduling moves).store.run_runs (shelf.goOn work).1
      exact ih rest_within next_trace next_run (next_run.within rest_within).1

end Shelf

/-! ## Searches for equal elements -/

theorem exists_of_firstIn {test : α → Bool} {outcomes : List (Outcome (List α))} {found : α}
    (searched : firstIn test outcomes = .ok (some found)) :
    ∃ items, .ok items ∈ outcomes ∧ found ∈ items ∧ test found = true := by
  induction outcomes with
  | nil => cases searched
  | cons outcome outcomes ih =>
      cases outcome with
      | error error =>
          rw [firstIn_cons_error] at searched
          cases searched
      | ok items =>
          cases matched : items.find? test with
          | some first =>
              rw [firstIn_cons_of_some matched] at searched
              obtain rfl : first = found := Option.some.inj (Except.ok.inj searched)
              exact ⟨items, List.mem_cons_self, List.mem_of_find?_eq_some matched,
                List.find?_some matched⟩
          | none =>
              rw [firstIn_cons_of_none matched] at searched
              obtain ⟨others, member, held⟩ := ih searched
              exact ⟨others, List.mem_cons_of_mem _ member, held⟩

/-- A search that cannot tell equal elements apart comes to the first match or failure among the
sources, wherever it has looked. -/
theorem Collection.Merges.first_found [Listed ν α] [BEq α] {store : Store ε ν}
    {firm : Nat → Prop} {collection : Collection α} {roles : List (Role ε ν α)}
    {traces : Nat → List ε} {listed : Nat → Outcome (List α)} (merges : collection.Merges roles)
    (booked : store.Booked (roles.map Role.state) traces)
    (comes : collection.ComesTo store listed) {test : α → Bool}
    (respects : ∀ left right, (left == right) = true → test left = test right)
    {trace : List ε} {outcome : Outcome (Option α)}
    (run : store.Runs firm (collection.first? test) trace (.finish outcome)) :
    outcome = firstIn test (collection.sources.map fun source => listed source.cell) := by
  rcases runs_readMerged run with ⟨stored, known, rfl⟩ | scanned
  · obtain ⟨lists, succeed, stored_eq⟩ := merges.merged_lists booked comes known
    rw [succeed, firstIn_map_ok, stored_eq, find?_distinct respects]
  · exact comes.scanned_first scanned

end Lazy

namespace Resolution

open Lazy

/-! ## The stage -/

/-- What looking for one candidate after the other comes to, given the lists of the sources: a
failure ends it. -/
def lookedUp (outcomes : List (Outcome (List DeclaredName))) : List ReferenceName → Outcome Answer
  | [] => .ok none
  | candidate :: others =>
    match firstIn (·.denotedBy candidate) outcomes with
    | .ok (some _) => .ok (some candidate)
    | .ok none => lookedUp outcomes others
    | .error error => .error error

section Searches

variable {store : Store Event Payload} {firm : Nat → Prop} {declarations : Collection DeclaredName}
  {roles : List (Role Event Payload DeclaredName)} {traces : Nat → List Event}
  {listed : Nat → Outcome (List DeclaredName)}

/-- A lookup comes to what its searches come to. -/
theorem lookedUp_of_searched {outcomes : List (Outcome (List DeclaredName))}
    (searched : ∀ {candidate : ReferenceName} {trace : List Event}
      {found : Outcome (Option DeclaredName)},
      store.Runs firm (declarations.first? (·.denotedBy candidate)) trace (.finish found) →
        found = firstIn (·.denotedBy candidate) outcomes)
    {candidates : List ReferenceName} {trace : List Event} {outcome : Outcome Answer}
    (run : store.Runs firm (lookUp declarations (.answer none) candidates) trace
      (.finish outcome)) :
    outcome = lookedUp outcomes candidates := by
  induction candidates generalizing trace with
  | nil =>
      cases run
      rfl
  | cons candidate others ih =>
      rw [lookedUp]
      rcases run.of_andThen with ⟨_, error, search, rfl⟩ | ⟨_, second, found, search, goes_on⟩
      · rw [← searched search]
      · rw [← searched search]
        cases found with
        | some declared =>
            cases goes_on
            rfl
        | none => exact ih goes_on

theorem lookUp_finished (merges : declarations.Merges roles)
    (booked : store.Booked (roles.map Role.state) traces)
    (comes : declarations.ComesTo store listed) (candidates : List ReferenceName)
    {trace : List Event} {outcome : Outcome Answer}
    (run : store.Runs firm (lookUp declarations (.answer none) candidates) trace
      (.finish outcome)) :
    outcome = lookedUp (declarations.sources.map fun source => listed source.cell) candidates :=
  lookedUp_of_searched
    (fun search => merges.first_found booked comes (denotedBy_respects _) search) run

end Searches

section Outcomes

variable {lists : List (List DeclaredName)}

/-- Without a failure the answer is the first candidate that is declared. -/
theorem lookedUp_of_succeed (candidates : List ReferenceName) :
    lookedUp (lists.map .ok) candidates =
      .ok (candidates.find? fun candidate => lists.flatten.any (·.denotedBy candidate)) := by
  induction candidates with
  | nil => rfl
  | cons candidate others ih =>
      rw [lookedUp, firstIn_map_ok, List.find?_cons, ← List.isSome_find?]
      cases lists.flatten.find? (·.denotedBy candidate) with
      | some found => rfl
      | none => exact ih

/-- With a failure only the first candidate has a chance. -/
theorem lookedUp_of_failure (error : Error) (others : List (Outcome (List DeclaredName)))
    (candidate : ReferenceName) (candidates : List ReferenceName) :
    lookedUp (lists.map .ok ++ .error error :: others) (candidate :: candidates) =
      if lists.flatten.any (·.denotedBy candidate) then .ok (some candidate) else .error error := by
  rw [lookedUp, firstIn_append, firstIn_cons_error, ← List.isSome_find?]
  cases lists.flatten.find? (·.denotedBy candidate) <;> rfl

/-- An answer is a candidate that denotes a declaration of a source. -/
theorem declared_of_lookedUp {outcomes : List (Outcome (List DeclaredName))}
    {candidates : List ReferenceName} {answer : ReferenceName}
    (answered : lookedUp outcomes candidates = .ok (some answer)) :
    answer ∈ candidates ∧ ∃ items, .ok items ∈ outcomes ∧
      ∃ declared ∈ items, declared.denotedBy answer = true := by
  induction candidates with
  | nil => cases answered
  | cons candidate candidates ih =>
      rw [lookedUp] at answered
      split at answered
      · next declared searched =>
        obtain rfl : candidate = answer := Option.some.inj (Except.ok.inj answered)
        obtain ⟨items, member, held, denoted⟩ := exists_of_firstIn searched
        exact ⟨List.mem_cons_self, items, member, declared, held, denoted⟩
      · obtain ⟨among, declared⟩ := ih answered
        exact ⟨List.mem_cons_of_mem _ among, declared⟩
      · cases answered

end Outcomes

theorem candidates_eq (request : Request) :
    candidates request = request.reference ::
      if request.file.package.isDefault then []
      else [.ofText (request.file.package.append request.reference.segments) request.language] := by
  rw [candidates]
  split <;> rfl

theorem language_of_mem_candidates {request : Request} {candidate : ReferenceName}
    (among : candidate ∈ candidates request) : candidate.language = request.language := by
  rw [candidates_eq, List.mem_cons] at among
  rcases among with itself | relative
  · rw [itself, Request.language]
  · split at relative
    · cases relative
    · rw [List.mem_singleton.mp relative, ReferenceName.ofText]

theorem lookUp_attends (declarations : Collection DeclaredName) (candidates : List ReferenceName) :
    (lookUp declarations (.answer none) candidates).Within (attending
      (Collection.Sourced (fun _ => True) declarations) (· = declarations.merged)) := by
  apply lookUp_within
  · rfl
  · exact fun source member => ⟨source, member, trivial, rfl⟩
  · trivial

/-- Ends with an answer, and without one goes on as given. -/
def answerOr (otherwise : Resolving) : Answer → Resolving
  | some found => .answer (some found)
  | none => otherwise

/-- The rest of the chain is left to the requests that have no answer here. -/
theorem lookUp_forwards (declarations : Collection DeclaredName) (otherwise : Resolving)
    (candidates : List ReferenceName) :
    lookUp declarations otherwise candidates =
      (lookUp declarations (.answer none) candidates).andThen (answerOr otherwise) := by
  induction candidates with
  | nil => rfl
  | cons candidate others ih =>
      rw [lookUp, lookUp, Computation.andThen_assoc]
      refine congrArg _ (funext fun found => ?_)
      cases found with
      | some declared => rfl
      | none => exact ih

/-! ## Histories -/

/-- What the stage that looks among the declarations comes to is a matter of what their sources come
to, and not of anything that was read before or is read meanwhile. -/
theorem lookup_from_sources (scheduling : Scheduling)
    (earlier : List (ShelfMove Event Payload DeclaredName))
    (breaks : List (List (ShelfMove Event Payload DeclaredName))) (reader : String)
    (declarations : Collection DeclaredName) (request : Request)
    (listed : Nat → Outcome (List DeclaredName))
    (named : ((Shelf.empty : Shelf Event Payload DeclaredName).performAll scheduling
      earlier).collection? reader = some declarations)
    (carried : request.declarations = some declarations)
    (comes : declarations.ComesTo (((Shelf.empty : Shelf Event Payload DeclaredName).performAll
      scheduling earlier).attend scheduling (StageKind.declarationLookup.intercept request
        fun _ => Resolving.answer none) breaks).2.store listed) :
    let stage := StageKind.declarationLookup.intercept request
    let ended := ((Shelf.empty : Shelf Event Payload DeclaredName).performAll scheduling
      earlier).attend scheduling (stage fun _ => Resolving.answer none) breaks
    let outcomes := declarations.sources.map fun source => listed source.cell
    let relative := ReferenceName.ofText
      (request.file.package.append request.reference.segments) request.language
    -- The sources are in the order of their priorities.
    Collection.Descending declarations.sources ∧
    -- The rest of the chain gets the request as it is, and only if the stage has no answer.
    (∀ next, stage next =
      (stage fun _ => Resolving.answer none).andThen (answerOr (next request))) ∧
    -- The stage ends unless a source has no outcome.
    ((∃ outcome, ended.1 = .finish outcome) ∨
      ∃ source ∈ declarations.sources, ended.2.store.outcome? source.cell = none) ∧
    ∀ outcome, ended.1 = .finish outcome →
      -- If all sources succeed, the reference itself goes before the one relative to the package.
      (∀ lists : List (List DeclaredName), outcomes = lists.map .ok → outcome = .ok (
        if lists.flatten.any (·.denotedBy request.reference) then some request.reference
        else if ¬ request.file.package.isDefault ∧ lists.flatten.any (·.denotedBy relative) then
          some relative
        else none)) ∧
      -- A failure is passed on unless the reference itself is declared before it.
      (∀ (lists : List (List DeclaredName)) error others,
        outcomes = lists.map .ok ++ .error error :: others →
        outcome = if lists.flatten.any (·.denotedBy request.reference) then
          .ok (some request.reference) else .error error) ∧
      -- What is answered is declared by a source and visible.
      ∀ answer, outcome = .ok (some answer) →
        ∃ source ∈ declarations.sources, ∃ items, listed source.cell = .ok items ∧
          ∃ declared ∈ items, declared.denotedBy answer = true ∧
            declared.visibleFrom request.language = true := by
  intro stage ended outcomes relative
  have stage_eq : ∀ next, stage next = lookUp declarations (next request) (candidates request) := by
    intro next
    simp only [stage, StageKind.intercept, carried]
  have attends : (stage fun _ => Resolving.answer none).Within (attending
      (Collection.Sourced (fun _ => True) declarations) (· = declarations.merged)) := by
    rw [stage_eq]
    exact lookUp_attends declarations (candidates request)
  have kept := Shelf.kept_performAll (ε := Event) (ν := Payload) (α := DeclaredName) scheduling
    earlier
  have early_merges := kept.merges_of_named named
  refine ⟨early_merges.descending, fun next => ?_, ?_, fun outcome finished => ?_⟩
  · rw [stage_eq, stage_eq]
    exact lookUp_forwards declarations (next request) (candidates request)
  · rcases Shelf.attend_waits scheduling attends breaks with finished | waits
    · exact .inl finished
    · obtain ⟨_, ⟨source, member, -, rfl⟩, unknown⟩ := waits
      exact .inr ⟨source, member, unknown⟩
  obtain ⟨_, ⟨roles, extends_roles, later_kept⟩, trace, run⟩ :=
    Shelf.attend_runs scheduling kept (attends.mono (attending_le_noteless _ _)) breaks
  obtain ⟨traces, booked⟩ := later_kept.booked
  have merges := early_merges.extend extends_roles
  have result : outcome = lookedUp outcomes (candidates request) := by
    have course : ended.2.store.Runs (fun _ => False)
        (lookUp declarations (.answer none) (candidates request)) trace (.finish outcome) := by
      rw [← stage_eq fun _ => Resolving.answer none, ← finished]
      exact run
    exact lookUp_finished merges booked comes _ course
  refine ⟨?_, ?_, ?_⟩
  · intro lists succeed
    rw [result, succeed, lookedUp_of_succeed, candidates_eq, List.find?_cons]
    cases lists.flatten.any (·.denotedBy request.reference) with
    | true => rfl
    | false =>
        cases request.file.package.isDefault with
        | true => rfl
        | false =>
            rw [if_neg Bool.false_ne_true, List.find?_singleton]
            simp [relative]
  · intro lists error others failing
    rw [result, failing, candidates_eq, lookedUp_of_failure]
  · intro answer answered
    obtain ⟨among, items, member, declared, held, denoted⟩ :=
      declared_of_lookedUp (result.symm.trans answered)
    obtain ⟨source, source_member, listed_eq⟩ := List.mem_map.mp member
    refine ⟨source, source_member, items, listed_eq, declared, held, denoted, ?_⟩
    rw [DeclaredName.denotedBy, Bool.and_eq_true, language_of_mem_candidates among] at denoted
    exact denoted.2

/-- A source that fails late ends the search, although the first source declares the reference
relative to the package and although all members are being read. -/
theorem lookup_from_sources_late_failure :
    let foo : DeclaredName := ⟨⟨"app"⟩, [⟨"Foo", by decide⟩], .all, "app.Foo", List.cons_ne_nil _ _⟩
    let slow : Leaf Event (Outcome (List DeclaredName)) :=
      .pass "slow" (.finish (.error (.computation "unreadable")))
    let file : FileContext := ⟨⟨"file:a"⟩, "a.kt", ⟨"app"⟩, .kotlin, none, []⟩
    let declarations : Collection DeclaredName := ⟨[⟨.high, 0, none⟩, ⟨.normal, 1, none⟩], 2⟩
    let request : Request :=
      ⟨file, ⟨"Foo", .kotlin⟩, "Foo", fun _ => none, none, none, some declarations⟩
    (((Shelf.empty : Shelf Event Payload DeclaredName).performAll .onDemand
      [.build "all" [(.high, .values [foo]), (.normal, .computed slow.work [] none)]]).attend
        .onDemand (StageKind.declarationLookup.intercept request fun _ => Resolving.answer none)
          [[.read "all" .materialize, .turn (.openGate "slow")]]).1 =
      .finish (.error (.computation "unreadable")) := by
  intro foo slow file declarations request
  let ended := ((Shelf.empty : Shelf Event Payload DeclaredName).performAll .onDemand
    [.build "all" [(.high, .values [foo]), (.normal, .computed slow.work [] none)]]).attend
      .onDemand (StageKind.declarationLookup.intercept request fun _ => Resolving.answer none)
        [[.read "all" .materialize, .turn (.openGate "slow")]]
  let listed (cell : Nat) : Outcome (List DeclaredName) :=
    if cell = 0 then .ok [foo] else .error (.computation "unreadable")
  have known : ended.2.store.outcome? 0 = some (.ok (.declarations [foo])) ∧
      ended.2.store.outcome? 1 = some (.error (.computation "unreadable")) := by
    simp only [ended]
    constructor <;> cbv
  obtain ⟨-, -, ends, answered⟩ := lookup_from_sources .onDemand
    [.build "all" [(.high, .values [foo]), (.normal, .computed slow.work [] none)]]
    [[.read "all" .materialize, .turn (.openGate "slow")]] "all" declarations request listed rfl rfl
    (by
      simp only [Collection.ComesTo, declarations, List.forall_mem_cons]
      refine ⟨fun outcome found => ?_, fun outcome found => ?_, by simp⟩
      · obtain rfl := Option.some.inj (known.1.symm.trans found)
        rfl
      · obtain rfl := Option.some.inj (known.2.symm.trans found)
        rfl)
  rcases ends with ⟨outcome, finished⟩ | ⟨source, member, unknown⟩
  · refine finished.trans (congrArg _ ?_)
    exact (answered outcome finished).2.1 [[foo]] (.computation "unreadable") [] rfl
  · simp only [declarations, List.mem_cons, List.not_mem_nil, or_false] at member
    rcases member with rfl | rfl
    · cases known.1.symm.trans unknown
    · cases known.2.symm.trans unknown

end Resolution

end SymbolResolver

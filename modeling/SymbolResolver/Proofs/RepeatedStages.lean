import SymbolResolver.Proofs.OrderedReads
import SymbolResolver.Proofs.PassedRequests

/-!
# Repeated stages

A stage that has no answer has none when it gets the same request once more. What it has read is
still so: the sources that it has waited for are settled, and a look at the merged declarations
shows what the sources hold. So a stage that does not rewrite can be left out where it comes again
after stages that do not rewrite either, in every run, and in every course however it is interleaved
with others (`repetition_idle`).
-/

namespace SymbolResolver

namespace Resolution

open Lazy

/-! ## Parts one after the other -/

/-- A part that ends without an answer leaves the rest to the next one, and a part that ends or waits
otherwise decides alone. -/
theorem advance_answerOr (poll : Nat → Store Event Payload → Store Event Payload)
    (work otherwise : Resolving) (store : Store Event Payload) :
    let first := Store.advance poll work store
    let both := Store.advance poll (work.andThen (answerOr otherwise)) store
    (first.1 = .finish (.ok none) ∧ both = Store.advance poll otherwise first.2) ∨
      (first.1.progress ≠ .finished (.ok none) ∧ both.1.progress = first.1.progress ∧
        both.2 = first.2) := by
  induction work generalizing store with
  | finish outcome =>
      rcases outcome with error | (_ | reference)
      · exact .inr ⟨by rintro ⟨⟩, rfl, rfl⟩
      · exact .inl ⟨rfl, rfl⟩
      · exact .inr ⟨by rintro ⟨⟩, rfl, rfl⟩
  | breakOff => exact .inr ⟨by rintro ⟨⟩, rfl, rfl⟩
  | note event next ih => exact ih _
  | pass gate next ih =>
      have continued : Computation.andThen (.pass gate next) (answerOr otherwise) =
        .pass gate (next.andThen (answerOr otherwise)) := rfl
      simp only [continued, Store.advance]
      split
      · exact ih store
      · exact .inr ⟨by rintro ⟨⟩, rfl, rfl⟩
  | start cell next ih => exact ih _
  | await cell next ih =>
      have continued : Computation.andThen (.await cell next) (answerOr otherwise) =
        .await cell fun outcome => (next outcome).andThen (answerOr otherwise) := rfl
      simp only [continued, Store.advance]
      split
      · exact ih _ _
      · exact .inr ⟨by rintro ⟨⟩, rfl, rfl⟩
  | peek cell next ih => exact ih _ _

/-- Without an answer in the end, there is none in the first part. -/
theorem advance_of_unanswered {poll : Nat → Store Event Payload → Store Event Payload}
    {work otherwise : Resolving} {store : Store Event Payload}
    (unanswered : (Store.advance poll (work.andThen (answerOr otherwise)) store).1 =
      .finish (.ok none)) :
    let first := Store.advance poll work store
    first.1 = .finish (.ok none) ∧
      Store.advance poll (work.andThen (answerOr otherwise)) store =
        Store.advance poll otherwise first.2 := by
  rcases advance_answerOr poll work otherwise store with goes_on | ⟨decided, same, -⟩
  · exact goes_on
  · rw [unanswered] at same
    exact absurd same.symm decided

/-- A computation comes to an end by a course that a store bears out. -/
def Ends (store : Store Event Payload) (work ended : Resolving) : Prop :=
  ended.progress ≠ .waiting ∧ ∃ trace, store.Runs (fun _ => False) work trace ended

/-- A course through two parts ends in the first one with anything but no answer, or in the second
one after no answer in the first. -/
theorem ends_answerOr_iff {store : Store Event Payload} {work otherwise ended : Resolving} :
    Ends store (work.andThen (answerOr otherwise)) ended ↔
      ended ≠ .finish (.ok none) ∧ Ends store work ended ∨
        Ends store work (.finish (.ok none)) ∧ Ends store otherwise ended := by
  constructor
  · rintro ⟨ended_there, trace, run⟩
    rcases run.of_bind with ⟨middle, course, rfl⟩ | ⟨first, second, result, -, course, after⟩
    · cases middle with
      | finish outcome =>
          rcases outcome with error | (_ | reference)
          · exact .inl ⟨nofun, nofun, trace, course⟩
          · exact .inr ⟨⟨nofun, trace, course⟩, ended_there, [], .stay _⟩
          · exact .inl ⟨nofun, nofun, trace, course⟩
      | breakOff => exact .inl ⟨nofun, nofun, trace, course⟩
      | note | pass | start | await | peek => exact absurd rfl ended_there
    · rcases result with error | (_ | reference)
      · cases after
        exact .inl ⟨nofun, nofun, first, course⟩
      · exact .inr ⟨⟨nofun, first, course⟩, ended_there, second, after⟩
      · cases after
        exact .inl ⟨nofun, nofun, first, course⟩
  · rintro (⟨answered, ended_there, trace, course⟩ |
      ⟨⟨-, first, course⟩, ended_there, second, after⟩)
    · refine ⟨ended_there, trace, ?_⟩
      have continued : store.Runs (fun _ => False) (work.andThen (answerOr otherwise)) trace
        (ended.andThen (answerOr otherwise)) := course.bind _
      cases ended with
      | finish outcome =>
          rcases outcome with error | (_ | reference)
          · exact continued
          · exact absurd rfl answered
          · exact continued
      | breakOff => exact continued
      | note | pass | start | await | peek => exact absurd rfl ended_there
    · exact ⟨ended_there, first ++ second, (course.bind _).trans after⟩

/-! ## Runs -/

/-- The cells that the stages of a request may wait for come before the merged declarations. -/
def Request.limit (request : Request) : Nat :=
  (request.declarations.map Collection.merged).getD 0

theorem Request.limit_le {request : Request} {store : Store Event Payload}
    (placed : ∀ declarations, request.declarations = some declarations →
      Placed store declarations) : request.limit ≤ store.size := by
  rw [limit]
  cases found : request.declarations with
  | none => exact Nat.zero_le _
  | some declarations => exact Nat.le_of_lt (placed declarations found).merged_lt

theorem Request.allows_reading {request : Request} {store : Store Event Payload}
    (placed : ∀ declarations, request.declarations = some declarations →
      Placed store declarations) :
    request.Allows (Store.reading request.limit store.size) where
  noted _ := trivial
  merged declarations found := by
    rw [limit, found]
    exact ⟨Nat.le_refl _, (placed declarations found).merged_lt⟩
  sources declarations found source member := by
    rw [limit, found]
    exact (placed declarations found).sources_before source member
  broken _ := trivial

section Readers

variable {store : Store Event Payload} {limit bound : Nat} {reader first last rest : Resolving}

/-- A reader that has ended without an answer ends so again without changing a cell, after whatever
another reader has done. -/
theorem unanswered_again (ordered : store.Ordered)
    (reader_within : reader.Within (Store.reading limit bound))
    (last_within : last.Within (Store.reading limit bound))
    (unanswered : (Store.advance (Store.pollBelow bound) reader store).1 = .finish (.ok none)) :
    let ended := Store.advance (Store.pollBelow bound) reader store
    let later := (Store.advance (Store.pollBelow bound) last ended.2).2
    later.Ordered ∧ ∃ notes, Store.advance (Store.pollBelow bound) reader later =
      (.finish (.ok none), { later with notes := notes }) := by
  intro ended later
  obtain ⟨framed, trace, course⟩ := Store.reader_course ordered reader_within bound
  obtain ⟨later_framed, -, -⟩ := Store.reader_course framed.ordered last_within bound
  have order : ended.2.Precedes later :=
    Store.precedes_advance (fun store cell => Store.precedes_pollBelow bound cell store) last _
  have later_course : later.Runs (limit ≤ ·) reader trace ended.1 := by
    refine course.mono order fun cell outside => ?_
    rw [Store.outcome?, later_framed.kept cell outside, Store.outcome?]
  rw [show ended.1 = .finish (.ok none) from unanswered] at later_course
  exact ⟨later_framed.ordered, later_course.replay
    (reader_within.mono (Store.reading_le_unstarted limit bound)) rfl rfl bound⟩

/-- The same where the reader is the middle one of three parts that have no answer. -/
theorem middle_unanswered_again (ordered : store.Ordered)
    (first_within : first.Within (Store.reading limit bound))
    (reader_within : reader.Within (Store.reading limit bound))
    (last_within : last.Within (Store.reading limit bound)) :
    let begun := Store.advance (Store.pollBelow bound)
      (first.andThen (answerOr (reader.andThen (answerOr last)))) store
    begun.1 = .finish (.ok none) → begun.2.Ordered ∧ ∃ notes,
      Store.advance (Store.pollBelow bound) reader begun.2 =
        (.finish (.ok none), { begun.2 with notes := notes }) := by
  intro begun unanswered
  obtain ⟨-, from_first⟩ := advance_of_unanswered unanswered
  obtain ⟨framed, -, -⟩ := Store.reader_course ordered first_within bound
  rw [show begun = _ from from_first] at unanswered
  obtain ⟨reader_unanswered, from_reader⟩ := advance_of_unanswered unanswered
  rw [show begun = _ from from_first.trans from_reader]
  exact unanswered_again framed.ordered reader_within last_within reader_unanswered

/-- A reader comes once more after two others: this changes neither the end nor a cell. -/
theorem advance_repeated (ordered : store.Ordered) (limit_le : limit ≤ store.size)
    (first_within : first.Within (Store.reading limit store.size))
    (reader_within : reader.Within (Store.reading limit store.size))
    (last_within : last.Within (Store.reading limit store.size))
    (rest_within : rest.Within (Store.reading limit store.size)) :
    let begun := first.andThen (answerOr (reader.andThen (answerOr last)))
    let repeated := store.run (begun.andThen (answerOr (reader.andThen (answerOr rest))))
    let single := store.run (begun.andThen (answerOr rest))
    repeated.1.progress = single.1.progress ∧ repeated.2.cells = single.2.cells ∧
      repeated.2.openGates = single.2.openGates := by
  intro begun repeated single
  rcases advance_answerOr (Store.pollBelow store.size) begun rest store with
    ⟨unanswered, single_eq⟩ | ⟨decided, single_ends, single_store⟩ <;>
  rcases advance_answerOr (Store.pollBelow store.size) begun (reader.andThen (answerOr rest)) store
    with ⟨also_unanswered, repeated_eq⟩ | ⟨also_decided, repeated_ends, repeated_store⟩
  · -- The repeated reader has no answer, and the rest begins with the cells that it begins with
    -- where the reader does not come again.
    obtain ⟨later_ordered, notes, again⟩ :=
      middle_unanswered_again ordered first_within reader_within last_within unanswered
    rcases advance_answerOr (Store.pollBelow store.size) reader rest
      (Store.advance (Store.pollBelow store.size) begun store).2 with
      ⟨-, goes_on⟩ | ⟨decided, -, -⟩
    · rw [again] at goes_on
      have twins : Store.Twins store.size []
          (Store.advance (Store.pollBelow store.size) begun store).2
          { (Store.advance (Store.pollBelow store.size) begun store).2 with notes := notes } :=
        ⟨Store.size_advance _ _ _, later_ordered, (List.append_nil _).symm, rfl⟩
      obtain ⟨rest_eq, rest_twins⟩ :=
        twins.same_run (rest_within.mono (Store.reading_le_below limit_le))
      rw [show repeated = _ from repeated_eq.trans goes_on, show single = _ from single_eq]
      exact ⟨congrArg Computation.progress rest_eq.symm,
        rest_twins.cells_eq.trans (List.append_nil _), rest_twins.gates_eq⟩
    · rw [again] at decided
      exact absurd rfl decided
  · rw [unanswered] at also_decided
    exact absurd rfl also_decided
  · rw [also_unanswered] at decided
    exact absurd rfl decided
  · have same_store : repeated.2 = single.2 := repeated_store.trans single_store.symm
    exact ⟨repeated_ends.trans single_ends.symm, congrArg Store.cells same_store,
      congrArg Store.openGates same_store⟩

end Readers

/-! ## Courses -/

section Courses

variable {store : Store Event Payload} {firm : Nat → Prop}
  {declarations : Collection DeclaredName} {listed : Nat → Outcome (List DeclaredName)}

/-- A merged list that has come from merging holds the distinct members of the sources, which have
all succeeded. -/
theorem lists_of_merged
    (merging : store.Comes declarations.merged
      (.pending (Collection.mergeWork declarations.sources)))
    (comes : declarations.ComesTo store listed) {stored : Payload}
    (known : store.outcome? declarations.merged = some (.ok stored)) :
    ∃ lists : List (List DeclaredName),
      (declarations.sources.map fun source => listed source.cell) = lists.map .ok ∧
        Listed.unwrap stored = distinct lists.flatten := by
  obtain ⟨trace, rest, run, rfl | ⟨-, impossible⟩⟩ := merging.course known
  · have within : (Collection.mergeWork declarations.sources :
        Computation Event Payload (Outcome Payload)).Within
        { awaited := fun _ => True, looked := fun _ => False } :=
      Collection.mergeWork_within (fun _ _ => trivial) fun _ _ => trivial
    have means := run.means within
      (fun _ _ _ cell_known => (Collection.given_of_known cell_known listed).symm)
      (fun _ _ impossible => impossible.elim) (Collection.mergeWork_means declarations.sources)
    cases succeed : Collection.members (Collection.given store listed) declarations.sources with
    | error error =>
        rw [succeed] at means
        cases means
    | ok items =>
        rw [succeed] at means
        injection means with ended
        injection ended with stored_eq
        obtain ⟨lists, shown_lists, rfl⟩ := Collection.exists_lists_of_members succeed
        refine ⟨lists, (comes.map_given fun _ => id).symm.trans shown_lists, ?_⟩
        rw [← stored_eq, Listed.unwrap_wrap]
  · cases impossible

/-- What a lookup has come to is a matter of the sources alone, wherever it has looked. -/
theorem lookUp_of_sources
    (merging : store.Comes declarations.merged
      (.pending (Collection.mergeWork declarations.sources)))
    (comes : declarations.ComesTo store listed) (candidates : List ReferenceName)
    {trace : List Event} {outcome : Outcome Answer}
    (run : store.Runs firm (lookUp declarations (.answer none) candidates) trace
      (.finish outcome)) :
    outcome = lookedUp (declarations.sources.map fun source => listed source.cell) candidates := by
  refine lookedUp_of_searched (fun {candidate trace found} search => ?_) run
  rcases Collection.runs_readMerged search with ⟨stored, known, rfl⟩ | scanned
  · obtain ⟨lists, succeed, stored_eq⟩ := lists_of_merged merging comes known
    rw [succeed, firstIn_map_ok, stored_eq, find?_distinct (denotedBy_respects candidate)]
  · exact comes.scanned_first scanned

/-- The scope of what reads nothing. -/
def unreading : Scope Event :=
  { passed := fun _ => False
    started := fun _ => False
    awaited := fun _ => False
    looked := fun _ => False }

/-- What reads nothing has one end. -/
theorem ends_of_unread {work ended other : Resolving} (unread : work.Within unreading)
    (ends : Ends store work ended) (other_ends : Ends store work other) : ended = other := by
  obtain ⟨ended_there, trace, run⟩ := ends
  obtain ⟨other_there, more, other_run⟩ := other_ends
  induction work generalizing trace more with
  | finish | breakOff =>
      cases run
      cases other_run
      rfl
  | note event next ih =>
      cases run with
      | stay => exact absurd rfl ended_there
      | note run =>
          cases other_run with
          | stay => exact absurd rfl other_there
          | note other_run => exact ih unread.2 _ run _ other_run
  | pass | start | await | peek => exact unread.1.elim

/-- A stage that has ended without an answer has no other end. -/
theorem ends_unanswered (kind : StageKind) {packet : Request}
    (merging : ∀ declarations, packet.declarations = some declarations →
      store.Comes declarations.merged (.pending (Collection.mergeWork declarations.sources)))
    (unanswered : Ends store (kind.intercept packet fun _ => .answer none) (.finish (.ok none)))
    {ended : Resolving} (ends : Ends store (kind.intercept packet fun _ => .answer none) ended) :
    ended = .finish (.ok none) := by
  have without_declarations : kind ≠ .declarationLookup ∨ packet.declarations = none →
      ended = .finish (.ok none) := by
    intro unread
    have same : kind.intercept packet (fun _ => .answer none) =
        kind.intercept { packet with declarations := none } fun _ => .answer none := by
      rcases unread with other | absent
      · cases kind with
        | declarationLookup => exact absurd rfl other
        | importAlias | semanticBinding | explicitImport | stdlib => rfl
      · rw [← absent]
    rw [same] at unanswered ends
    refine ends_of_unread (intercept_within kind ?_ ?_) ends unanswered
    · exact ⟨fun _ => trivial, fun _ found => (nomatch found), fun _ found => (nomatch found),
        fun _ => trivial⟩
    · exact fun _ _ => trivial
  by_cases looks_up : kind = .declarationLookup
  · subst looks_up
    cases found : packet.declarations with
    | none => exact without_declarations (.inr found)
    | some declarations =>
        let listed (cell : Nat) : Outcome (List DeclaredName) :=
          ((store.outcome? cell).getD (.ok (.declarations []))).map Listed.unwrap
        have comes : declarations.ComesTo store listed := by
          intro source _ outcome known
          simp only [listed, known, Option.getD_some]
        simp only [StageKind.intercept, found] at unanswered ends
        obtain ⟨-, _, first_run⟩ := unanswered
        obtain ⟨ended_there, trace, run⟩ := ends
        have unbroken : ended.Within { broken := False } := by
          refine (run.within (lookUp_within ?_ ?_ ?_ _)).1
          · trivial
          · exact fun _ _ => trivial
          · trivial
        cases ended with
        | finish outcome =>
            rw [lookUp_of_sources (merging _ found) comes _ run,
              ← lookUp_of_sources (merging _ found) comes _ first_run]
        | breakOff => exact unbroken.elim
        | note | pass | start | await | peek => exact absurd rfl ended_there
  · exact without_declarations (.inl looks_up)

/-- A reader that can end without an answer only comes once more after two others: this changes no
end. -/
theorem ends_repeated {reader first last rest ended : Resolving}
    (only : Ends store reader (.finish (.ok none)) → ∀ other, Ends store reader other →
      other = .finish (.ok none)) :
    let begun := first.andThen (answerOr (reader.andThen (answerOr last)))
    Ends store (begun.andThen (answerOr (reader.andThen (answerOr rest)))) ended ↔
      Ends store (begun.andThen (answerOr rest)) ended := by
  intro begun
  have goes_on : Ends store begun (.finish (.ok none)) →
      (Ends store (reader.andThen (answerOr rest)) ended ↔ Ends store rest ended) := by
    intro unanswered
    rcases ends_answerOr_iff.mp unanswered with ⟨answered, -⟩ | ⟨-, in_reader⟩
    · exact absurd rfl answered
    · rcases ends_answerOr_iff.mp in_reader with ⟨answered, -⟩ | ⟨no_answer, -⟩
      · exact absurd rfl answered
      · constructor
        · intro ends
          rcases ends_answerOr_iff.mp ends with ⟨answered, by_reader⟩ | ⟨-, by_rest⟩
          · exact absurd (only no_answer ended by_reader) answered
          · exact by_rest
        · exact fun ends => ends_answerOr_iff.mpr (.inr ⟨no_answer, ends⟩)
  exact ends_answerOr_iff.trans
    (Iff.trans (or_congr Iff.rfl (and_congr_right goes_on)) ends_answerOr_iff.symm)

end Courses

/-! ## Chains with a repeated stage -/

/-- A stage that does not rewrite leaves its own request to the rest of the chain. -/
theorem run_cons_of_ne {kind : StageKind} (keeps : kind ≠ .importAlias) (kinds : List StageKind)
    (packet : Request) :
    Chain.run ((kind :: kinds).map StageKind.stage) packet =
      (kind.intercept packet fun _ => .answer none).andThen
        (answerOr (Chain.run (kinds.map StageKind.stage) packet)) := by
  rw [run_cons, intercept_forwards, StageKind.passed_of_ne keeps]

section Repetition

variable {before between : List StageKind} {kind : StageKind} {request : Request}
  (keeps : kind ≠ .importAlias) (unrewritten : .importAlias ∉ between)

include keeps unrewritten

/-- The stages up to the repetition, and whatever comes then, on the request that has reached the
first of the two. -/
theorem run_before_repetition (others : List StageKind) :
    let packet := reaching before request
    Chain.run ((before ++ kind :: (between ++ others)).map StageKind.stage) request =
      ((Chain.run (before.map StageKind.stage) request).andThen
        (answerOr ((kind.intercept packet fun _ => .answer none).andThen
          (answerOr (Chain.run (between.map StageKind.stage) packet))))).andThen
        (answerOr (Chain.run (others.map StageKind.stage) packet)) := by
  intro packet
  have parts : before ++ kind :: (between ++ others) = (before ++ kind :: between) ++ others := by
    simp
  have unchanged : reaching (before ++ kind :: between) request = packet := by
    rw [reaching_append, reaching_of_not_mem]
    simp [keeps.symm, unrewritten]
  rw [parts, run_append, unchanged, run_append before, run_cons_of_ne keeps]

/-- The two ends of the chains are the same in every store where the merged list has come from the
sources. -/
theorem ends_repeated_iff {store : Store Event Payload}
    (merging : ∀ declarations, request.declarations = some declarations →
      store.Comes declarations.merged (.pending (Collection.mergeWork declarations.sources)))
    (after : List StageKind) (ended : Resolving) :
    Ends store (Chain.run ((before ++ kind :: (between ++ kind :: after)).map StageKind.stage)
        request) ended ↔
      Ends store (Chain.run ((before ++ kind :: (between ++ after)).map StageKind.stage)
        request) ended := by
  rw [run_before_repetition keeps unrewritten, run_before_repetition keeps unrewritten,
    run_cons_of_ne keeps]
  refine ends_repeated fun unanswered other ends => ?_
  refine ends_unanswered kind ?_ unanswered ends
  rwa [reaching_eq]

/-- The two chains run to the same end and leave the same cells. -/
theorem run_repeated {world : World} (ordered : world.store.Ordered)
    (placed : ∀ declarations, request.declarations = some declarations →
      Placed world.store declarations) (after : List StageKind) :
    let repeated := Resolver.runDirectly
      (Chain.run ((before ++ kind :: (between ++ kind :: after)).map StageKind.stage) request) world
    let single := Resolver.runDirectly
      (Chain.run ((before ++ kind :: (between ++ after)).map StageKind.stage) request) world
    repeated.1 = single.1 ∧ repeated.2.store.cells = single.2.store.cells ∧
      repeated.2.store.openGates = single.2.store.openGates := by
  have allows := Request.allows_reading placed
  have packet_allows : (reaching before request).Allows
      (Store.reading request.limit world.store.size) := by
    rw [reaching_eq]
    exact allows.withReference _
  have stage_within : (kind.intercept (reaching before request) fun _ => .answer none).Within
      (Store.reading request.limit world.store.size) :=
    intercept_within kind packet_allows fun _ _ => trivial
  have same := advance_repeated ordered (Request.limit_le placed) (chain_within before allows)
    stage_within (chain_within between packet_allows) (chain_within after packet_allows)
  dsimp only at same
  rw [← run_cons_of_ne keeps after, ← run_before_repetition keeps unrewritten,
    ← run_before_repetition keeps unrewritten] at same
  exact same

end Repetition

/-- Repeating a stage that does not rewrite changes nothing, if no stage in between rewrites. Both
chains run to the same end, be it an answer, no answer, an error, a break or a wait, and leave the
same cells. However their courses are interleaved with others, they have the same ends in every
store where the merged list of declarations has come from their sources. A repeated alias stage can
change the end. -/
theorem repetition_idle (before between after : List StageKind) (kind : StageKind)
    (request : Request) :
    (kind ≠ .importAlias → .importAlias ∉ between →
      let repeated := Chain.run
        ((before ++ kind :: (between ++ kind :: after)).map StageKind.stage) request
      let single := Chain.run ((before ++ kind :: (between ++ after)).map StageKind.stage) request
      (∀ world : World, world.store.Ordered →
        (∀ declarations, request.declarations = some declarations →
          Placed world.store declarations) →
        let first := Resolver.runDirectly repeated world
        let second := Resolver.runDirectly single world
        first.1 = second.1 ∧ first.2.store.cells = second.2.store.cells ∧
          first.2.store.openGates = second.2.store.openGates) ∧
      ∀ store : Store Event Payload,
        (∀ declarations, request.declarations = some declarations →
          store.Comes declarations.merged
            (.pending (Collection.mergeWork declarations.sources))) →
        ∀ ended : Resolving, ended.progress ≠ .waiting →
          ((∃ trace, store.Runs (fun _ => False) repeated trace ended) ↔
            ∃ trace, store.Runs (fun _ => False) single trace ended)) ∧
    ∃ (doubled : List StageKind) (aliased : Request) (world : World),
      (Resolver.runDirectly (Chain.run
          ((StageKind.importAlias :: .importAlias :: doubled).map StageKind.stage) aliased)
          world).1 ≠
        (Resolver.runDirectly (Chain.run
          ((StageKind.importAlias :: doubled).map StageKind.stage) aliased) world).1 := by
  refine ⟨fun keeps unrewritten => ?_, ?_⟩
  · intro repeated single
    refine ⟨fun world ordered placed => run_repeated keeps unrewritten ordered placed after, ?_⟩
    intro store merging ended ended_there
    have same : Ends store repeated ended ↔ Ends store single ended :=
      ends_repeated_iff keeps unrewritten merging after ended
    simpa [Ends, ended_there] using same
  · let file : FileContext := ⟨⟨"file:a"⟩, "a.kt", .default, .kotlin,
      some ((TextTable.empty.insert "A" "B").insert "B" "C"), []⟩
    refine ⟨[.stdlib], .ofText file "A" .kotlin (.ofTable (TextTable.empty.insert "C" "lib.C")),
      .empty, ?_⟩
    decide +kernel

/-- The declarations are searched twice for a name that they do not have. The first search pulls
their source, the second one finds it settled, and the standard library answers either way. -/
theorem repetition_idle_lookup :
    let foo : DeclaredName :=
      ⟨⟨"com.app"⟩, [⟨"Foo", by decide⟩], .singleton .kotlin, "com.app.Foo", List.cons_ne_nil _ _⟩
    let source := (Store.empty : Store Event Payload).defer (.finish (.ok (.declarations [foo]))) []
    let built := Collection.build source.2 [⟨.normal, source.1, none⟩]
    let file : FileContext := .ofPath "a.kt" ⟨"com.app"⟩ .kotlin
    let request : Request :=
      { Request.ofText file "Bar" .kotlin (.ofTable (TextTable.empty.insert "Bar" "lib.Bar")) with
        declarations := some built.1 }
    let twice := Chain.run ([StageKind.importAlias, .declarationLookup, .explicitImport,
      .declarationLookup, .stdlib].map StageKind.stage) request
    let once := Chain.run ([StageKind.importAlias, .declarationLookup, .explicitImport,
      .stdlib].map StageKind.stage) request
    let found : Outcome Answer := .ok (some ⟨"lib.Bar", .kotlin⟩)
    let ran := Resolver.runDirectly twice ⟨built.2, []⟩
    ran.1 = .finished found ∧ (Resolver.runDirectly once ⟨built.2, []⟩).1 = ran.1 ∧
      ∃ trace, ran.2.store.Runs (fun _ => False) once trace (.finish found) := by
  intro foo source built file request twice once found ran
  have source_ordered : source.2.Ordered := Store.Ordered.defer Store.ordered_empty (by trivial) []
  have inside : ∀ registered ∈ [(⟨.normal, source.1, none⟩ : Source DeclaredName)],
      registered.cell < source.2.size := by
    simp [source, Store.defer, Store.allocate, Store.empty, Store.size]
  obtain ⟨ordered, placed⟩ := placed_build source_ordered inside
  have merging : ran.2.store.Comes built.1.merged
      (.pending (Collection.mergeWork built.1.sources)) := (Store.Comes.defer _ _ _).run twice
  have ends : (built.2.run twice).1.progress = .finished found := by decide +kernel
  obtain ⟨trace, course⟩ := built.2.run_runs twice
  rw [Computation.eq_finish_of_progress ends] at course
  obtain ⟨same, same_ends⟩ := (repetition_idle [.importAlias] [.explicitImport] [.stdlib]
    .declarationLookup request).1 (by decide) (by decide)
  refine ⟨ends, ?_, ?_⟩
  · exact (same ⟨built.2, []⟩ ordered fun _ carried => Option.some.inj carried ▸ placed).1.symm
  · exact (same_ends ran.2.store (fun _ carried => Option.some.inj carried ▸ merging)
      (.finish found) (by rintro ⟨⟩)).mp ⟨trace, course⟩

end Resolution

end SymbolResolver

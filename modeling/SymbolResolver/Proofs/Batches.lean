import SymbolResolver.Proofs.SharedLookups
import SymbolResolver.Snapshot

/-!
# Batches of references

What resolving references one after the other comes to is settled by what each of them comes to alone
(`Peers.Stands.resolveAll_eq`): the first one without a success decides, and where there is none, every
reference has its place in the summary (`Summary.Accounts`). The files of a snapshot are resolved one
after the other in the same way. So a batch loses, duplicates and reorders nothing, whatever has been
requested before it (`batches_independent`).
-/

namespace SymbolResolver

namespace Resolution

open Lazy

/-! ## Endings in a row -/

namespace Ending

variable {α β γ : Type}

/-- Goes on with a success and passes every other ending through. -/
def andThen (ending : Ending α) (continuation : α → Ending β) : Ending β :=
  match ending with
  | .finished (.ok value) => continuation value
  | .finished (.error error) => .finished (.error error)
  | .brokenOff => .brokenOff
  | .waiting => .waiting

theorem andThen_eq_ok_iff {ending : Ending α} {continuation : α → Ending β} {result : β} :
    andThen ending continuation = .finished (.ok result) ↔
      ∃ value, ending = .finished (.ok value) ∧ continuation value = .finished (.ok result) := by
  rcases ending with (error | value) | _ | _ <;> simp [andThen]

theorem andThen_eq_error_iff {ending : Ending α} {continuation : α → Ending β} {error : Error} :
    andThen ending continuation = .finished (.error error) ↔ ending = .finished (.error error) ∨
      ∃ value, ending = .finished (.ok value) ∧ continuation value = .finished (.error error) := by
  rcases ending with (error | value) | _ | _ <;> simp [andThen]

/-- Where a success goes on to an end, only what was before can be without one. -/
theorem andThen_finished {ending : Ending α} {continuation : α → Ending β} {outcome : Outcome α}
    (finished : ending = .finished outcome)
    (continued : ∀ value, ending = .finished (.ok value) →
      ∃ outcome, continuation value = .finished outcome) :
    ∃ outcome, andThen ending continuation = .finished outcome := by
  subst finished
  cases outcome with
  | ok value => exact continued value rfl
  | error error => exact ⟨.error error, rfl⟩

/-- The entries of items, given how each of them ends alone. The first one without a success decides.
-/
def collected (alone : α → Ending β) (entry : α → β → γ) : List α → Ending (List γ)
  | [] => .finished (.ok [])
  | item :: items =>
    andThen (alone item) fun value =>
      andThen (collected alone entry items) fun entries =>
        .finished (.ok (entry item value :: entries))

variable {alone : α → Ending β} {entry : α → β → γ} {items : List α}

theorem collected_eq_ok_iff {entries : List γ} :
    collected alone entry items = .finished (.ok entries) ↔
      List.Forall₂ (fun item made => ∃ value, alone item = .finished (.ok value) ∧
        made = entry item value) items entries := by
  induction items generalizing entries with
  | nil => simp [collected, eq_comm]
  | cons item items ih =>
      simp only [collected, andThen_eq_ok_iff, ih, List.forall₂_cons_left_iff]
      constructor
      · rintro ⟨value, succeeded, others, collected_others, made⟩
        simp only [Computation.Progress.finished.injEq, Except.ok.injEq] at made
        exact ⟨_, others, ⟨value, succeeded, rfl⟩, collected_others, made.symm⟩
      · rintro ⟨_, others, ⟨value, succeeded, rfl⟩, collected_others, rfl⟩
        exact ⟨value, succeeded, others, collected_others, rfl⟩

theorem exists_collected_iff :
    (∃ entries, collected alone entry items = .finished (.ok entries)) ↔
      ∀ item ∈ items, ∃ value, alone item = .finished (.ok value) := by
  induction items with
  | nil => simp [collected]
  | cons item items ih =>
      rw [List.forall_mem_cons, ← ih]
      simp only [collected, andThen_eq_ok_iff]
      constructor
      · rintro ⟨_, value, succeeded, entries, others, _⟩
        exact ⟨⟨value, succeeded⟩, entries, others⟩
      · rintro ⟨⟨value, succeeded⟩, entries, others⟩
        exact ⟨_, value, succeeded, entries, others, rfl⟩

/-- An error comes from an item behind successes only. -/
theorem collected_eq_error_iff {error : Error} :
    collected alone entry items = .finished (.error error) ↔
      ∃ before item after, items = before ++ item :: after ∧
        (∀ earlier ∈ before, ∃ value, alone earlier = .finished (.ok value)) ∧
        alone item = .finished (.error error) := by
  induction items with
  | nil => simp [collected]
  | cons item items ih =>
      simp only [collected, andThen_eq_error_iff, ih]
      constructor
      · rintro (failed | ⟨value, succeeded, ⟨before, other, after, rfl, successes, failed⟩ |
          ⟨_, _, impossible⟩⟩)
        · exact ⟨[], item, items, rfl, nofun, failed⟩
        · exact ⟨item :: before, other, after, rfl,
            List.forall_mem_cons.mpr ⟨⟨value, succeeded⟩, successes⟩, failed⟩
        · cases impossible
      · rintro ⟨before, other, after, parts, successes, failed⟩
        cases before with
        | nil =>
            obtain ⟨rfl, rfl⟩ := List.cons_eq_cons.mp parts
            exact Or.inl failed
        | cons first before =>
            obtain ⟨rfl, rfl⟩ := List.cons_eq_cons.mp parts
            obtain ⟨⟨value, succeeded⟩, successes⟩ := List.forall_mem_cons.mp successes
            exact Or.inr ⟨value, succeeded,
              Or.inl ⟨before, other, after, rfl, successes, failed⟩⟩

/-- Where every item comes to an end, they do together. -/
theorem collected_finished
    (finished : ∀ item ∈ items, ∃ outcome, alone item = .finished outcome) :
    ∃ outcome, collected alone entry items = .finished outcome := by
  induction items with
  | nil => exact ⟨_, rfl⟩
  | cons item items ih =>
      rw [List.forall_mem_cons] at finished
      obtain ⟨⟨outcome, first⟩, others⟩ := finished
      obtain ⟨others_outcome, others_finished⟩ := ih others
      refine andThen_finished first fun value _ => ?_
      exact andThen_finished others_finished fun entries _ => ⟨_, rfl⟩

/-- Together they fail exactly if one of them fails, provided that all of them come to an end. -/
theorem collected_fails_iff
    (finished : ∀ item ∈ items, ∃ outcome, alone item = .finished outcome) :
    (∃ error, collected alone entry items = .finished (.error error)) ↔
      ∃ item ∈ items, ∃ error, alone item = .finished (.error error) := by
  constructor
  · rintro ⟨error, failed⟩
    obtain ⟨before, item, after, rfl, _, item_failed⟩ := collected_eq_error_iff.mp failed
    exact ⟨item, by simp, error, item_failed⟩
  · rintro ⟨item, member, error, item_failed⟩
    have together : ∃ outcome, collected alone entry items = .finished outcome :=
      collected_finished finished
    obtain ⟨_ | entries, together⟩ := together
    · exact ⟨_, together⟩
    · obtain ⟨value, succeeded⟩ := exists_collected_iff.mp ⟨entries, together⟩ item member
      rw [item_failed] at succeeded
      cases succeeded

end Ending

/-! ## Summaries -/

/-- Whether a request has ended with a reference. -/
def Ending.answered : Ending Answer → Bool
  | .finished (.ok answer) => answer.isSome
  | _ => false

/-- A summary accounts for references: each of them stands once among the resolved or the unresolved
ones, in the order of the references, with what it comes to alone. -/
structure Summary.Accounts (summary : Summary) (alone : ReferenceName → Ending Answer)
    (references : List ReferenceName) : Prop where
  total_eq : summary.total = references.length
  written_eq : summary.resolved.map ResolvedReference.written =
    references.filter fun reference => (alone reference).answered
  unresolved_eq : summary.unresolved =
    references.filter fun reference => !(alone reference).answered
  length_eq : summary.resolved.length + summary.unresolved.length = summary.total
  resolved_alone : ∀ entry ∈ summary.resolved,
    alone entry.written = .finished (.ok (some entry.resolved))
  unresolved_alone : ∀ reference ∈ summary.unresolved, alone reference = .finished (.ok none)

section Summaries

variable {alone : ReferenceName → Ending Answer} {references : List ReferenceName}
  {answers : List (ReferenceName × Answer)}

/-- References with the answers that they get alone. -/
def Answered (alone : ReferenceName → Ending Answer) (references : List ReferenceName)
    (answers : List (ReferenceName × Answer)) : Prop :=
  List.Forall₂ (fun reference answer => ∃ found, alone reference = .finished (.ok found) ∧
    answer = (reference, found)) references answers

theorem Summary.ofAnswers_some (reference resolved : ReferenceName)
    (answers : List (ReferenceName × Answer)) :
    ofAnswers ((reference, some resolved) :: answers) =
      ⟨⟨reference, resolved⟩ :: (ofAnswers answers).resolved, (ofAnswers answers).unresolved,
        (ofAnswers answers).total + 1⟩ :=
  rfl

theorem Summary.ofAnswers_none (reference : ReferenceName)
    (answers : List (ReferenceName × Answer)) :
    ofAnswers ((reference, none) :: answers) =
      ⟨(ofAnswers answers).resolved, reference :: (ofAnswers answers).unresolved,
        (ofAnswers answers).total + 1⟩ :=
  rfl

/-- The summary of the answers that references get alone accounts for them. -/
theorem Answered.accounts (answered : Answered alone references answers) :
    (Summary.ofAnswers answers).Accounts alone references := by
  induction answered with
  | nil => exact ⟨rfl, rfl, rfl, rfl, nofun, nofun⟩
  | @cons reference answer references answers first _ ih =>
      obtain ⟨found, ends, rfl⟩ := first
      cases found with
      | some resolved =>
          have has_answer : (alone reference).answered = true := by rw [ends]; rfl
          rw [Summary.ofAnswers_some]
          constructor
          · exact congrArg (· + 1) ih.total_eq
          · rw [List.map_cons, List.filter_cons_of_pos (by exact has_answer), ih.written_eq]
          · rw [List.filter_cons_of_neg (by simp [has_answer])]
            exact ih.unresolved_eq
          · exact (Nat.succ_add _ _).trans (congrArg (· + 1) ih.length_eq)
          · exact List.forall_mem_cons.mpr ⟨ends, ih.resolved_alone⟩
          · exact ih.unresolved_alone
      | none =>
          have no_answer : (alone reference).answered = false := by rw [ends]; rfl
          rw [Summary.ofAnswers_none]
          constructor
          · exact congrArg (· + 1) ih.total_eq
          · rw [List.filter_cons_of_neg (by simp [no_answer])]
            exact ih.written_eq
          · rw [List.filter_cons_of_pos (by simp [no_answer]), ← ih.unresolved_eq]
          · exact congrArg (· + 1) ih.length_eq
          · exact ih.resolved_alone
          · exact List.forall_mem_cons.mpr ⟨ends, ih.unresolved_alone⟩

/-- Other orders of the references give the same entries in other orders. -/
theorem Answered.permute (answered : Answered alone references answers)
    {permuted : List ReferenceName} (same : references.Perm permuted) :
    ∃ others, Answered alone permuted others ∧
      (Summary.ofAnswers answers).resolved.Perm (Summary.ofAnswers others).resolved ∧
      (Summary.ofAnswers answers).unresolved.Perm (Summary.ofAnswers others).unresolved := by
  obtain ⟨others, others_answered, same_answers⟩ := List.perm_comp_forall₂ same.symm answered
  exact ⟨others, others_answered, same_answers.symm.filterMap _, same_answers.symm.filterMap _⟩

end Summaries

/-! ## Batches in a world -/

namespace Peers

variable {peers : Peers} {used : Nat → Prop} {world : World}

/-- How a reference of a file ends alone. -/
def alone (peers : Peers) (resolver : Resolver) (file : FileContext) (reference : ReferenceName) :
    Ending Answer :=
  peers.ending (resolver.request file reference.text reference.language none)

/-- What the references of a file come to together, given what each of them comes to alone. -/
def batch (peers : Peers) (resolver : Resolver) (file : FileContext)
    (references : List ReferenceName) : Ending Summary :=
  Ending.andThen (Ending.collected (peers.alone resolver file) Prod.mk references) fun answers =>
    .finished (.ok (.ofAnswers answers))

theorem Stands.resolveFiles (stands : peers.Stands used world) {resolver : Resolver}
    (included : peers.Includes used resolver) (sources : List SnapshotFile)
    (members : ∀ source ∈ sources, source.context ∈ peers.files) :
    peers.Stands used (Snapshot.resolveFiles resolver sources world).2 := by
  induction sources generalizing world with
  | nil => exact stands
  | cons source sources ih =>
      rw [List.forall_mem_cons] at members
      refine World.andThen_keeps (peers.Stands used)
        (stands.resolveAll included members.1 source.referenceNames) ?_
      intro summary world stands_on
      exact World.andThen_keeps (peers.Stands used) (ih stands_on members.2)
        fun _ _ stands_last => stands_last

/-- What is done with a success does not depend on the world that it has left. -/
theorem Stands.ending_andThen {α β : Type} {done : Ending α × World}
    (stands : peers.Stands used done.2) {continuation : α → World → Ending β × World}
    {next : α → Ending β}
    (continued : ∀ value world, peers.Stands used world → (continuation value world).1 = next value) :
    (World.andThen done continuation).1 = Ending.andThen done.1 next := by
  obtain ⟨(error | value) | _ | _, world⟩ := done
  case finished.ok => exact continued value world stands
  all_goals rfl

theorem Stands.resolveEach_eq (stands : peers.Stands used world) {resolver : Resolver}
    (included : peers.Includes used resolver) {file : FileContext} (member : file ∈ peers.files)
    (references : List ReferenceName) :
    (resolver.resolveEach file references world).1 =
      Ending.collected (peers.alone resolver file) Prod.mk references := by
  induction references generalizing world with
  | nil => rfl
  | cons reference references ih =>
      obtain ⟨ends, stands_on⟩ :=
        stands.resolve included member reference.text reference.language
      refine (stands_on.ending_andThen fun answer world stands_next => ?_).trans
        (congrArg (Ending.andThen · _) ends)
      rw [← ih stands_next]
      exact (stands_next.resolveEach included member references).ending_andThen
        fun answers world _ => rfl

theorem Stands.resolveAll_eq (stands : peers.Stands used world) {resolver : Resolver}
    (included : peers.Includes used resolver) {file : FileContext} (member : file ∈ peers.files)
    (references : List ReferenceName) :
    (resolver.resolveAll file references world).1 = peers.batch resolver file references := by
  rw [batch, ← stands.resolveEach_eq included member references]
  exact (stands.resolveEach included member references).ending_andThen fun answers world _ => rfl

/-- The files of a snapshot are resolved as each of them would be alone. -/
theorem Stands.resolveFiles_eq (stands : peers.Stands used world) {resolver : Resolver}
    (included : peers.Includes used resolver) (sources : List SnapshotFile)
    (members : ∀ source ∈ sources, source.context ∈ peers.files) :
    (Snapshot.resolveFiles resolver sources world).1 =
      Ending.collected
        (fun source => peers.batch resolver source.context source.referenceNames)
        (fun source summary => ⟨source.path, summary⟩) sources := by
  induction sources generalizing world with
  | nil => rfl
  | cons source sources ih =>
      rw [List.forall_mem_cons] at members
      have stands_on := stands.resolveAll included members.1 source.referenceNames
      refine (stands_on.ending_andThen fun summary world stands_next => ?_).trans
        (congrArg (Ending.andThen · _)
          (stands.resolveAll_eq included members.1 source.referenceNames))
      rw [← ih stands_next members.2]
      exact (stands_next.resolveFiles included sources members.2).ending_andThen
        fun results world _ => rfl

/-- A snapshot is resolved exactly if each of its files is, and has one result for each of them. -/
theorem Stands.resolveFiles_eq_ok_iff (stands : peers.Stands used world) {resolver : Resolver}
    (included : peers.Includes used resolver) {sources : List SnapshotFile}
    (members : ∀ source ∈ sources, source.context ∈ peers.files) {results : List FileResolution} :
    (Snapshot.resolveFiles resolver sources world).1 = .finished (.ok results) ↔
      List.Forall₂ (fun source result => result.path = source.path ∧
        (resolver.resolveAll source.context source.referenceNames world).1 =
          .finished (.ok result.summary)) sources results := by
  have alone_eq : ∀ source : SnapshotFile, source.context ∈ peers.files →
      (resolver.resolveAll source.context source.referenceNames world).1 =
        peers.batch resolver source.context source.referenceNames :=
    fun source member => stands.resolveAll_eq included member source.referenceNames
  rw [stands.resolveFiles_eq included sources members, Ending.collected_eq_ok_iff]
  constructor
  · intro together
    refine ((List.forall₂_and_left _ _).mpr ⟨members, together⟩).imp ?_
    rintro source result ⟨member, summary, succeeded, rfl⟩
    exact ⟨rfl, (alone_eq source member).trans succeeded⟩
  · intro each
    refine ((List.forall₂_and_left _ _).mpr ⟨members, each⟩).imp ?_
    rintro source ⟨path, summary⟩ ⟨member, rfl, succeeded⟩
    exact ⟨summary, (alone_eq source member).symm.trans succeeded, rfl⟩

/-- The references of a file succeed together exactly if each of them does alone. -/
theorem batch_eq_ok_iff {resolver : Resolver} {file : FileContext}
    {references : List ReferenceName} {summary : Summary} :
    peers.batch resolver file references = .finished (.ok summary) ↔
      ∃ answers, Answered (peers.alone resolver file) references answers ∧
        summary = Summary.ofAnswers answers := by
  simp only [batch, Ending.andThen_eq_ok_iff, Ending.collected_eq_ok_iff, Answered,
    Computation.Progress.finished.injEq, Except.ok.injEq]
  exact exists_congr fun answers => and_congr_right' eq_comm

theorem exists_batch_iff {resolver : Resolver} {file : FileContext}
    {references : List ReferenceName} :
    (∃ summary, peers.batch resolver file references = .finished (.ok summary)) ↔
      ∀ reference ∈ references, ∃ answer,
        peers.alone resolver file reference = .finished (.ok answer) := by
  have together : (∃ answers, Ending.collected (peers.alone resolver file) Prod.mk references =
      .finished (.ok answers)) ↔ _ := Ending.exists_collected_iff
  rw [← together]
  simp [batch, Ending.andThen_eq_ok_iff]

theorem batch_eq_error_iff {resolver : Resolver} {file : FileContext}
    {references : List ReferenceName} {error : Error} :
    peers.batch resolver file references = .finished (.error error) ↔
      Ending.collected (peers.alone resolver file) Prod.mk references =
        .finished (.error error) := by
  simp [batch, Ending.andThen_eq_error_iff]

/-- A reference alone comes to an end or waits. -/
theorem alone_finished {resolver : Resolver} {file : FileContext} {reference : ReferenceName}
    (waits_not : peers.alone resolver file reference ≠ .waiting) :
    ∃ outcome, peers.alone resolver file reference = .finished outcome := by
  have unbroken : (peers.alone resolver file reference).guarded =
      peers.alone resolver file reference := ending_guarded rfl
  cases ends : peers.alone resolver file reference with
  | finished outcome => exact ⟨outcome, rfl⟩
  | brokenOff =>
      rw [ends] at unbroken
      cases unbroken
  | waiting => exact absurd ends waits_not

end Peers

/-- The worlds before and after calls of resolvers with the same lookups. -/
theorem exists_stands {kinds : List StageKind} {stdlib : StdlibLookup}
    {declarations : Option (Collection DeclaredName)} {begun : World}
    {earlier : List (Resolver × Call)} {resolver : Resolver} (ordered : begun.store.Ordered)
    (placed : ∀ collection, declarations = some collection → Placed begun.store collection)
    (same_lookups : ∀ peer ∈ resolver :: earlier.map Prod.fst,
      peer.stages = kinds.map StageKind.stage ∧ peer.stdlib = stdlib ∧
        peer.declarations = declarations)
    (new_caches : ∀ peer ∈ resolver :: earlier.map Prod.fst, ∀ number,
      peer.cache = some number → begun.cacheAt number = .empty)
    (leave_chain : ∀ entry ∈ earlier, entry.2.leavesChain = true) (files : List FileContext)
    (one_file : OneFile (files ++ (inquiriesOf earlier).map Inquiry.file)) :
    ∃ peers : Peers, ∃ used, (∀ file ∈ files, file ∈ peers.files) ∧
      peers.Includes used resolver ∧ peers.Stands used begun ∧
      peers.Stands used (Resolver.callAll begun earlier).2 := by
  let peers : Peers :=
    ⟨kinds, stdlib, declarations, _, begun.store, one_file, ordered, placed⟩
  let used (number : Nat) : Prop := begun.cacheAt number = .empty
  have included : ∀ peer ∈ resolver :: earlier.map Prod.fst, peers.Includes used peer := by
    intro peer member
    obtain ⟨same_stages, same_stdlib, same_declarations⟩ := same_lookups peer member
    exact ⟨same_stages, same_stdlib, same_declarations, new_caches peer member⟩
  rw [List.forall_mem_cons, List.forall_mem_map] at included
  have stands : peers.Stands used begun := Peers.stands_start rfl fun _ is_empty => is_empty
  refine ⟨peers, used, fun file => List.mem_append_left _, included.1, stands,
    stands.callAll earlier included.2 leave_chain fun inquiry member => ?_⟩
  exact List.mem_append_right _ (List.mem_map_of_mem member)

/-- Batches lose, duplicate and reorder nothing. Whatever resolvers with the same lookups have been
asked before, and whether they keep their answers or not, each reference of a batch comes to what a
new resolver answers to it alone, with or without a cache of its own. If all of them succeed, the
summary accounts for every reference in order, and another order of the references gives the same
entries in another order. The first one without a success decides otherwise: its error is the error of
the batch, which therefore fails exactly if some reference fails alone, as long as none of them has to
wait. The files of a snapshot get one result each, in their order. -/
theorem batches_independent (kinds : List StageKind) (stdlib : StdlibLookup)
    (declarations : Option (Collection DeclaredName)) (begun : World)
    (earlier : List (Resolver × Call)) (resolver : Resolver) (file : FileContext)
    (references : List ReferenceName) (ordered : begun.store.Ordered)
    (placed : ∀ collection, declarations = some collection → Placed begun.store collection)
    (same_lookups : ∀ peer ∈ resolver :: earlier.map Prod.fst,
      peer.stages = kinds.map StageKind.stage ∧ peer.stdlib = stdlib ∧
        peer.declarations = declarations)
    (new_caches : ∀ peer ∈ resolver :: earlier.map Prod.fst, ∀ number,
      peer.cache = some number → begun.cacheAt number = .empty)
    (leave_chain : ∀ entry ∈ earlier, entry.2.leavesChain = true)
    (one_file : OneFile (file :: (inquiriesOf earlier).map Inquiry.file)) :
    let world := (Resolver.callAll begun earlier).2
    let alone (reference : ReferenceName) : Ending Answer :=
      (resolver.uncached.resolve file reference.text reference.language world).1
    let batch (references : List ReferenceName) : Ending Summary :=
      (resolver.resolveAll file references world).1
    (∀ reference : ReferenceName,
      (resolver.uncached.resolve file reference.text reference.language begun).1 =
        alone reference ∧
      (Resolver.resolve { resolver with cache := some world.addCache.1 } file reference.text
        reference.language world.addCache.2).1 = alone reference) ∧
    ((∃ summary, batch references = .finished (.ok summary)) ↔
      ∀ reference ∈ references, ∃ answer, alone reference = .finished (.ok answer)) ∧
    (∀ summary, batch references = .finished (.ok summary) →
      summary.Accounts alone references ∧
      ∀ permuted, references.Perm permuted → ∃ other, batch permuted = .finished (.ok other) ∧
        summary.resolved.Perm other.resolved ∧ summary.unresolved.Perm other.unresolved) ∧
    (∀ error, batch references = .finished (.error error) ↔
      ∃ before reference after, references = before ++ reference :: after ∧
        (∀ other ∈ before, ∃ answer, alone other = .finished (.ok answer)) ∧
        alone reference = .finished (.error error)) ∧
    ((∀ reference ∈ references, alone reference ≠ .waiting) →
      ((∃ error, batch references = .finished (.error error)) ↔
        ∃ reference ∈ references, ∃ error, alone reference = .finished (.error error))) ∧
    ∀ snapshot : Snapshot,
      OneFile (snapshot.files.map SnapshotFile.context ++ (inquiriesOf earlier).map Inquiry.file) →
      ∀ results, (snapshot.resolveWith resolver world).1 = .finished (.ok results) ↔
        List.Forall₂ (fun source result => result.path = source.path ∧
          (resolver.resolveAll source.context source.referenceNames world).1 =
            .finished (.ok result.summary)) snapshot.files results := by
  intro world alone batch
  obtain ⟨peers, used, members, included, stands_before, stands⟩ :=
    exists_stands ordered placed same_lookups new_caches leave_chain [file] one_file
  have member := members file (List.mem_singleton_self file)
  have alone_eq : alone = peers.alone resolver file := by
    funext reference
    exact (stands.resolve included.uncached member reference.text reference.language).1
  have batch_eq : batch = peers.batch resolver file :=
    funext fun references => stands.resolveAll_eq included member references
  rw [alone_eq, batch_eq]
  refine ⟨fun reference => ⟨?_, ?_⟩, Peers.exists_batch_iff, ?_, ?_, ?_, ?_⟩
  · exact (stands_before.resolve included.uncached member reference.text reference.language).1
  · have with_new : peers.Includes (fun number => used number ∨ number = world.addCache.1)
        { resolver with cache := some world.addCache.1 } :=
      ⟨included.stages, included.stdlib, included.declarations,
        fun number has_cache => Or.inr (Option.some.inj has_cache).symm⟩
    exact (stands.addCache.resolve with_new member reference.text reference.language).1
  · intro summary succeeded
    obtain ⟨answers, answered, rfl⟩ := Peers.batch_eq_ok_iff.mp succeeded
    refine ⟨answered.accounts, fun permuted same => ?_⟩
    obtain ⟨others, others_answered, same_entries⟩ := answered.permute same
    exact ⟨_, Peers.batch_eq_ok_iff.mpr ⟨others, others_answered, rfl⟩, same_entries⟩
  · intro error
    rw [Peers.batch_eq_error_iff, Ending.collected_eq_error_iff]
  · intro none_waits
    simp only [Peers.batch_eq_error_iff]
    exact Ending.collected_fails_iff fun reference inside =>
      Peers.alone_finished (none_waits reference inside)
  · intro snapshot one_context results
    obtain ⟨peers, used, members, included, -, stands⟩ :=
      exists_stands ordered placed same_lookups new_caches leave_chain _ one_context
    rw [List.forall_mem_map] at members
    exact stands.resolveFiles_eq_ok_iff included members

/-- A declared name that is asked for twice, one from the standard library and one that nobody knows,
after a node that failed and the removal of the answers of the file. -/
theorem batches_independent_repeated :
    let foo : DeclaredName :=
      ⟨⟨"com.app"⟩, [⟨"Foo", by decide⟩], .singleton .kotlin, "com.app.Foo", List.cons_ne_nil _ _⟩
    let source := (Store.empty : Store Event Payload).defer (.finish (.ok (.declarations [foo]))) []
    let built := Collection.build source.2 [⟨.normal, source.1, none⟩]
    let begun : World := ⟨built.2, [.empty]⟩
    let binding : Binding := ⟨fun _ => .failure (.computation "unreadable")⟩
    let stdlib : StdlibLookup := .ofTable (TextTable.empty.insert "Bar" "lib.Bar")
    let resolver : Resolver := ⟨StageKind.defaultChain.map StageKind.stage, stdlib, some binding,
      some built.1, some 0⟩
    let file : FileContext := .ofPath "a.kt" ⟨"com.app"⟩ .kotlin
    let earlier : List (Resolver × Call) := [(resolver, .resolve file " Foo " .kotlin),
      (resolver, .resolveNode file ⟨⟨1⟩, "Foo"⟩ .kotlin), (resolver, .invalidate file.id),
      (resolver.uncached, .resolve file "Baz" .kotlin)]
    let world := (Resolver.callAll begun earlier).2
    let references : List ReferenceName :=
      [⟨"Foo", .kotlin⟩, ⟨"Baz", .kotlin⟩, ⟨"Bar", .kotlin⟩, ⟨"Foo", .kotlin⟩]
    ∃ summary, (resolver.resolveAll file references world).1 = .finished (.ok summary) ∧
      summary.resolved.length + summary.unresolved.length = 4 ∧
      ∀ entry ∈ summary.resolved,
        (resolver.uncached.resolve file entry.written.text entry.written.language world).1 =
          .finished (.ok (some entry.resolved)) := by
  intro foo source built begun binding stdlib resolver file earlier world references
  have source_ordered : source.2.Ordered := Store.Ordered.defer Store.ordered_empty (by trivial) []
  have inside : ∀ registered ∈ [(⟨.normal, source.1, none⟩ : Source DeclaredName)],
      registered.cell < source.2.size := by
    simp [source, Store.defer, Store.allocate, Store.empty, Store.size]
  obtain ⟨ordered, placed⟩ := placed_build source_ordered inside
  have one_file : OneFile (file :: (inquiriesOf earlier).map Inquiry.file) := by
    simp [OneFile, earlier, inquiriesOf, Call.inquiries]
  obtain ⟨same, together, summarized, -⟩ := batches_independent StageKind.defaultChain stdlib
    (some built.1) begun earlier resolver file references ordered
    (fun _ found => Option.some.inj found ▸ placed)
    (by simp [earlier, resolver, Resolver.uncached])
    (by simp [earlier, resolver, begun, World.cacheAt, Resolver.uncached])
    (by simp [earlier, Call.leavesChain]) one_file
  have each : ∀ reference ∈ references,
      ∃ answer ∈ [some ⟨"com.app.Foo", .kotlin⟩, some ⟨"lib.Bar", .kotlin⟩, none],
        (resolver.uncached.resolve file reference.text reference.language begun).1 =
          .finished (.ok answer) := by decide +kernel
  obtain ⟨summary, succeeded⟩ := together.mpr fun reference member => by
    obtain ⟨answer, -, ends⟩ := each reference member
    exact ⟨answer, (same reference).1.symm.trans ends⟩
  obtain ⟨accounts, -⟩ := summarized summary succeeded
  exact ⟨summary, succeeded, accounts.length_eq.trans accounts.total_eq, accounts.resolved_alone⟩

end Resolution

end SymbolResolver

import SymbolResolver.Lazy.Leaf
import SymbolResolver.Proofs.Replays

/-!
# Meanings

What a computation comes to is determined by the outcomes of the cells that it waits for, as long as
nothing depends on what its looks happen to show (`Computation.Means`). Some cells of a store tell
given outcomes if each is settled with its outcome or is left with a computation that means it
(`Store.Tells`). Whatever runs and in whatever order, the store goes on telling the same outcomes.
If no closed gate is in the way of these cells (`Store.Flowing`), whoever waits for one gets the
outcome at once. Nothing is asked of other cells.
-/

namespace SymbolResolver

namespace Lazy

variable {ε ν α β : Type}

/-! ## Computations -/

namespace Computation

/-- What a computation comes to if the cells have given outcomes. A look at a cell may show its
outcome or come too early, and it comes to the same in both cases. -/
def Means (shown : Nat → Outcome ν) : Computation ε ν α → Progress α → Prop
  | finish result, ending => ending = .finished result
  | breakOff, ending => ending = .brokenOff
  | note _ next, ending => next.Means shown ending
  | pass _ next, ending => next.Means shown ending
  | start _ next, ending => next.Means shown ending
  | await cell next, ending => (next (shown cell)).Means shown ending
  | peek cell next, ending =>
    (next none).Means shown ending ∧ (next (some (shown cell))).Means shown ending

variable {shown : Nat → Outcome ν}

theorem Means.bind {work : Computation ε ν α} {result : α} {ending : Progress β}
    {continuation : α → Computation ε ν β} (means : work.Means shown (.finished result))
    (continued : (continuation result).Means shown ending) :
    (work.bind continuation).Means shown ending := by
  induction work with
  | finish own_result =>
      obtain rfl : result = own_result := by
        injection means
      exact continued
  | breakOff => cases means
  | note event next ih => exact ih means
  | pass gate next ih => exact ih means
  | start cell next ih => exact ih means
  | await cell next ih => exact ih _ means
  | peek cell next ih => exact ⟨ih _ means.1, ih _ means.2⟩

theorem Means.bind_brokenOff {work : Computation ε ν α} {continuation : α → Computation ε ν β}
    (means : work.Means shown .brokenOff) : (work.bind continuation).Means shown .brokenOff := by
  induction work with
  | finish result => cases means
  | breakOff => rfl
  | note event next ih => exact ih means
  | pass gate next ih => exact ih means
  | start cell next ih => exact ih means
  | await cell next ih => exact ih _ means
  | peek cell next ih => exact ⟨ih _ means.1, ih _ means.2⟩

theorem Means.andThen {work : Computation ε ν (Outcome α)} {value : α}
    {ending : Progress (Outcome β)} {continuation : α → Computation ε ν (Outcome β)}
    (means : work.Means shown (.finished (.ok value)))
    (continued : (continuation value).Means shown ending) :
    (work.andThen continuation).Means shown ending :=
  means.bind continued

theorem Means.andThen_error {work : Computation ε ν (Outcome α)} {error : Error}
    {continuation : α → Computation ε ν (Outcome β)}
    (means : work.Means shown (.finished (.error error))) :
    (work.andThen continuation).Means shown (.finished (.error error)) := by
  refine means.bind ?_
  rfl

theorem Means.mapOk {work : Computation ε ν (Outcome α)} {outcome : Outcome α}
    (means : work.Means shown (.finished outcome)) (f : α → β) :
    (work.mapOk f).Means shown (.finished (outcome.map f)) := by
  cases outcome with
  | ok value =>
      refine means.andThen ?_
      rfl
  | error error => exact means.andThen_error

theorem Means.ne_waiting {work : Computation ε ν α} {ending : Progress α}
    (means : work.Means shown ending) : ending ≠ .waiting := by
  induction work with
  | finish result =>
      obtain rfl : ending = .finished result := means
      exact nofun
  | breakOff =>
      obtain rfl : ending = .brokenOff := means
      exact nofun
  | note event next ih => exact ih means
  | pass gate next ih => exact ih means
  | start cell next ih => exact ih means
  | await cell next ih => exact ih _ means
  | peek cell next ih => exact ih _ means.1

theorem means_outcomeOf (cell : Nat) :
    (outcomeOf cell : Computation ε ν (Outcome ν)).Means shown (.finished (shown cell)) := by
  simp only [outcomeOf, Means]

/-- A computation whose successes are kept means the same to those who wait for it. -/
theorem Means.kept {work : Computation ε ν (Outcome α)} {ending : Progress (Outcome α)}
    (means : work.Means shown ending) (wrap : α → β) :
    ∃ outcome kept, ending.guarded = .finished outcome ∧ (work.mapOk wrap).Means shown kept ∧
      kept.guarded = .finished (outcome.map wrap) := by
  cases ending with
  | finished outcome => exact ⟨outcome, _, rfl, means.mapOk wrap, rfl⟩
  | brokenOff => exact ⟨_, _, rfl, means.bind_brokenOff, rfl⟩
  | waiting => exact absurd rfl means.ne_waiting

/-- Only the outcomes of cells within the scope of a computation matter. -/
theorem Means.congr {other : Nat → Outcome ν} {scope : Scope ε}
    (awaited_same : ∀ cell, scope.awaited cell → shown cell = other cell)
    (looked_same : ∀ cell, scope.looked cell → shown cell = other cell)
    {work : Computation ε ν α} (within : work.Within scope) {ending : Progress α}
    (means : work.Means shown ending) : work.Means other ending := by
  induction work with
  | finish result => exact means
  | breakOff => exact means
  | note event next ih => exact ih within.2 means
  | pass gate next ih => exact ih within.2 means
  | start cell next ih => exact ih within.2 means
  | await cell next ih =>
      rw [Means, awaited_same cell within.1] at means
      exact ih _ (within.2 _) means
  | peek cell next ih =>
      obtain ⟨early, seen⟩ := means
      rw [looked_same cell within.1] at seen
      exact ⟨ih _ (within.2 _) early, ih _ (within.2 _) seen⟩

/-- A computation that has come to an end has come to what it means. -/
theorem Means.progress_eq {rest : Computation ε ν α} {ending : Progress α}
    (means : rest.Means shown ending) (ended : rest.progress ≠ .waiting) :
    rest.progress = ending := by
  cases rest with
  | finish result => exact means.symm
  | breakOff => exact means.symm
  | note | pass | start | await | peek => exact absurd rfl ended

end Computation

/-- How a leaf ends. -/
def Leaf.ending (leaf : Leaf ε α) : Computation.Progress α :=
  match leaf.result? with
  | some result => .finished result
  | none => .brokenOff

theorem Leaf.means_work (shown : Nat → Outcome ν) (leaf : Leaf ε α) :
    leaf.work.Means shown leaf.ending := by
  induction leaf with
  | finish result => rfl
  | breakOff => rfl
  | note event next ih => exact ih
  | pass gate next ih => exact ih

/-- The gates that a leaf waits at, in order. -/
def Leaf.gates : Leaf ε α → List String
  | finish _ => []
  | breakOff => []
  | note _ next => next.gates
  | pass gate next => gate :: next.gates

theorem Leaf.within_work {scope : Scope ε} {leaf : Leaf ε α}
    (noted : ∀ event ∈ leaf.notes, scope.noted event)
    (passed : ∀ gate ∈ leaf.gates, scope.passed gate) (broken : scope.broken) :
    (leaf.work : Computation ε ν α).Within scope := by
  induction leaf with
  | finish result => trivial
  | breakOff => exact broken
  | note event next ih =>
      rw [notes, List.forall_mem_cons] at noted
      exact ⟨noted.1, ih noted.2 passed⟩
  | pass gate next ih =>
      rw [gates, List.forall_mem_cons] at passed
      exact ⟨passed.1, ih noted passed.2⟩

/-! ## Cells -/

/-- A cell is settled with an outcome, or what is left to do means it. -/
def CellState.Means (shown : Nat → Outcome ν) (outcome : Outcome ν) : CellState ε ν → Prop
  | pending work | running work =>
    ∃ ending, work.Means shown ending ∧ ending.guarded = .finished outcome
  | settled found => found = outcome

theorem CellState.Means.congr {shown other : Nat → Outcome ν} {scope : Scope ε}
    (awaited_same : ∀ cell, scope.awaited cell → shown cell = other cell)
    (looked_same : ∀ cell, scope.looked cell → shown cell = other cell) {state : CellState ε ν}
    (within : state.Within scope) {outcome : Outcome ν} (means : state.Means shown outcome) :
    state.Means other outcome := by
  cases state with
  | pending work =>
      obtain ⟨ending, work_means, guarded⟩ := means
      exact ⟨ending, work_means.congr awaited_same looked_same within, guarded⟩
  | running work =>
      obtain ⟨ending, work_means, guarded⟩ := means
      exact ⟨ending, work_means.congr awaited_same looked_same within, guarded⟩
  | settled found => exact means

theorem CellState.means_ofRest {shown : Nat → Outcome ν} {outcome : Outcome ν}
    {rest : Computation ε ν (Outcome ν)} {ending : Computation.Progress (Outcome ν)}
    (means : rest.Means shown ending) (guarded : ending.guarded = .finished outcome) :
    (CellState.ofRest rest).Means shown outcome := by
  cases rest with
  | finish result =>
      have ended : ending = .finished result := means
      rw [ended] at guarded
      injection guarded
  | breakOff =>
      have ended : ending = .brokenOff := means
      rw [ended] at guarded
      injection guarded
  | note | pass | start | await | peek => exact ⟨ending, means, guarded⟩

/-! ## Cells that can be relied on -/

/-- The scope of a computation that waits at given gates and for trusted cells before a bound. -/
def relying (trusted : Nat → Prop) (opened : String → Prop) (bound : Nat) : Scope ε where
  passed := opened
  awaited cell := trusted cell ∧ cell < bound
  looked := trusted

/-- The scopes of cells when trusted ones rely on each other. Other cells may do anything. -/
def among (trusted : Nat → Prop) (opened : String → Prop) (cell : Nat) : Scope ε where
  passed gate := trusted cell → opened gate
  awaited other := trusted cell → trusted other ∧ other < cell
  looked other := trusted cell → trusted other

theorem among_le {trusted : Nat → Prop} (opened : String → Prop) {cell : Nat}
    (is_trusted : trusted cell) :
    (among trusted opened cell : Scope ε).Le (relying trusted opened cell) :=
  ⟨fun _ => id, fun _ passed => passed is_trusted, fun _ => id, fun _ awaited => awaited is_trusted,
    fun _ looked => looked is_trusted, id⟩

/-- A cell goes on relying on the same cells when more of them are trusted. -/
theorem among_le_among {trusted more : Nat → Prop} (opened : String → Prop) {cell : Nat}
    (fewer : ∀ other, trusted other → more other) (already : more cell → trusted cell) :
    (among trusted opened cell : Scope ε).Le (among more opened cell) :=
  ⟨fun _ => id, fun _ passed is_trusted => passed (already is_trusted), fun _ => id,
    fun other awaited is_trusted =>
      ⟨fewer other (awaited (already is_trusted)).1, (awaited (already is_trusted)).2⟩,
    fun other looked is_trusted => fewer other (looked (already is_trusted)), id⟩

theorem relying_le_among {trusted more : Nat → Prop} (opened : String → Prop) (cell : Nat)
    (fewer : ∀ other, trusted other → more other) :
    (relying trusted opened cell : Scope ε).Le (among more opened cell) :=
  ⟨fun _ => id, fun _ passed _ => passed, fun _ => id,
    fun other awaited _ => ⟨fewer other awaited.1, awaited.2⟩,
    fun other looked _ => fewer other looked, id⟩

namespace Store

/-- Every trusted cell is settled with the outcome that is shown for it, or will come to it. -/
structure Tells (trusted : Nat → Prop) (opened : String → Prop) (shown : Nat → Outcome ν)
    (store : Store ε ν) : Prop where
  /-- Trusted cells rely on trusted cells only. -/
  within : store.Within (among trusted opened)
  means : ∀ cell state, trusted cell → store.state? cell = some state →
    state.Means shown (shown cell)

/-- If no cell is trusted, there is nothing to tell. -/
theorem tells_nothing (store : Store ε ν) (opened : String → Prop) (shown : Nat → Outcome ν) :
    store.Tells (fun _ => False) opened shown := by
  refine ⟨fun cell state _ => ?_, fun _ _ impossible => impossible.elim⟩
  have le : ({} : Scope ε).Le (among (fun _ => False) opened cell) :=
    ⟨fun _ _ => trivial, fun _ _ => False.elim, fun _ _ => trivial, fun _ _ => False.elim,
      fun _ _ => False.elim, fun _ => trivial⟩
  cases state with
  | pending work => exact work.within_all.mono le
  | running work => exact work.within_all.mono le
  | settled outcome => trivial

theorem inside_defer {trusted : Nat → Prop} {store : Store ε ν}
    (inside : ∀ cell, trusted cell → cell < store.size) (work : Computation ε ν (Outcome ν))
    (needed : List Nat) (cell : Nat) (now_trusted : trusted cell ∨ cell = store.size) :
    cell < (store.defer work needed).2.size := by
  have one_more : (store.defer work needed).2.size = store.size + 1 := store.size_allocate _ _
  rw [one_more]
  rcases now_trusted with is_trusted | rfl
  · exact Nat.lt_succ_of_lt (inside cell is_trusted)
  · exact Nat.lt_succ_self _

namespace Tells

variable {trusted : Nat → Prop} {opened : String → Prop} {shown : Nat → Outcome ν}
  {store : Store ε ν}

theorem outcome_eq (tells : store.Tells trusted opened shown) {cell : Nat}
    (is_trusted : trusted cell) {outcome : Outcome ν}
    (known : store.outcome? cell = some outcome) : outcome = shown cell :=
  tells.means cell _ is_trusted (outcome?_eq_some_iff.mp known)

theorem modify (tells : store.Tells trusted opened shown) (cell : Nat)
    {change : CellState ε ν → CellState ε ν}
    (changed_within : ∀ state, store.state? cell = some state →
      (change state).Within (among trusted opened cell))
    (changed : trusted cell → ∀ state, store.state? cell = some state →
      (change state).Means shown (shown cell)) :
    (store.modify cell change).Tells trusted opened shown := by
  refine ⟨within_modify tells.within cell changed_within, ?_⟩
  intro other state is_trusted found
  rw [state?_modify] at found
  split at found
  · next same =>
    subst same
    obtain ⟨before, at_cell, rfl⟩ := Option.map_eq_some_iff.mp found
    exact changed is_trusted before at_cell
  · exact tells.means other state is_trusted found

theorem start (tells : store.Tells trusted opened shown) (cell : Nat) :
    (store.start cell).Tells trusted opened shown := by
  refine tells.modify cell
    (fun state found => CellState.within_started (tells.within cell state found)) ?_
  intro is_trusted state found
  have means := tells.means cell state is_trusted found
  cases state with
  | pending work => exact means
  | running work => exact means
  | settled outcome => exact means

theorem allocate (tells : store.Tells trusted opened shown) {state : CellState ε ν}
    (within : state.Within (among trusted opened store.size))
    (means : trusted store.size → state.Means shown (shown store.size)) (needed : List Nat) :
    (store.allocate state needed).2.Tells trusted opened shown := by
  refine ⟨within_allocate tells.within within needed, ?_⟩
  intro cell found is_trusted at_cell
  rw [state?_allocate] at at_cell
  split at at_cell
  · next same =>
    cases at_cell
    subst same
    exact means is_trusted
  · exact tells.means cell found is_trusted at_cell

/-- A new cell that relies on trusted ones can be trusted, too. -/
theorem extend (tells : store.Tells trusted opened shown)
    (inside : ∀ cell, trusted cell → cell < store.size) {work : Computation ε ν (Outcome ν)}
    (within : work.Within (relying trusted opened store.size))
    {ending : Computation.Progress (Outcome ν)} (means : work.Means shown ending)
    {outcome : Outcome ν} (guarded : ending.guarded = .finished outcome) (needed : List Nat) :
    (store.defer work needed).2.Tells (fun cell => trusted cell ∨ cell = store.size) opened
      (fun cell => if cell = store.size then outcome else shown cell) := by
  have same : ∀ cell, trusted cell →
      shown cell = if cell = store.size then outcome else shown cell :=
    fun cell is_trusted => (if_neg (Nat.ne_of_lt (inside cell is_trusted))).symm
  have awaited_same : ∀ bound cell, (relying trusted opened bound : Scope ε).awaited cell →
      shown cell = if cell = store.size then outcome else shown cell :=
    fun _ cell relied => same cell relied.1
  -- Nothing changes for the cells that are there already.
  have still_tells : store.Tells (fun cell => trusted cell ∨ cell = store.size) opened
      (fun cell => if cell = store.size then outcome else shown cell) := by
    refine ⟨fun cell state found => ?_, fun cell state now_trusted found => ?_⟩
    · have already : trusted cell ∨ cell = store.size → trusted cell :=
        fun either => either.resolve_right (Nat.ne_of_lt (lt_size_of_state? found))
      have le : (among trusted opened cell : Scope ε).Le
          (among (fun cell => trusted cell ∨ cell = store.size) opened cell) :=
        among_le_among opened (fun _ => Or.inl) already
      exact (tells.within cell state found).mono le
    · have is_trusted : trusted cell :=
        now_trusted.resolve_right (Nat.ne_of_lt (lt_size_of_state? found))
      have relies := (tells.within cell state found).mono (among_le opened is_trusted)
      rw [← same cell is_trusted]
      exact (tells.means cell state is_trusted found).congr (awaited_same cell) same relies
  refine still_tells.allocate ?_ ?_ needed
  · exact within.mono (relying_le_among opened store.size fun _ => Or.inl)
  · intro _
    rw [if_pos rfl]
    exact ⟨ending, means.congr (awaited_same store.size) same within, guarded⟩

/-- A computation advances to a rest that means the same, if polling changes no outcome. -/
theorem advance {poll : Nat → Store ε ν → Store ε ν}
    (poll_tells : ∀ cell (store : Store ε ν), store.Tells trusted opened shown →
      (poll cell store).Tells trusted opened shown)
    {bound : Nat} {work : Computation ε ν α} (within : work.Within (relying trusted opened bound))
    {ending : Computation.Progress α} (means : work.Means shown ending)
    (tells : store.Tells trusted opened shown) :
    (Store.advance poll work store).2.Tells trusted opened shown ∧
      (Store.advance poll work store).1.Means shown ending := by
  induction work generalizing store with
  | finish result => exact ⟨tells, means⟩
  | breakOff => exact ⟨tells, means⟩
  | note event next ih => exact ih within.2 means ⟨tells.within, tells.means⟩
  | pass gate next ih =>
      simp only [Store.advance]
      split
      · exact ih within.2 means tells
      · exact ⟨tells, means⟩
  | start cell next ih => exact ih within.2 means (tells.start cell)
  | await cell next ih =>
      have polled := poll_tells cell _ (tells.start cell)
      simp only [Store.advance]
      split
      · next outcome known =>
        rw [polled.outcome_eq within.1.1 known]
        exact ih (shown cell) (within.2 _) means polled
      · exact ⟨polled, means⟩
  | peek cell next ih =>
      simp only [Store.advance]
      cases known : store.outcome? cell with
      | none => exact ih none (within.2 none) means.1 tells
      | some outcome =>
          rw [tells.outcome_eq within.1 known]
          exact ih (some (shown cell)) (within.2 _) means.2 tells

theorem pollBelow (tells : store.Tells trusted opened shown) (bound cell : Nat) :
    (Store.pollBelow bound cell store).Tells trusted opened shown := by
  refine pollBelow_preserves bound (Tells trusted opened shown) ?_ bound (Nat.le_refl bound) cell
    store tells
  intro lower work store _ lower_tells running tells
  have work_within : work.Within (among trusted opened lower) := tells.within lower _ running
  have left_within := rest_within (fun store cell => precedes_pollBelow lower cell store)
    work_within store
  by_cases is_trusted : trusted lower
  · obtain ⟨ending, means, guarded⟩ := tells.means lower _ is_trusted running
    obtain ⟨advanced, rest_means⟩ :=
      Tells.advance lower_tells (work_within.mono (among_le opened is_trusted)) means tells
    exact advanced.modify lower (fun _ _ => CellState.within_ofRest left_within)
      fun _ _ _ => CellState.means_ofRest rest_means guarded
  · have advanced :
        (Store.advance (Store.pollBelow lower) work store).2.Tells trusted opened shown :=
      advance_preserves (Tells trusted opened shown)
        (fun _ _ _ kept => ⟨kept.within, kept.means⟩) (fun _ started _ kept => kept.start started)
        (fun _ awaited _ kept => lower_tells awaited _ (kept.start awaited)) work work.within_all
        store tells
    exact advanced.modify lower (fun _ _ => CellState.within_ofRest left_within)
      fun trusted_lower => absurd trusted_lower is_trusted

theorem poll (tells : store.Tells trusted opened shown) (cell : Nat) :
    (store.poll cell).Tells trusted opened shown :=
  tells.pollBelow store.size cell

theorem run (tells : store.Tells trusted opened shown) {bound : Nat} {work : Computation ε ν α}
    (within : work.Within (relying trusted opened bound)) {ending : Computation.Progress α}
    (means : work.Means shown ending) :
    (store.run work).2.Tells trusted opened shown ∧ (store.run work).1.Means shown ending :=
  Tells.advance (fun cell _ kept => kept.pollBelow _ cell) within means tells

/-- Whatever runs, no outcome changes. -/
theorem run_any (tells : store.Tells trusted opened shown) (work : Computation ε ν α) :
    (store.run work).2.Tells trusted opened shown :=
  advance_preserves (Tells trusted opened shown) (fun _ _ _ kept => ⟨kept.within, kept.means⟩)
    (fun _ started _ kept => kept.start started)
    (fun _ awaited _ kept => (kept.start awaited).pollBelow _ awaited) work work.within_all
    store tells

/-- A wait for any cell changes no outcome. -/
theorem demand (tells : store.Tells trusted opened shown) (cell : Nat) :
    (store.run (Computation.outcomeOf cell)).2.Tells trusted opened shown := by
  rw [run_outcomeOf_store]
  exact (tells.start cell).pollBelow _ cell

end Tells

/-! ## Open gates -/

/-- Trusted cells rely on trusted cells, and the gates that they may wait at are open. -/
structure Flowing (trusted : Nat → Prop) (opened : String → Prop) (store : Store ε ν) : Prop where
  within : store.Within (among trusted opened)
  gates : ∀ gate, opened gate → store.isOpen gate = true

namespace Flowing

variable {trusted : Nat → Prop} {opened : String → Prop} {store : Store ε ν}

theorem start (flowing : store.Flowing trusted opened) (cell : Nat) :
    (store.start cell).Flowing trusted opened :=
  ⟨within_start flowing.within cell, flowing.gates⟩

theorem pollBelow (flowing : store.Flowing trusted opened) (bound cell : Nat) :
    (Store.pollBelow bound cell store).Flowing trusted opened := by
  refine ⟨within_pollBelow bound cell flowing.within, fun gate allowed => ?_⟩
  exact (precedes_pollBelow bound cell store).gate_kept (flowing.gates gate allowed)

/-- A computation comes to its end if every cell that it waits for does. -/
theorem advance_ends {bound : Nat} {poll : Nat → Store ε ν → Store ε ν}
    (poll_flowing : ∀ cell (store : Store ε ν), store.Flowing trusted opened →
      (poll cell store).Flowing trusted opened ∧ (poll cell store).size = store.size)
    (poll_settles : ∀ cell (store : Store ε ν), trusted cell → cell < bound → bound ≤ store.size →
      store.Flowing trusted opened →
      ∃ outcome, (poll cell (store.start cell)).outcome? cell = some outcome)
    {work : Computation ε ν α} (within : work.Within (relying trusted opened bound))
    (bound_le : bound ≤ store.size) (flowing : store.Flowing trusted opened) :
    (Store.advance poll work store).1.progress ≠ .waiting := by
  induction work generalizing store with
  | finish result => exact fun impossible => nomatch impossible
  | breakOff => exact fun impossible => nomatch impossible
  | note event next ih => exact ih within.2 bound_le ⟨flowing.within, flowing.gates⟩
  | pass gate next ih =>
      have is_open : store.isOpen gate = true := flowing.gates gate within.1
      simp only [Store.advance, is_open, if_true]
      exact ih within.2 bound_le flowing
  | start cell next ih =>
      have still_inside : bound ≤ (store.start cell).size := by
        rw [size_start]
        exact bound_le
      exact ih within.2 still_inside (flowing.start cell)
  | await cell next ih =>
      obtain ⟨outcome, known⟩ := poll_settles cell store within.1.1 within.1.2 bound_le flowing
      obtain ⟨polled, same_size⟩ := poll_flowing cell _ (flowing.start cell)
      simp only [Store.advance, known]
      refine ih outcome (within.2 outcome) ?_ polled
      rw [same_size, size_start]
      exact bound_le
  | peek cell next ih => exact ih _ (within.2 _) bound_le flowing

/-- A running cell is settled by a poll that takes its computation to an end. -/
theorem settled_of_ended {cell : Nat} {work : Computation ε ν (Outcome ν)}
    (running : store.state? cell = some (.running work))
    (ended : (Store.advance (Store.pollBelow cell) work store).1.progress ≠ .waiting) :
    ∃ outcome, (Store.pollBelow (cell + 1) cell store).outcome? cell = some outcome := by
  have left : (Store.pollBelow (cell + 1) cell store).state? cell =
      some (.ofRest (Store.advance (Store.pollBelow cell) work store).1) := by
    rw [pollBelow_of_running running, state?_modify, if_pos rfl, running_advance running,
      Option.map_some]
  revert ended left
  cases (Store.advance (Store.pollBelow cell) work store).1 with
  | finish outcome => exact fun _ left => ⟨outcome, outcome?_eq_some_iff.mpr left⟩
  | breakOff => exact fun _ left => ⟨_, outcome?_eq_some_iff.mpr left⟩
  | note | pass | start | await | peek => exact fun ended _ => absurd rfl ended

/-- Whoever waits for a cell gets its outcome, if the computation that runs there comes to an end. -/
theorem settled_of_demanded {cell : Nat} (inside : cell < store.size)
    (ended : ∀ work, (store.start cell).state? cell = some (.running work) →
      (Store.advance (Store.pollBelow cell) work (store.start cell)).1.progress ≠ .waiting) :
    ∃ outcome, (Store.pollBelow (cell + 1) cell (store.start cell)).outcome? cell =
      some outcome := by
  obtain ⟨state, found⟩ := exists_state?_of_lt inside
  have started : (store.start cell).state? cell = some state.started := by
    rw [state?_start, if_pos rfl, found, Option.map_some]
  cases state with
  | pending work | running work => exact settled_of_ended started (ended work started)
  | settled outcome =>
      have known : (store.start cell).outcome? cell = some outcome :=
        outcome?_eq_some_iff.mpr started
      exact ⟨outcome, by rw [pollBelow_of_settled known, known]⟩

/-- Whoever waits for a trusted cell gets its outcome. -/
theorem pollBelow_settles {bound cell : Nat} (is_trusted : trusted cell) (inside : cell < bound)
    (bound_le : bound ≤ store.size) (flowing : store.Flowing trusted opened) :
    ∃ outcome, (Store.pollBelow bound cell (store.start cell)).outcome? cell = some outcome := by
  induction bound generalizing cell store with
  | zero => exact absurd inside (Nat.not_lt_zero cell)
  | succ bound ih =>
      by_cases last : cell = bound
      · subst last
        have started_flowing := flowing.start cell
        have size_le : cell ≤ (store.start cell).size := by
          rw [size_start]
          exact Nat.le_of_succ_le bound_le
        refine settled_of_demanded bound_le fun work running => ?_
        have work_within : work.Within (among trusted opened cell) :=
          started_flowing.within cell _ running
        -- All cells that the computation waits for come before this one.
        refine Flowing.advance_ends ?_ ?_ (work_within.mono (among_le opened is_trusted)) size_le
          started_flowing
        · exact fun other _ kept => ⟨kept.pollBelow cell other, size_pollBelow cell other _⟩
        · exact fun other _ trusted_other before le kept => ih trusted_other before le kept
      · rw [pollBelow_of_ne last]
        exact ih is_trusted (Nat.lt_of_le_of_ne (Nat.le_of_lt_succ inside) last)
          (Nat.le_of_succ_le bound_le) flowing

end Flowing

/-- A computation that relies on trusted cells comes to what it means, if no closed gate is in their
way. -/
theorem Tells.run_progress {trusted : Nat → Prop} {opened : String → Prop}
    {shown : Nat → Outcome ν} {store : Store ε ν} (tells : store.Tells trusted opened shown)
    (gates : ∀ gate, opened gate → store.isOpen gate = true) {work : Computation ε ν α}
    (within : work.Within (relying trusted opened store.size)) {ending : Computation.Progress α}
    (means : work.Means shown ending) : (store.run work).1.progress = ending := by
  have flowing : store.Flowing trusted opened := ⟨tells.within, gates⟩
  have ended : (store.run work).1.progress ≠ .waiting :=
    Flowing.advance_ends
      (fun cell _ kept => ⟨kept.pollBelow _ cell, size_pollBelow _ cell _⟩)
      (fun _ _ is_trusted before le kept => kept.pollBelow_settles is_trusted before le) within
      (Nat.le_refl _) flowing
  exact (tells.run within means).2.progress_eq ended

end Store

end Lazy

end SymbolResolver

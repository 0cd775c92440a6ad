import SymbolResolver.Proofs.Reachability

/-!
# Ownership of cells

A cell is abandoned when it has lost its last owner: a handle from outside, or a computation that is
still there. `Executor.Tended` says that nothing that still has an owner is abandoned. Every
operation of an executor keeps this, and from then on an abandoned cell stays as it is for good
(`Executor.Forsakes`). Once every cell without an owner has been abandoned (`Executor.Released`), the
unfinished cells that are kept are just those that are reached from handles or through a computation
whose task is aborted (`Executor.Tended.keeps_iff`). No aborted task is left when all tasks have had
their turns (`Executor.Tended.aborted_settle`).
-/

namespace SymbolResolver

namespace Lazy

variable {ε ν : Type}

namespace Tasks

/-! ## Abandoned cells -/

/-- A cell has not been abandoned. -/
def Keeps (tasks : Tasks) (cell : Nat) : Prop := tasks.isAbandoned cell = false

instance (tasks : Tasks) (cell : Nat) : Decidable (tasks.Keeps cell) :=
  inferInstanceAs (Decidable (tasks.isAbandoned cell = false))

variable {tasks before after : Tasks} {store later : Store ε ν} {held : List Nat} {cell other : Nat}

theorem keeps_iff : tasks.Keeps cell ↔ cell ∉ tasks.aborted ∧ cell ∉ tasks.dropped := by
  simp [Keeps, isAbandoned]

theorem hasComputation_iff :
    tasks.hasComputation store cell = true ↔
      store.isSettled cell = false ∧ cell ∉ tasks.dropped := by
  simp [hasComputation]

/-- The computation of an unfinished cell that is kept is still there. -/
theorem Keeps.hasComputation (kept : tasks.Keeps cell) (unsettled : store.isSettled cell = false) :
    tasks.hasComputation store cell = true :=
  hasComputation_iff.mpr ⟨unsettled, (keeps_iff.mp kept).2⟩

theorem isOwned_iff :
    tasks.isOwned store held cell = true ↔
      cell ∈ held ∨ ∃ owner, tasks.hasComputation store owner = true ∧ cell ∈ store.needed owner := by
  simp only [isOwned, Bool.or_eq_true, List.contains_iff_mem, List.any_eq_true, Bool.and_eq_true,
    List.mem_range]
  refine or_congr_right (exists_congr fun owner => ?_)
  exact ⟨fun owns => owns.2, fun owns => ⟨Store.lt_size_of_needed owns.2, owns⟩⟩

/-- A cell is still owned if the computations of later cells are still there. -/
theorem isOwned_of_later (rooted : store.Rooted) (same_needed : later.needed = store.needed)
    (still : ∀ owner, cell < owner → before.hasComputation store owner = true →
      after.hasComputation later owner = true)
    (owned : before.isOwned store held cell = true) : after.isOwned later held cell = true := by
  rw [isOwned_iff] at owned ⊢
  refine owned.imp_right ?_
  rintro ⟨owner, has_computation, needs⟩
  exact ⟨owner, still owner (rooted.earlier owner cell needs) has_computation, same_needed ▸ needs⟩

/-- From one moment to the next a cell has been abandoned, or its computation has been dropped, and
nothing else has changed. -/
structure Abandons (cell : Nat) (before after : Tasks) : Prop where
  abandoned : ¬after.Keeps cell
  aborted_iff : ∀ other, other ≠ cell → (other ∈ after.aborted ↔ other ∈ before.aborted)
  dropped_iff : ∀ other, other ≠ cell → (other ∈ after.dropped ↔ other ∈ before.dropped)
  dropped_kept : cell ∈ before.dropped → cell ∈ after.dropped
  apart : cell ∈ after.aborted → cell ∉ after.dropped

theorem abandons_abort (kept : tasks.Keeps cell) :
    Abandons cell tasks { tasks with aborted := cell :: tasks.aborted } where
  abandoned := by simp [keeps_iff]
  aborted_iff other different := by simp [different]
  dropped_iff _ _ := Iff.rfl
  dropped_kept := id
  apart _ := (keeps_iff.mp kept).2

theorem abandons_drop (tasks : Tasks) (cell : Nat) : Abandons cell tasks (tasks.drop cell) where
  abandoned := by simp [keeps_iff, drop]
  aborted_iff other different := by simp [drop, different]
  dropped_iff other different := by simp [drop, different]
  dropped_kept _ := List.mem_cons_self
  apart aborted := by simp [drop] at aborted

namespace Abandons

theorem keeps_iff (abandons : Abandons cell before after) :
    after.Keeps other ↔ other ≠ cell ∧ before.Keeps other := by
  by_cases same : other = cell
  · subst same
    simp [abandons.abandoned]
  · simp [Tasks.keeps_iff, same, abandons.aborted_iff other same, abandons.dropped_iff other same]

/-- Other computations are still there. -/
theorem hasComputation_eq (abandons : Abandons cell before after) (different : other ≠ cell) :
    after.hasComputation store other = before.hasComputation store other := by
  rw [Bool.eq_iff_iff, hasComputation_iff, hasComputation_iff, abandons.dropped_iff other different]

/-- A dropped computation does not come back. -/
theorem mem_dropped (abandons : Abandons cell before after) (dropped : other ∈ before.dropped) :
    other ∈ after.dropped := by
  by_cases same : other = cell
  · subst same
    exact abandons.dropped_kept dropped
  · exact (abandons.dropped_iff other same).mpr dropped

/-- No new computation comes up. -/
theorem hasComputation_of (abandons : Abandons cell before after)
    (has_computation : after.hasComputation store other = true) :
    before.hasComputation store other = true := by
  rw [hasComputation_iff] at has_computation ⊢
  exact ⟨has_computation.1, mt abandons.mem_dropped has_computation.2⟩

end Abandons

/-- A cell with a computation is abandoned in one of two ways; for any other one nothing is done. -/
theorem abandon_cases (scheduling : Scheduling) (store : Store ε ν) (kept : tasks.Keeps cell) :
    (store.isSettled cell = false → cell < store.size →
      Abandons cell tasks (tasks.abandon scheduling store cell)) ∧
    (store.isSettled cell = true → tasks.abandon scheduling store cell = tasks) := by
  cases found : store.state? cell with
  | none =>
      have outside : ¬cell < store.size := fun inside => by
        obtain ⟨state, impossible⟩ := Store.exists_state?_of_lt inside
        simp [found] at impossible
      exact ⟨fun _ inside => absurd inside outside, fun _ => by simp [abandon, found]⟩
  | some state =>
      cases state with
      | settled outcome =>
          exact ⟨fun unsettled => by simp [Store.isSettled, found, CellState.isSettled] at unsettled,
            fun _ => by simp [abandon, found]⟩
      | pending work =>
          refine ⟨fun _ _ => ?_, fun settled => by
            simp [Store.isSettled, found, CellState.isSettled] at settled⟩
          simpa [abandon, found] using abandons_drop tasks cell
      | running work =>
          refine ⟨fun _ _ => ?_, fun settled => by
            simp [Store.isSettled, found, CellState.isSettled] at settled⟩
          cases scheduling with
          | spawning => simpa [abandon, found] using abandons_abort kept
          | onDemand => simpa [abandon, found] using abandons_drop tasks cell

/-! ## Coherence -/

/-- Nothing that still has an owner is abandoned, and aborted tasks still have their computations. -/
structure Coherent (tasks : Tasks) (store : Store ε ν) (held : List Nat) : Prop where
  /-- Cells with handles from outside are kept. -/
  held_kept : ∀ cell ∈ held, tasks.Keeps cell
  /-- Cells to which a computation refers that is still there are kept. -/
  needed_kept : ∀ owner, tasks.hasComputation store owner = true →
    ∀ origin ∈ store.needed owner, tasks.Keeps origin
  /-- The computation of an aborted task is still there. -/
  aborted_waits : ∀ cell ∈ tasks.aborted, tasks.hasComputation store cell = true
  /-- Only cells of the store are abandoned. -/
  inside : ∀ cell, ¬tasks.Keeps cell → cell < store.size

namespace Coherent

theorem keeps_of_isOwned (coherent : tasks.Coherent store held)
    (owned : tasks.isOwned store held cell = true) : tasks.Keeps cell := by
  rcases isOwned_iff.mp owned with member | ⟨owner, has_computation, needs⟩
  · exact coherent.held_kept cell member
  · exact coherent.needed_kept owner has_computation cell needs

/-- No aborted task waits for a turn that has dropped the computation already. -/
theorem not_aborted (coherent : tasks.Coherent store held) (dropped : cell ∈ tasks.dropped) :
    cell ∉ tasks.aborted :=
  fun aborted => (hasComputation_iff.mp (coherent.aborted_waits cell aborted)).2 dropped

/-- A cell without owners may be abandoned, and its computation dropped. -/
theorem abandons (coherent : before.Coherent store held) (abandons : Abandons cell before after)
    (unowned : before.isOwned store held cell = false) (unsettled : store.isSettled cell = false)
    (inside : cell < store.size) : after.Coherent store held := by
  have not_owned : ∀ {other}, before.isOwned store held other = true → other ≠ cell := by
    rintro other owned rfl
    simp [unowned] at owned
  refine ⟨?_, ?_, ?_, ?_⟩
  · intro other member
    exact abandons.keeps_iff.mpr
      ⟨not_owned (isOwned_iff.mpr (.inl member)), coherent.held_kept other member⟩
  · intro owner has_computation origin needs
    have had_computation := abandons.hasComputation_of has_computation
    exact abandons.keeps_iff.mpr
      ⟨not_owned (isOwned_iff.mpr (.inr ⟨owner, had_computation, needs⟩)),
        coherent.needed_kept owner had_computation origin needs⟩
  · intro other aborted
    by_cases same : other = cell
    · subst same
      exact hasComputation_iff.mpr ⟨unsettled, abandons.apart aborted⟩
    · rw [abandons.hasComputation_eq same]
      exact coherent.aborted_waits other ((abandons.aborted_iff other same).mp aborted)
  · intro other gone
    by_cases same : other = cell
    · exact same ▸ inside
    · exact coherent.inside other fun kept => gone (abandons.keeps_iff.mpr ⟨same, kept⟩)

end Coherent

/-! ## Releasing -/

/-- What is preserved when an unfinished cell without owners is abandoned, a pass preserves. -/
theorem releaseBelow_preserves (Kept : Tasks → Prop) (scheduling : Scheduling) {bound : Nat}
    (bound_le : bound ≤ store.size)
    (abandoned_kept : ∀ cell < bound, store.isSettled cell = false → ∀ before after : Tasks,
      before.Keeps cell → before.isOwned store held cell = false →
      Abandons cell before after → Kept before → Kept after)
    (tasks : Tasks) (kept : Kept tasks) : Kept (tasks.releaseBelow scheduling store held bound) := by
  induction bound generalizing tasks with
  | zero => exact kept
  | succ bound ih =>
      refine ih (Nat.le_of_succ_le bound_le)
        (fun cell below => abandoned_kept cell (Nat.lt_succ_of_lt below)) _ ?_
      split
      · exact kept
      · next unowned =>
        simp only [Bool.or_eq_true, not_or, Bool.not_eq_true] at unowned
        obtain ⟨abandons, same⟩ := abandon_cases scheduling store unowned.1
        cases settled : store.isSettled bound with
        | true => rwa [same settled]
        | false =>
            exact abandoned_kept bound (Nat.lt_succ_self bound) settled tasks _ unowned.1 unowned.2
              (abandons settled bound_le) kept

theorem Coherent.releaseBelow (coherent : tasks.Coherent store held) (scheduling : Scheduling)
    {bound : Nat} (bound_le : bound ≤ store.size) :
    (tasks.releaseBelow scheduling store held bound).Coherent store held := by
  refine releaseBelow_preserves (fun tasks => tasks.Coherent store held) scheduling bound_le ?_ tasks
    coherent
  intro cell below unsettled before after _ unowned abandons coherent
  exact coherent.abandons abandons unowned unsettled (Nat.lt_of_lt_of_le below bound_le)

/-- A pass gives nothing back. -/
theorem keeps_of_releaseBelow {scheduling : Scheduling} {bound : Nat} (bound_le : bound ≤ store.size)
    (kept : (tasks.releaseBelow scheduling store held bound).Keeps cell) : tasks.Keeps cell := by
  refine releaseBelow_preserves (fun later => later.Keeps cell → tasks.Keeps cell) scheduling
    bound_le ?_ tasks id kept
  intro other _ _ before after _ _ abandons kept_before kept_after
  exact kept_before (abandons.keeps_iff.mp kept_after).2

/-- Dropped computations do not come back in a pass. -/
theorem mem_dropped_releaseBelow (scheduling : Scheduling) {bound : Nat}
    (bound_le : bound ≤ store.size) (dropped : cell ∈ tasks.dropped) :
    cell ∈ (tasks.releaseBelow scheduling store held bound).dropped :=
  releaseBelow_preserves (fun later => cell ∈ later.dropped) scheduling bound_le
    (fun _ _ _ _ _ _ _ abandons => abandons.mem_dropped) tasks dropped

/-- A pass over the cells below a bound leaves the others alone. -/
theorem releaseBelow_above (scheduling : Scheduling) {bound : Nat} (bound_le : bound ≤ store.size)
    (tasks : Tasks) (beyond : bound ≤ cell) :
    ((tasks.releaseBelow scheduling store held bound).Keeps cell ↔ tasks.Keeps cell) ∧
      (tasks.releaseBelow scheduling store held bound).hasComputation store cell =
        tasks.hasComputation store cell := by
  refine releaseBelow_preserves (fun later => (later.Keeps cell ↔ tasks.Keeps cell) ∧
    later.hasComputation store cell = tasks.hasComputation store cell) scheduling bound_le ?_ tasks
    ⟨Iff.rfl, rfl⟩
  rintro other below _ before after _ _ abandons ⟨same_kept, same_computation⟩
  have different : cell ≠ other := Nat.ne_of_gt (Nat.lt_of_lt_of_le below beyond)
  exact ⟨by simp [abandons.keeps_iff, different, same_kept],
    (abandons.hasComputation_eq different).trans same_computation⟩

/-- Every unfinished cell from a bound on that is kept has an owner. -/
def ReleasedFrom (tasks : Tasks) (store : Store ε ν) (held : List Nat) (bound : Nat) : Prop :=
  ∀ cell, bound ≤ cell → cell < store.size → tasks.Keeps cell → store.isSettled cell = false →
    tasks.isOwned store held cell = true

/-- After a pass every cell below the bound that has no owner is abandoned. -/
theorem isOwned_of_releaseBelow (rooted : store.Rooted) (scheduling : Scheduling) {bound : Nat}
    (bound_le : bound ≤ store.size) (below : cell < bound)
    (kept : (tasks.releaseBelow scheduling store held bound).Keeps cell)
    (unsettled : store.isSettled cell = false) :
    (tasks.releaseBelow scheduling store held bound).isOwned store held cell = true := by
  induction bound generalizing tasks with
  | zero => exact absurd below (Nat.not_lt_zero cell)
  | succ bound ih =>
      have bound_le' : bound ≤ store.size := Nat.le_of_succ_le bound_le
      by_cases last : cell = bound
      · subst last
        rw [releaseBelow] at kept ⊢
        -- The pass has come to the cell itself, and only computations of earlier cells may go later.
        have kept_next := keeps_of_releaseBelow bound_le' kept
        refine isOwned_of_later rooted rfl (fun owner beyond has_computation =>
          (releaseBelow_above scheduling bound_le' _ (Nat.le_of_lt beyond)).2.trans has_computation)
          ?_
        split at kept_next
        · next spared =>
          rw [if_pos spared]
          simpa [show tasks.isAbandoned cell = false from kept_next] using spared
        · next given_up =>
          simp only [Bool.or_eq_true, not_or, Bool.not_eq_true] at given_up
          exact absurd kept_next
            ((abandon_cases scheduling store given_up.1).1 unsettled bound_le).abandoned
      · exact ih bound_le' (Nat.lt_of_le_of_ne (Nat.le_of_lt_succ below) last) kept

/-- If the cells from a bound on need not be released, a pass aborts only tasks of cells below. -/
theorem aborted_releaseBelow (rooted : store.Rooted) (scheduling : Scheduling) {bound limit : Nat}
    (limit_le : limit ≤ store.size) (released : tasks.ReleasedFrom store held bound)
    (aborted_below : ∀ cell ∈ tasks.aborted, cell < bound) :
    ∀ cell ∈ (tasks.releaseBelow scheduling store held limit).aborted, cell < bound := by
  refine (releaseBelow_preserves (fun later => later.ReleasedFrom store held bound ∧
    ∀ cell ∈ later.aborted, cell < bound) scheduling limit_le ?_ tasks ⟨released, aborted_below⟩).2
  rintro other below other_unsettled before after other_kept unowned abandons
    ⟨before_released, before_below⟩
  have other_below : other < bound := by
    refine Nat.lt_of_not_le fun beyond => ?_
    have inside := Nat.lt_of_lt_of_le below limit_le
    simp [before_released other beyond inside other_kept other_unsettled] at unowned
  constructor
  · intro cell beyond inside kept unsettled
    refine isOwned_of_later rooted rfl (fun owner later_owner has_computation => ?_)
      (before_released cell beyond inside (abandons.keeps_iff.mp kept).2 unsettled)
    rwa [abandons.hasComputation_eq (by omega)]
  · intro cell aborted
    by_cases same : cell = other
    · exact same ▸ other_below
    · exact before_below cell ((abandons.aborted_iff cell same).mp aborted)

end Tasks

namespace Executor

variable {before middle after executor : Executor ε ν} {held : List Nat} {cell : Nat}

/-! ## Executors under handles -/

/-- From one executor to a later one nothing has been done to abandoned cells, they are still
abandoned, and dropped computations have not come back. -/
structure Forsakes (before after : Executor ε ν) : Prop where
  state_eq : ∀ cell, ¬before.tasks.Keeps cell →
    after.store.state? cell = before.store.state? cell
  abandoned : ∀ cell, ¬before.tasks.Keeps cell → ¬after.tasks.Keeps cell
  dropped_kept : ∀ cell ∈ before.tasks.dropped, cell ∈ after.tasks.dropped

theorem Forsakes.refl (executor : Executor ε ν) : Forsakes executor executor :=
  ⟨fun _ _ => rfl, fun _ => id, fun _ => id⟩

theorem Forsakes.trans (first : Forsakes before middle) (second : Forsakes middle after) :
    Forsakes before after where
  state_eq cell gone :=
    (second.state_eq cell (first.abandoned cell gone)).trans (first.state_eq cell gone)
  abandoned cell gone := second.abandoned cell (first.abandoned cell gone)
  dropped_kept cell dropped := second.dropped_kept cell (first.dropped_kept cell dropped)

theorem Forsakes.kept_before (forsakes : Forsakes before after) (kept : after.tasks.Keeps cell) :
    before.tasks.Keeps cell :=
  Decidable.byContradiction fun gone => forsakes.abandoned cell gone kept

/-- Computations refer only to cells that they have handles on, and nothing that still has an owner
is abandoned. -/
structure Tended (held : List Nat) (executor : Executor ε ν) : Prop where
  rooted : executor.store.Rooted
  coherent : executor.tasks.Coherent executor.store held

/-- Every unfinished cell that is kept has an owner. -/
def Released (held : List Nat) (executor : Executor ε ν) : Prop :=
  executor.tasks.ReleasedFrom executor.store held 0

/-- A handle, or a computation whose task is aborted, reaches a cell, directly or through unfinished
cells that are themselves reached. -/
def Retains (held : List Nat) (executor : Executor ε ν) (cell : Nat) : Prop :=
  executor.store.Reaches (held ++ executor.tasks.aborted.flatMap executor.store.needed) cell

/-- An executor under handles goes on. -/
structure Proceeds (held : List Nat) (before after : Executor ε ν) : Prop where
  tended : after.Tended held
  forsakes : Forsakes before after

theorem Proceeds.trans (first : Proceeds held before middle) (second : Proceeds held middle after) :
    Proceeds held before after :=
  ⟨second.tended, first.forsakes.trans second.forsakes⟩

/-- A turn of a task leaves alone what cells refer to. -/
theorem needed_runTask (scheduling : Scheduling) (executor : Executor ε ν) (cell : Nat) :
    (executor.runTask scheduling cell).store.needed = executor.store.needed :=
  runTask_preserves (fun store => store.needed = executor.store.needed)
    (fun _ _ same => (Store.needed_pollBelow _ _ _).trans same) scheduling executor cell rfl

/-- The task of a kept cell runs it. -/
theorem runTask_of_keeps (kept : executor.tasks.Keeps cell) :
    executor.runTask .spawning cell = { executor with store := executor.store.poll cell } := by
  obtain ⟨not_aborted, not_dropped⟩ := Tasks.keeps_iff.mp kept
  simp [runTask, not_aborted, not_dropped]

namespace Tended

theorem proceeds_refl (tended : executor.Tended held) : Proceeds held executor executor :=
  ⟨tended, .refl executor⟩

/-- Handles may be given up. -/
theorem fewer (tended : executor.Tended held) {rest : List Nat} (subset : ∀ cell ∈ rest, cell ∈ held) :
    executor.Tended rest :=
  ⟨tended.rooted, { tended.coherent with
    held_kept := fun cell member => tended.coherent.held_kept cell (subset cell member) }⟩

/-! ## Running -/

/-- Kept cells start and await only kept cells. -/
theorem spares_refl (tended : executor.Tended held) :
    Store.Spares executor.tasks.Keeps executor.store executor.store :=
  ⟨tended.rooted.tied fun cell kept unsettled =>
    tended.coherent.needed_kept cell (kept.hasComputation unsettled), fun _ _ => rfl⟩

/-- Kept cells may go on. -/
theorem proceeds_of_spares (tended : executor.Tended held) {store : Store ε ν}
    (spares : Store.Spares executor.tasks.Keeps executor.store store) (rooted : store.Rooted)
    (same_needed : store.needed = executor.store.needed) (order : executor.store.Precedes store) :
    Proceeds held executor { executor with store := store } := by
  refine ⟨⟨rooted, ⟨tended.coherent.held_kept, ?_, ?_, ?_⟩⟩,
    spares.state_eq, fun _ => id, fun _ => id⟩
  · intro owner has_computation origin needs
    rw [Tasks.hasComputation_iff, ← Bool.not_eq_true] at has_computation
    refine tended.coherent.needed_kept owner ?_ origin (same_needed ▸ needs)
    rw [Tasks.hasComputation_iff, ← Bool.not_eq_true]
    exact ⟨mt order.settled_kept has_computation.1, has_computation.2⟩
  · intro cell aborted
    have gone : ¬executor.tasks.Keeps cell := fun kept => (Tasks.keeps_iff.mp kept).1 aborted
    have waits := tended.coherent.aborted_waits cell aborted
    rw [Tasks.hasComputation_iff] at waits ⊢
    refine ⟨?_, waits.2⟩
    rw [← waits.1, Store.isSettled, Store.isSettled, spares.state_eq cell gone]
  · exact fun cell gone => Nat.lt_of_lt_of_le (tended.coherent.inside cell gone) order.size_le

theorem openGate (tended : executor.Tended held) (gate : String) :
    Proceeds held executor { executor with store := executor.store.openGate gate } :=
  tended.proceeds_of_spares ⟨tended.spares_refl.tied, tended.spares_refl.state_eq⟩
    ⟨tended.rooted.within, tended.rooted.earlier⟩ rfl (Store.precedes_openGate executor.store gate)

theorem start (tended : executor.Tended held) (kept : executor.tasks.Keeps cell) :
    Proceeds held executor { executor with store := executor.store.start cell } :=
  tended.proceeds_of_spares (tended.spares_refl.start kept) (tended.rooted.start cell)
    (Store.needed_modify _ _ _) (Store.precedes_start executor.store cell)

theorem poll (tended : executor.Tended held) (kept : executor.tasks.Keeps cell) :
    Proceeds held executor { executor with store := executor.store.poll cell } :=
  tended.proceeds_of_spares (tended.spares_refl.pollBelow _ kept) (tended.rooted.pollBelow _ cell)
    (Store.needed_pollBelow _ _ _) (Store.precedes_poll executor.store cell)

theorem demand (tended : executor.Tended held) (kept : executor.tasks.Keeps cell) :
    Proceeds held executor
      { executor with store := (executor.store.run (Computation.outcomeOf cell)).2 } := by
  refine tended.proceeds_of_spares (tended.spares_refl.demand kept) (tended.rooted.demand cell) ?_
    (Store.precedes_run executor.store _)
  rw [Store.run_outcomeOf_store, Store.needed_pollBelow]
  exact Store.needed_modify _ _ _

/-! ## New cells -/

/-- A new cell may refer to cells with handles from outside. -/
theorem allocate (tended : executor.Tended held) {state : CellState ε ν} {origins more : List Nat}
    (within : state.Within (touching origins)) (from_held : ∀ origin ∈ origins, origin ∈ held)
    (earlier : ∀ origin ∈ origins, origin < executor.store.size)
    (covered : ∀ cell ∈ more, cell = executor.store.size ∨ cell ∈ held) :
    Proceeds more executor
      { executor with store := (executor.store.allocate state origins).2 } := by
  have old : ∀ cell, ¬executor.tasks.Keeps cell → cell ≠ executor.store.size :=
    fun cell gone => Nat.ne_of_lt (tended.coherent.inside cell gone)
  have same_state : ∀ cell, cell ≠ executor.store.size →
      (executor.store.allocate state origins).2.state? cell = executor.store.state? cell :=
    fun cell different => by rw [Store.state?_allocate, if_neg different]
  have same_computation : ∀ cell, cell ≠ executor.store.size →
      executor.tasks.hasComputation (executor.store.allocate state origins).2 cell =
        executor.tasks.hasComputation executor.store cell := fun cell different => by
    rw [Tasks.hasComputation, Tasks.hasComputation, Store.isSettled, Store.isSettled,
      same_state cell different]
  refine ⟨⟨tended.rooted.allocate within earlier, ⟨?_, ?_, ?_, ?_⟩⟩,
    fun cell gone => same_state cell (old cell gone), fun _ => id, fun _ => id⟩
  · intro cell member
    rcases covered cell member with rfl | before
    · exact Decidable.byContradiction fun gone => old _ gone rfl
    · exact tended.coherent.held_kept cell before
  · intro owner has_computation origin needs
    rw [Store.needed_allocate] at needs
    by_cases new : owner = executor.store.size
    · rw [if_pos new] at needs
      exact tended.coherent.held_kept origin (from_held origin needs)
    · rw [if_neg new] at needs
      rw [same_computation owner new] at has_computation
      exact tended.coherent.needed_kept owner has_computation origin needs
  · intro cell aborted
    rw [same_computation cell (old cell fun kept => (Tasks.keeps_iff.mp kept).1 aborted)]
    exact tended.coherent.aborted_waits cell aborted
  · intro cell gone
    rw [Store.size_allocate]
    exact Nat.lt_succ_of_lt (tended.coherent.inside cell gone)

/-! ## Turns of tasks -/

theorem release (tended : executor.Tended held) (scheduling : Scheduling) :
    Proceeds held executor (executor.release scheduling held) :=
  ⟨⟨tended.rooted, tended.coherent.releaseBelow scheduling (Nat.le_refl _)⟩, fun _ _ => rfl,
    fun _ => mt (Tasks.keeps_of_releaseBelow (Nat.le_refl _)),
    fun _ => Tasks.mem_dropped_releaseBelow scheduling (Nat.le_refl _)⟩

theorem released_release (tended : executor.Tended held) (scheduling : Scheduling) :
    (executor.release scheduling held).Released held :=
  fun _ _ inside kept unsettled =>
    Tasks.isOwned_of_releaseBelow tended.rooted scheduling (Nat.le_refl _) inside kept unsettled

/-- The three things that a turn of a task can do. -/
theorem runTask_cases (tended : executor.Tended held) (cell : Nat) :
    (cell ∈ executor.tasks.dropped ∧ cell ∉ executor.tasks.aborted ∧
      executor.runTask .spawning cell = executor) ∨
    (cell ∈ executor.tasks.aborted ∧
      executor.runTask .spawning cell = { executor with tasks := executor.tasks.drop cell }) ∨
    (executor.tasks.Keeps cell ∧
      executor.runTask .spawning cell = { executor with store := executor.store.poll cell }) := by
  by_cases dropped : cell ∈ executor.tasks.dropped
  · exact .inl ⟨dropped, tended.coherent.not_aborted dropped, by simp [runTask, dropped]⟩
  · by_cases aborted : cell ∈ executor.tasks.aborted
    · exact .inr (.inl ⟨aborted, by simp [runTask, dropped, aborted]⟩)
    · have kept := Tasks.keeps_iff.mpr ⟨aborted, dropped⟩
      exact .inr (.inr ⟨kept, runTask_of_keeps kept⟩)

/-- An aborted task drops its computation. -/
theorem drop (tended : executor.Tended held) (aborted : cell ∈ executor.tasks.aborted) :
    Proceeds held executor { executor with tasks := executor.tasks.drop cell } := by
  have abandons := Tasks.abandons_drop executor.tasks cell
  have gone : ¬executor.tasks.Keeps cell := fun kept => (Tasks.keeps_iff.mp kept).1 aborted
  have unsettled :=
    (Tasks.hasComputation_iff.mp (tended.coherent.aborted_waits cell aborted)).1
  have unowned : executor.tasks.isOwned executor.store held cell = false :=
    Bool.eq_false_iff.mpr (mt tended.coherent.keeps_of_isOwned gone)
  refine ⟨⟨tended.rooted, ?_⟩, fun _ _ => rfl, fun other other_gone kept => ?_, ?_⟩
  · exact tended.coherent.abandons abandons unowned unsettled (tended.coherent.inside cell gone)
  · exact other_gone (abandons.keeps_iff.mp kept).2
  · exact fun _ => abandons.mem_dropped

theorem runTask (tended : executor.Tended held) (scheduling : Scheduling) (cell : Nat) :
    Proceeds held executor (executor.runTask scheduling cell) := by
  cases scheduling with
  | onDemand => exact tended.proceeds_refl
  | spawning =>
      rcases tended.runTask_cases cell with ⟨_, _, same⟩ | ⟨aborted, same⟩ | ⟨kept, same⟩
      · rw [same]
        exact tended.proceeds_refl
      · rw [same]
        exact tended.drop aborted
      · rw [same]
        exact tended.poll kept

theorem settleBelow (tended : executor.Tended held) (scheduling : Scheduling) (bound : Nat) :
    Proceeds held executor (executor.settleBelow scheduling held bound) := by
  induction bound generalizing executor with
  | zero => exact tended.proceeds_refl
  | succ bound ih =>
      have ran := tended.runTask scheduling bound
      have released := ran.tended.release scheduling
      exact (ran.trans released).trans (ih released.tended)

/-! ## Retained cells -/

theorem retains_of_reaches (reaches : executor.store.Reaches held cell) :
    executor.Retains held cell := by
  induction reaches with
  | held member => exact .held (List.mem_append_left _ member)
  | needed _ unsettled needs ih => exact .needed ih unsettled needs

theorem keeps_of_retains (tended : executor.Tended held) (retains : executor.Retains held cell) :
    executor.tasks.Keeps cell := by
  induction retains with
  | held member =>
      rcases List.mem_append.mp member with from_outside | from_aborted
      · exact tended.coherent.held_kept _ from_outside
      · obtain ⟨owner, aborted, needs⟩ := List.mem_flatMap.mp from_aborted
        exact tended.coherent.needed_kept owner (tended.coherent.aborted_waits owner aborted) _ needs
  | @needed owner origin _ unsettled needs kept =>
      exact tended.coherent.needed_kept owner (kept.hasComputation unsettled) origin needs

/-- Going from a kept cell to its owners one comes to a handle or to an aborted task. -/
theorem retains_of_keeps {cell : Nat} (tended : executor.Tended held)
    (released : executor.Released held) (inside : cell < executor.store.size)
    (kept : executor.tasks.Keeps cell) (unsettled : executor.store.isSettled cell = false) :
    executor.Retains held cell := by
  have owned := released cell (Nat.zero_le cell) inside kept unsettled
  rcases Tasks.isOwned_iff.mp owned with member | ⟨owner, has_computation, needs⟩
  · exact .held (List.mem_append_left _ member)
  · by_cases aborted : owner ∈ executor.tasks.aborted
    · exact .held (List.mem_append_right _ (List.mem_flatMap.mpr ⟨owner, aborted, needs⟩))
    · rw [Tasks.hasComputation_iff] at has_computation
      have later := tended.rooted.earlier owner cell needs
      have owner_inside := Store.lt_size_of_needed needs
      have owner_kept := Tasks.keeps_iff.mpr ⟨aborted, has_computation.2⟩
      exact .needed (retains_of_keeps tended released owner_inside owner_kept has_computation.1)
        has_computation.1 needs
termination_by executor.store.size - cell

/-- The unfinished cells that are kept are those that a handle or an aborted task reaches. -/
theorem keeps_iff (tended : executor.Tended held) (released : executor.Released held)
    (inside : cell < executor.store.size) (unsettled : executor.store.isSettled cell = false) :
    executor.tasks.Keeps cell ↔ executor.Retains held cell :=
  ⟨fun kept => tended.retains_of_keeps released inside kept unsettled, tended.keeps_of_retains⟩

/-! ## Aborted tasks -/

/-- A turn of a task changes nothing for later cells. -/
theorem hasComputation_runTask (tended : executor.Tended held) {bound : Nat} (beyond : bound < cell)
    (has_computation : executor.tasks.hasComputation executor.store cell = true) :
    (executor.runTask .spawning bound).tasks.hasComputation
      (executor.runTask .spawning bound).store cell = true := by
  rcases tended.runTask_cases bound with ⟨_, _, same⟩ | ⟨_, same⟩ | ⟨_, same⟩
  · rwa [same]
  · rw [same, (Tasks.abandons_drop executor.tasks bound).hasComputation_eq (Nat.ne_of_gt beyond)]
    exact has_computation
  · rw [same]
    have earlier_only : Store.Spares (· ≤ bound) executor.store (executor.store.poll bound) := by
      refine Store.Spares.pollBelow ⟨tended.rooted.tied ?_, fun _ _ => rfl⟩ _ (Nat.le_refl bound)
      exact fun owner le _ origin needs =>
        Nat.le_of_lt (Nat.lt_of_lt_of_le (tended.rooted.earlier owner origin needs) le)
    rw [Tasks.hasComputation_iff] at has_computation ⊢
    refine ⟨?_, has_computation.2⟩
    rw [← has_computation.1, Store.isSettled, Store.isSettled,
      earlier_only.state_eq cell (Nat.not_le.mpr beyond)]

theorem releasedFrom_runTask (tended : executor.Tended held) (released : executor.Released held)
    (bound : Nat) :
    (executor.runTask .spawning bound).tasks.ReleasedFrom (executor.runTask .spawning bound).store
      held bound := by
  intro cell beyond inside kept unsettled
  have order := precedes_runTask .spawning executor bound
  have same_size : (executor.runTask .spawning bound).store.size = executor.store.size :=
    runTask_preserves (fun store => store.size = executor.store.size)
      (fun _ _ same => (Store.size_pollBelow _ _ _).trans same) .spawning executor bound rfl
  have kept_before := (tended.runTask .spawning bound).forsakes.kept_before kept
  refine Tasks.isOwned_of_later tended.rooted (needed_runTask .spawning executor bound)
    (fun owner later => tended.hasComputation_runTask (Nat.lt_of_le_of_lt beyond later))
    (released cell (Nat.zero_le cell) (same_size ▸ inside) kept_before ?_)
  rw [← Bool.not_eq_true] at unsettled ⊢
  exact mt order.settled_kept unsettled

/-- Every aborted task drops its computation when it has its turn, and what is aborted then is
earlier and has its turn later. -/
theorem aborted_settleBelow (tended : executor.Tended held) (released : executor.Released held)
    {bound : Nat} (aborted_below : ∀ cell ∈ executor.tasks.aborted, cell < bound) :
    (executor.settleBelow .spawning held bound).tasks.aborted = [] := by
  induction bound generalizing executor with
  | zero =>
      exact List.eq_nil_iff_forall_not_mem.mpr fun cell aborted =>
        Nat.not_lt_zero cell (aborted_below cell aborted)
  | succ bound ih =>
      have ran := tended.runTask .spawning bound
      have still_below : ∀ cell ∈ (executor.runTask .spawning bound).tasks.aborted, cell < bound := by
        intro cell aborted
        rcases tended.runTask_cases bound with ⟨_, other, same⟩ | ⟨_, same⟩ | ⟨kept, same⟩
        · rw [same] at aborted
          have different : cell ≠ bound := fun same_cell => other (same_cell ▸ aborted)
          exact Nat.lt_of_le_of_ne (Nat.le_of_lt_succ (aborted_below cell aborted)) different
        · rw [same] at aborted
          obtain ⟨aborted_before, different⟩ := List.mem_filter.mp aborted
          exact Nat.lt_of_le_of_ne (Nat.le_of_lt_succ (aborted_below cell aborted_before))
            (by simpa using different)
        · rw [same] at aborted
          have different : cell ≠ bound := fun same_cell =>
            (Tasks.keeps_iff.mp kept).1 (same_cell ▸ aborted)
          exact Nat.lt_of_le_of_ne (Nat.le_of_lt_succ (aborted_below cell aborted)) different
      exact ih (ran.tended.release .spawning).tended (ran.tended.released_release .spawning)
        (Tasks.aborted_releaseBelow ran.tended.rooted .spawning (Nat.le_refl _)
          (tended.releasedFrom_runTask released bound) still_below)

theorem released_settleBelow (tended : executor.Tended held) (released : executor.Released held)
    (scheduling : Scheduling) (bound : Nat) :
    (executor.settleBelow scheduling held bound).Released held := by
  induction bound generalizing executor with
  | zero => exact released
  | succ bound ih =>
      have ran := tended.runTask scheduling bound
      exact ih (ran.tended.release scheduling).tended (ran.tended.released_release scheduling)

theorem aborted_settle (tended : executor.Tended held) (released : executor.Released held) :
    (executor.settle .spawning held).tasks.aborted = [] :=
  tended.aborted_settleBelow released fun cell aborted =>
    tended.coherent.inside cell fun kept => (Tasks.keeps_iff.mp kept).1 aborted

/-- A release aborts no task if every unfinished cell that is kept has an owner. -/
theorem aborted_release (tended : executor.Tended held) (released : executor.Released held)
    (scheduling : Scheduling) (rest : executor.tasks.aborted = []) :
    (executor.release scheduling held).tasks.aborted = [] := by
  have none_below := Tasks.aborted_releaseBelow tended.rooted scheduling (Nat.le_refl _) released
    (fun cell aborted => by simp [rest] at aborted)
  exact List.eq_nil_iff_forall_not_mem.mpr fun cell aborted =>
    Nat.not_lt_zero cell (none_below cell aborted)

end Tended

/-- Handles on settled cells may be given up without a loss of owners. -/
theorem Released.fewer (released : executor.Released held) {rest : List Nat}
    (unfinished_held : ∀ cell ∈ held, executor.store.isSettled cell = false → cell ∈ rest) :
    executor.Released rest := by
  intro cell beyond inside kept unsettled
  have owned := released cell beyond inside kept unsettled
  rw [Tasks.isOwned_iff] at owned ⊢
  exact owned.imp_left fun member => unfinished_held cell member unsettled

end Executor

end Lazy

end SymbolResolver

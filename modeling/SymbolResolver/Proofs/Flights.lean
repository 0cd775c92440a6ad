import SymbolResolver.Lazy.Tasks
import SymbolResolver.Proofs.Courses

/-!
# Flights of cells

What running cells does to a store, for any number of cells that wait for each other. A poll of a
cell takes the course of its computation further and leaves every cell after it alone. From this
follows that running loses nothing (`Store.precedes_poll`) and that no cell leaves its scope. How far
the one run of a cell has come is said by `CellState.Advances`. The turns of tasks do nothing to a
store but poll its cells (`Executor.runTask_preserves`, `Executor.settle_preserves`).
-/

namespace SymbolResolver

namespace Lazy

variable {ε ν α : Type}

namespace Store

/-! ## Polling -/

/-- What holds of a poll: the induction on its bound, with a case for each thing that it can do. The
computation that it runs polls with smaller bounds only. -/
theorem pollBelow_induct {motive : Nat → Nat → Store ε ν → Store ε ν → Prop}
    (zero : ∀ cell store, motive 0 cell store store)
    (runs : ∀ cell work store,
      (∀ other store, motive cell other store (pollBelow cell other store)) →
      store.state? cell = some (.running work) →
      motive (cell + 1) cell store ((advance (pollBelow cell) work store).2.modify cell fun _ =>
        .ofRest (advance (pollBelow cell) work store).1))
    (idle : ∀ cell store, (∀ work, store.state? cell ≠ some (.running work)) →
      motive (cell + 1) cell store store)
    (elsewhere : ∀ bound cell before after, cell ≠ bound → motive bound cell before after →
      motive (bound + 1) cell before after)
    (bound cell : Nat) (store : Store ε ν) : motive bound cell store (pollBelow bound cell store) := by
  induction bound generalizing cell store with
  | zero => exact zero cell store
  | succ bound ih =>
      by_cases same : cell = bound
      · subst same
        by_cases is_running : ∃ work, store.state? cell = some (.running work)
        · obtain ⟨work, running⟩ := is_running
          rw [pollBelow_of_running running]
          exact runs cell work store ih running
        · have not_running : ∀ work, store.state? cell ≠ some (.running work) :=
            fun work running => is_running ⟨work, running⟩
          rw [pollBelow_of_not_running not_running]
          exact idle cell store not_running
      · rw [pollBelow_of_ne same]
        exact elsewhere bound cell store _ same (ih cell store)

/-- What one run of a cell below a limit preserves, polling below the limit preserves. -/
theorem pollBelow_preserves (limit : Nat) (Kept : Store ε ν → Prop)
    (run_kept : ∀ bound work store, bound < limit →
      (∀ cell store, Kept store → Kept (pollBelow bound cell store)) →
      store.state? bound = some (.running work) → Kept store →
      Kept ((advance (pollBelow bound) work store).2.modify bound fun _ =>
        .ofRest (advance (pollBelow bound) work store).1))
    (bound : Nat) (bound_le : bound ≤ limit) (cell : Nat) (store : Store ε ν)
    (kept : Kept store) : Kept (pollBelow bound cell store) := by
  refine pollBelow_induct
    (motive := fun bound _ before after => bound ≤ limit → Kept before → Kept after)
    (fun _ _ _ kept => kept) ?_ (fun _ _ _ _ kept => kept)
    (fun _ _ _ _ _ earlier bound_le => earlier (Nat.le_of_succ_le bound_le))
    bound cell store bound_le kept
  intro cell work store earlier running cell_lt kept
  exact run_kept cell work store cell_lt
    (fun other store => earlier other store (Nat.le_of_succ_le cell_lt)) running kept

theorem running_start {store : Store ε ν} {cell : Nat} {work : Computation ε ν (Outcome ν)}
    (running : store.state? cell = some (.running work)) (other : Nat) :
    (store.start other).state? cell = some (.running work) := by
  rw [state?_start]
  split <;> simp [running, CellState.started]

/-- A cell that runs is left alone by a poll of the cells before it. -/
theorem running_pollBelow {bound cell : Nat} (bound_le : bound ≤ cell)
    {work : Computation ε ν (Outcome ν)} (other : Nat) (store : Store ε ν)
    (running : store.state? cell = some (.running work)) :
    (pollBelow bound other store).state? cell = some (.running work) := by
  refine pollBelow_preserves cell (fun store => store.state? cell = some (.running work)) ?_
    bound bound_le other store running
  intro lower lower_work store lower_lt lower_kept _ still_running
  rw [state?_modify, if_neg (Nat.ne_of_lt lower_lt)]
  exact advance_preserves (fun store => store.state? cell = some (.running work))
    (fun _ _ _ kept => kept) (fun _ started _ kept => running_start kept started)
    (fun _ awaited _ kept => lower_kept _ _ (running_start kept awaited))
    lower_work lower_work.within_all store still_running

/-- A cell that runs is left alone while its computation advances. -/
theorem running_advance {store : Store ε ν} {cell : Nat} {work : Computation ε ν (Outcome ν)}
    (running : store.state? cell = some (.running work)) (advanced : Computation ε ν α) :
    (advance (pollBelow cell) advanced store).2.state? cell = some (.running work) :=
  advance_preserves (fun store => store.state? cell = some (.running work))
    (fun _ _ _ kept => kept) (fun _ started _ kept => running_start kept started)
    (fun _ awaited _ kept =>
      running_pollBelow (Nat.le_refl cell) awaited _ (running_start kept awaited))
    advanced advanced.within_all store running

/-- Nothing is lost when a cell that runs is left with the rest of its computation. -/
theorem precedes_ofRest {store : Store ε ν} {cell : Nat} {work : Computation ε ν (Outcome ν)}
    (running : store.state? cell = some (.running work)) (rest : Computation ε ν (Outcome ν)) :
    Precedes store (store.modify cell fun _ => .ofRest rest) := by
  apply precedes_modify
  · intro outcome settled
    simp [running] at settled
  · intro _ _ _
    exact CellState.isStarted_ofRest rest

/-- Polling loses nothing. -/
theorem precedes_pollBelow (bound cell : Nat) (store : Store ε ν) :
    Precedes store (pollBelow bound cell store) := by
  refine pollBelow_preserves bound (Precedes store) ?_ bound (Nat.le_refl bound) cell store
    (.refl store)
  intro lower work middle _ lower_kept running order
  have advanced : Precedes store (advance (pollBelow lower) work middle).2 :=
    advance_preserves (Precedes store)
      (fun store event _ order => order.trans (precedes_record store event))
      (fun store cell _ order => order.trans (precedes_start store cell))
      (fun store cell _ order => lower_kept cell _ (order.trans (precedes_start store cell)))
      work work.within_all middle order
  exact advanced.trans (precedes_ofRest (running_advance running work) _)

theorem precedes_poll (store : Store ε ν) (cell : Nat) : Precedes store (store.poll cell) :=
  precedes_pollBelow store.size cell store

theorem precedes_run (store : Store ε ν) (work : Computation ε ν α) :
    Precedes store (store.run work).2 :=
  precedes_advance (fun store cell => precedes_pollBelow _ cell store) work store

/-- A wait for a cell starts and polls it. -/
theorem run_outcomeOf_store (store : Store ε ν) (cell : Nat) :
    (store.run (Computation.outcomeOf cell)).2 = pollBelow store.size cell (store.start cell) := by
  simp only [run, Computation.outcomeOf, advance]
  split <;> rfl

/-- A wait for a cell ends just when the cell has an outcome, and ends with it. -/
theorem run_outcomeOf_rest (store : Store ε ν) (cell : Nat) :
    (store.run (Computation.outcomeOf cell)).1 =
      match (store.run (Computation.outcomeOf cell)).2.outcome? cell with
      | some outcome => .finish outcome
      | none => .await cell .finish := by
  rw [run_outcomeOf_store]
  simp only [run, Computation.outcomeOf, advance]
  cases (pollBelow store.size cell (store.start cell)).outcome? cell with
  | some outcome => rfl
  | none => rfl

/-- Running makes no cells. -/
theorem size_pollBelow (bound cell : Nat) (store : Store ε ν) :
    (pollBelow bound cell store).size = store.size := by
  refine pollBelow_preserves bound (fun later => later.size = store.size) ?_ bound
    (Nat.le_refl bound)
    cell store rfl
  intro lower work middle _ lower_kept _ same
  rw [size_modify]
  exact advance_preserves (fun later => later.size = store.size) (fun _ _ _ kept => kept)
    (fun _ _ _ kept => (size_start _ _).trans kept)
    (fun _ _ _ kept => lower_kept _ _ ((size_start _ _).trans kept)) work work.within_all middle
    same

theorem size_run (store : Store ε ν) (work : Computation ε ν α) :
    (store.run work).2.size = store.size :=
  advance_preserves (fun later => later.size = store.size) (fun _ _ _ kept => kept)
    (fun _ _ _ kept => (size_start _ _).trans kept)
    (fun _ _ _ kept => (size_pollBelow _ _ _).trans ((size_start _ _).trans kept)) work
    work.within_all store rfl

/-! ## Scopes of cells -/

end Store

/-- What is left to do in a cell stays within a scope. -/
def CellState.Within (scope : Scope ε) : CellState ε ν → Prop
  | pending work => work.Within scope
  | running work => work.Within scope
  | settled _ => True

namespace CellState

theorem Within.mono {scope wider : Scope ε} (le : scope.Le wider) {state : CellState ε ν}
    (within : state.Within scope) : state.Within wider := by
  cases state with
  | pending work => exact Computation.Within.mono le within
  | running work => exact Computation.Within.mono le within
  | settled outcome => trivial

theorem within_started {scope : Scope ε} {state : CellState ε ν} (within : state.Within scope) :
    state.started.Within scope := by
  cases state <;> exact within

theorem within_ofRest {scope : Scope ε} {rest : Computation ε ν (Outcome ν)}
    (within : rest.Within scope) : (ofRest rest).Within scope := by
  cases rest <;> first | exact within | trivial

end CellState

namespace Store

/-- Every cell of a store stays within a scope of its own. -/
def Within (scope : Nat → Scope ε) (store : Store ε ν) : Prop :=
  ∀ cell state, store.state? cell = some state → state.Within (scope cell)

variable {scope : Nat → Scope ε}

theorem within_modify {store : Store ε ν} (within : store.Within scope) (cell : Nat)
    {change : CellState ε ν → CellState ε ν}
    (changed_within : ∀ state, store.state? cell = some state →
      (change state).Within (scope cell)) :
    (store.modify cell change).Within scope := by
  intro other state found
  rw [state?_modify] at found
  split at found
  · next same =>
    subst same
    obtain ⟨before, at_cell, rfl⟩ := Option.map_eq_some_iff.mp found
    exact changed_within before at_cell
  · exact within other state found

theorem within_start {store : Store ε ν} (within : store.Within scope) (cell : Nat) :
    (store.start cell).Within scope :=
  within_modify within cell fun state found => CellState.within_started (within cell state found)

theorem within_allocate {store : Store ε ν} (within : store.Within scope)
    {state : CellState ε ν} (state_within : state.Within (scope store.size)) (needed : List Nat) :
    (store.allocate state needed).2.Within scope := by
  intro cell found at_cell
  rw [state?_allocate] at at_cell
  split at at_cell
  · next same =>
    cases at_cell
    exact same ▸ state_within
  · exact within cell found at_cell

/-- Advancing keeps every cell within its scope, if polling does. -/
theorem within_advance {poll : Nat → Store ε ν → Store ε ν}
    (poll_within : ∀ cell (store : Store ε ν), store.Within scope → (poll cell store).Within scope)
    (work : Computation ε ν α) {store : Store ε ν} (within : store.Within scope) :
    (advance poll work store).2.Within scope :=
  advance_preserves (Within scope) (fun _ _ _ kept => kept)
    (fun _ cell _ kept => within_start kept cell)
    (fun _ cell _ kept => poll_within cell _ (within_start kept cell))
    work work.within_all store within

/-- The rest of an advanced computation stays within its scope. -/
theorem rest_within {poll : Nat → Store ε ν → Store ε ν} {work_scope : Scope ε}
    (poll_precedes : ∀ store cell, Precedes store (poll cell store))
    {work : Computation ε ν α} (work_within : work.Within work_scope) (store : Store ε ν) :
    (advance poll work store).1.Within work_scope := by
  obtain ⟨trace, _, run⟩ := advance_runs (fun _ => False) (fun _ => none) (fun _ _ => True)
    poll_precedes (fun _ _ _ _ _ => trivial) (fun _ _ _ _ _ => trivial)
    (fun _ _ _ _ _ => trivial) (fun _ _ _ _ impossible => impossible.elim)
    work work.within_all [] store trivial
  exact (run.within work_within).1

/-- Polling keeps every cell within its scope. -/
theorem within_pollBelow (bound cell : Nat) {store : Store ε ν} (within : store.Within scope) :
    (pollBelow bound cell store).Within scope := by
  refine pollBelow_preserves bound (Within scope) ?_ bound (Nat.le_refl bound) cell store within
  intro lower work store _ lower_kept running within
  apply within_modify (within_advance lower_kept work within)
  intro _ _
  have work_within : work.Within (scope lower) := within lower _ running
  exact CellState.within_ofRest
    (rest_within (fun store cell => precedes_pollBelow lower cell store) work_within store)

end Store

/-! ## One run of a computation -/

namespace CellState

/-- A computation has led to a state: it is started, or has been run and left with its rest. -/
def Reached (store : Store ε ν) (work : Computation ε ν (Outcome ν)) (trace : List ε)
    (state : CellState ε ν) : Prop :=
  ∃ rest, store.Runs (fun _ => False) work trace rest ∧ (state = running rest ∨ state = ofRest rest)

/-- A state of a cell leads to a later one: what is left to do is taken up where it was left, the
notes on the way are `trace`, and an outcome is final. -/
def Advances (store : Store ε ν) (state : CellState ε ν) (trace : List ε)
    (later : CellState ε ν) : Prop :=
  match state with
  | pending work => trace = [] ∧ later = pending work ∨ Reached store work trace later
  | running work => Reached store work trace later
  | settled outcome => trace = [] ∧ later = settled outcome

variable {store later_store : Store ε ν}

theorem Reached.mono {work : Computation ε ν (Outcome ν)} {trace : List ε} {state : CellState ε ν}
    (order : store.Precedes later_store) (reached : Reached store work trace state) :
    Reached later_store work trace state := by
  obtain ⟨rest, run, held⟩ := reached
  exact ⟨rest, run.mono order (fun _ impossible => impossible.elim), held⟩

theorem Advances.mono {state later : CellState ε ν} {trace : List ε}
    (order : store.Precedes later_store) (advances : Advances store state trace later) :
    Advances later_store state trace later := by
  cases state with
  | pending work => exact Or.imp_right (Reached.mono order) advances
  | running work => exact Reached.mono order advances
  | settled outcome => exact advances

theorem Advances.refl (store : Store ε ν) (state : CellState ε ν) :
    Advances store state [] state := by
  cases state with
  | pending work => exact Or.inl ⟨rfl, rfl⟩
  | running work => exact ⟨work, .stay work, Or.inl rfl⟩
  | settled outcome => exact ⟨rfl, rfl⟩

/-- What a state is left with is taken up by the next run. -/
theorem Reached.advance {work : Computation ε ν (Outcome ν)} {trace more : List ε}
    {state later : CellState ε ν} (reached : Reached store work trace state)
    (advances : Advances store state more later) : Reached store work (trace ++ more) later := by
  obtain ⟨rest, run, held⟩ := reached
  have from_rest : Reached store rest more later := by
    rcases held with rfl | rfl
    · exact advances
    · cases rest with
      | finish outcome =>
          obtain ⟨rfl, rfl⟩ := advances
          exact ⟨_, .stay _, Or.inr rfl⟩
      | breakOff =>
          obtain ⟨rfl, rfl⟩ := advances
          exact ⟨_, .stay _, Or.inr rfl⟩
      | note | pass | start | await | peek => exact advances
  obtain ⟨last, run_on, held_on⟩ := from_rest
  exact ⟨last, run.trans run_on, held_on⟩

theorem Advances.trans {state middle later : CellState ε ν} {trace more : List ε}
    (first : Advances store state trace middle) (second : Advances store middle more later) :
    Advances store state (trace ++ more) later := by
  cases state with
  | pending work =>
      rcases first with ⟨rfl, rfl⟩ | reached
      · exact second
      · exact Or.inr (reached.advance second)
  | running work => exact Reached.advance first second
  | settled outcome =>
      obtain ⟨rfl, rfl⟩ := first
      exact second

theorem advances_started (store : Store ε ν) (state : CellState ε ν) :
    Advances store state [] state.started := by
  cases state with
  | pending work => exact Or.inr ⟨work, .stay work, Or.inl rfl⟩
  | running work => exact .refl store _
  | settled outcome => exact .refl store _

theorem ofRest_eq_settled {rest : Computation ε ν (Outcome ν)} {outcome : Outcome ν}
    (settled_eq : ofRest rest = settled outcome) :
    rest = .finish outcome ∨ rest = .breakOff ∧ outcome = .error .brokenOff := by
  cases rest with
  | finish result =>
      injection settled_eq with same
      exact Or.inl (same ▸ rfl)
  | breakOff =>
      injection settled_eq with same
      exact Or.inr ⟨rfl, same.symm⟩
  | note | pass | start | await | peek => simp [ofRest] at settled_eq

/-- The outcome of a settled cell is the one with which its computation has ended. -/
theorem Advances.settled_course {work : Computation ε ν (Outcome ν)} {trace : List ε}
    {outcome : Outcome ν} (advances : (pending work).Advances store trace (settled outcome)) :
    ∃ rest, store.Runs (fun _ => False) work trace rest ∧
      (rest = .finish outcome ∨ rest = .breakOff ∧ outcome = .error .brokenOff) := by
  rcases advances with ⟨_, impossible⟩ | ⟨rest, run, still_running | left⟩
  · cases impossible
  · cases still_running
  · exact ⟨rest, run, ofRest_eq_settled left.symm⟩

/-- A cell that is in the same state as before has left no notes in between. -/
theorem Advances.trace_of_same {state : CellState ε ν} {trace : List ε}
    (advances : state.Advances store trace state) : trace = [] := by
  cases state with
  | pending work =>
      rcases advances with ⟨rfl, _⟩ | ⟨rest, _, impossible | impossible⟩
      · rfl
      · cases impossible
      · cases rest <;> cases impossible
  | running work =>
      obtain ⟨rest, run, same | same⟩ := advances
      · cases same
        exact run.trace_of_loop
      · have rest_eq : rest = work := by
          cases rest <;> cases same <;> rfl
        exact (rest_eq ▸ run).trace_of_loop
  | settled outcome => exact advances.1

end CellState

/-! ## Turns of tasks -/

namespace Executor

/-- What polling preserves, a turn of a task preserves. -/
theorem runTask_preserves (Kept : Store ε ν → Prop)
    (poll_kept : ∀ store cell, Kept store → Kept (store.poll cell)) (scheduling : Scheduling)
    (executor : Executor ε ν) (cell : Nat) (kept : Kept executor.store) :
    Kept (executor.runTask scheduling cell).store := by
  cases scheduling with
  | onDemand => exact kept
  | spawning =>
      simp only [runTask]
      split
      · exact kept
      · split
        · exact kept
        · exact poll_kept executor.store cell kept

theorem settleBelow_preserves (Kept : Store ε ν → Prop)
    (poll_kept : ∀ store cell, Kept store → Kept (store.poll cell)) (scheduling : Scheduling)
    (held : List Nat) (bound : Nat) (executor : Executor ε ν) (kept : Kept executor.store) :
    Kept (executor.settleBelow scheduling held bound).store := by
  induction bound generalizing executor with
  | zero => exact kept
  | succ bound ih => exact ih _ (runTask_preserves Kept poll_kept scheduling executor bound kept)

/-- What polling preserves, settling preserves. -/
theorem settle_preserves (Kept : Store ε ν → Prop)
    (poll_kept : ∀ store cell, Kept store → Kept (store.poll cell)) (scheduling : Scheduling)
    (held : List Nat) (executor : Executor ε ν) (kept : Kept executor.store) :
    Kept (executor.settle scheduling held).store :=
  settleBelow_preserves Kept poll_kept scheduling held executor.store.size executor kept

theorem precedes_runTask (scheduling : Scheduling) (executor : Executor ε ν) (cell : Nat) :
    executor.store.Precedes (executor.runTask scheduling cell).store :=
  runTask_preserves executor.store.Precedes
    (fun middle cell order => order.trans (Store.precedes_poll middle cell)) scheduling executor cell
    (.refl executor.store)

theorem precedes_settle (scheduling : Scheduling) (held : List Nat) (executor : Executor ε ν) :
    executor.store.Precedes (executor.settle scheduling held).store :=
  settle_preserves executor.store.Precedes
    (fun middle cell order => order.trans (Store.precedes_poll middle cell)) scheduling held executor
    (.refl executor.store)

end Executor

end Lazy

end SymbolResolver

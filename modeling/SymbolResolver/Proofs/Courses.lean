import SymbolResolver.Lazy.Store

/-!
# Courses of computations

`Store.Runs store firm work trace rest` says that `work` leads to `rest` by steps that `store` bears
out, leaving the notes `trace`. The order of stores is the other half: `Store.Precedes before after`
says that nothing known before is lost afterwards. Advancing a computation follows a course which
the resulting store bears out, so a course can be read off a store long after it was taken.

Which notes a computation may leave and which cells it may touch is its `Scope`. Both results about
advancing ask for what a scope allows, and for no more.
-/

namespace SymbolResolver

namespace Lazy

variable {ε ν α β : Type}

/-! ## Scopes -/

/-- What a computation may do. -/
structure Scope (ε : Type) where
  /-- The notes that it may leave. -/
  noted : ε → Prop := fun _ => True
  /-- The gates that it may wait at. -/
  passed : String → Prop := fun _ => True
  /-- The cells that it may start without waiting. -/
  started : Nat → Prop := fun _ => True
  /-- The cells that it may wait for. -/
  awaited : Nat → Prop := fun _ => True
  /-- The cells that it may look at. -/
  looked : Nat → Prop := fun _ => True
  /-- Whether it may break off. -/
  broken : Prop := True

/-- A scope allows no more than another. -/
structure Scope.Le (scope wider : Scope ε) : Prop where
  noted : ∀ event, scope.noted event → wider.noted event
  passed : ∀ gate, scope.passed gate → wider.passed gate
  started : ∀ cell, scope.started cell → wider.started cell
  awaited : ∀ cell, scope.awaited cell → wider.awaited cell
  looked : ∀ cell, scope.looked cell → wider.looked cell
  broken : scope.broken → wider.broken

namespace Computation

/-- Whatever a computation goes on with, it stays within a scope. -/
def Within (scope : Scope ε) : Computation ε ν α → Prop
  | finish _ => True
  | breakOff => scope.broken
  | note event next => scope.noted event ∧ next.Within scope
  | pass gate next => scope.passed gate ∧ next.Within scope
  | start cell next => scope.started cell ∧ next.Within scope
  | await cell next => scope.awaited cell ∧ ∀ outcome, (next outcome).Within scope
  | peek cell next => scope.looked cell ∧ ∀ seen, (next seen).Within scope

theorem Within.mono {scope wider : Scope ε} (le : scope.Le wider) {work : Computation ε ν α}
    (within : work.Within scope) : work.Within wider := by
  induction work with
  | finish => trivial
  | breakOff => exact le.broken within
  | note event next ih => exact ⟨le.noted event within.1, ih within.2⟩
  | pass gate next ih => exact ⟨le.passed gate within.1, ih within.2⟩
  | start cell next ih => exact ⟨le.started cell within.1, ih within.2⟩
  | await cell next ih =>
      exact ⟨le.awaited cell within.1, fun outcome => ih outcome (within.2 outcome)⟩
  | peek cell next ih => exact ⟨le.looked cell within.1, fun seen => ih seen (within.2 seen)⟩

/-- Every computation stays within the scope that allows everything. -/
theorem within_all (work : Computation ε ν α) : work.Within {} := by
  induction work with
  | finish => trivial
  | breakOff => trivial
  | note event next ih => exact ⟨trivial, ih⟩
  | pass gate next ih => exact ⟨trivial, ih⟩
  | start cell next ih => exact ⟨trivial, ih⟩
  | await cell next ih => exact ⟨trivial, ih⟩
  | peek cell next ih => exact ⟨trivial, ih⟩

theorem within_bind {scope : Scope ε} {work : Computation ε ν α}
    {continuation : α → Computation ε ν β}
    (within : work.Within scope) (continued : ∀ result, (continuation result).Within scope) :
    (work.bind continuation).Within scope := by
  induction work with
  | finish result => exact continued result
  | breakOff => exact within
  | note event next ih => exact ⟨within.1, ih within.2⟩
  | pass gate next ih => exact ⟨within.1, ih within.2⟩
  | start cell next ih => exact ⟨within.1, ih within.2⟩
  | await cell next ih => exact ⟨within.1, fun outcome => ih outcome (within.2 outcome)⟩
  | peek cell next ih => exact ⟨within.1, fun seen => ih seen (within.2 seen)⟩

theorem within_of_bind {scope : Scope ε} {work : Computation ε ν α}
    {continuation : α → Computation ε ν β} (within : (work.bind continuation).Within scope) :
    work.Within scope := by
  induction work with
  | finish result => trivial
  | breakOff => exact within
  | note event next ih => exact ⟨within.1, ih within.2⟩
  | pass gate next ih => exact ⟨within.1, ih within.2⟩
  | start cell next ih => exact ⟨within.1, ih within.2⟩
  | await cell next ih => exact ⟨within.1, fun outcome => ih outcome (within.2 outcome)⟩
  | peek cell next ih => exact ⟨within.1, fun seen => ih seen (within.2 seen)⟩

theorem within_andThen {scope : Scope ε} {work : Computation ε ν (Outcome α)}
    {continuation : α → Computation ε ν (Outcome β)} (within : work.Within scope)
    (continued : ∀ value, (continuation value).Within scope) :
    (work.andThen continuation).Within scope := by
  refine within_bind within fun outcome => ?_
  cases outcome with
  | ok value => exact continued value
  | error error => trivial

theorem within_mapOk {scope : Scope ε} {work : Computation ε ν (Outcome α)}
    (within : work.Within scope) (wrap : α → β) : (work.mapOk wrap).Within scope :=
  within_andThen within fun _ => trivial

end Computation

namespace Store

/-! ## The order of stores -/

/-- Nothing that is known in a store is lost in a later one. -/
structure Precedes (before after : Store ε ν) : Prop where
  /-- Outcomes stay. -/
  outcome_kept : ∀ {cell outcome},
    before.outcome? cell = some outcome → after.outcome? cell = some outcome
  /-- Started cells stay started. -/
  start_kept : ∀ {cell}, before.isStarted cell = true → after.isStarted cell = true
  /-- Open gates stay open. -/
  gate_kept : ∀ {gate}, before.isOpen gate = true → after.isOpen gate = true
  /-- Cells are never removed. -/
  size_le : before.size ≤ after.size

namespace Precedes

theorem refl (store : Store ε ν) : Precedes store store :=
  ⟨id, id, id, Nat.le_refl _⟩

theorem trans {before middle after : Store ε ν} (first : Precedes before middle)
    (second : Precedes middle after) : Precedes before after where
  outcome_kept known := second.outcome_kept (first.outcome_kept known)
  start_kept started := second.start_kept (first.start_kept started)
  gate_kept opened := second.gate_kept (first.gate_kept opened)
  size_le := Nat.le_trans first.size_le second.size_le

end Precedes

theorem outcome?_eq_some_iff {store : Store ε ν} {cell : Nat} {outcome : Outcome ν} :
    store.outcome? cell = some outcome ↔ store.state? cell = some (.settled outcome) := by
  constructor
  · intro known
    obtain ⟨state, found, settled⟩ := Option.bind_eq_some_iff.mp known
    cases state <;> simp_all [CellState.outcome?]
  · intro found
    simp [outcome?, found, CellState.outcome?]

theorem isStarted_iff {store : Store ε ν} {cell : Nat} :
    store.isStarted cell = true ↔
      ∃ state, store.state? cell = some state ∧ state.isStarted = true := by
  cases found : store.state? cell <;> simp [isStarted, found]

theorem isSettled_iff {store : Store ε ν} {cell : Nat} :
    store.isSettled cell = true ↔ ∃ outcome, store.outcome? cell = some outcome := by
  cases found : store.state? cell with
  | none => simp [isSettled, outcome?, found]
  | some state =>
      cases state <;> simp [isSettled, outcome?, found, CellState.isSettled, CellState.outcome?]

theorem Precedes.settled_kept {before after : Store ε ν} (order : Precedes before after) {cell : Nat}
    (settled : before.isSettled cell = true) : after.isSettled cell = true := by
  obtain ⟨outcome, known⟩ := isSettled_iff.mp settled
  exact isSettled_iff.mpr ⟨outcome, order.outcome_kept known⟩

/-- A settled cell has been started. -/
theorem isStarted_of_isSettled {store : Store ε ν} {cell : Nat}
    (settled : store.isSettled cell = true) : store.isStarted cell = true := by
  obtain ⟨outcome, known⟩ := isSettled_iff.mp settled
  exact isStarted_iff.mpr ⟨_, outcome?_eq_some_iff.mp known, rfl⟩

/-- A change of one cell loses nothing if it keeps an outcome and does not undo a start. -/
theorem precedes_modify (store : Store ε ν) (cell : Nat) (change : CellState ε ν → CellState ε ν)
    (settled_kept : ∀ outcome, store.state? cell = some (.settled outcome) →
      change (.settled outcome) = .settled outcome)
    (start_kept : ∀ state, store.state? cell = some state → state.isStarted = true →
      (change state).isStarted = true) :
    Precedes store (store.modify cell change) where
  outcome_kept {other outcome} known := by
    rw [outcome?_eq_some_iff] at known ⊢
    rw [state?_modify]
    split
    · next same =>
      subst same
      simp [known, settled_kept outcome known]
    · exact known
  start_kept {other} started := by
    rw [isStarted_iff] at started ⊢
    obtain ⟨state, found, state_started⟩ := started
    rw [state?_modify]
    split
    · next same =>
      subst same
      exact ⟨change state, by simp [found], start_kept state found state_started⟩
    · exact ⟨state, found, state_started⟩
  gate_kept := id
  size_le := by simp

theorem precedes_start (store : Store ε ν) (cell : Nat) : Precedes store (store.start cell) := by
  apply precedes_modify
  · intro outcome _
    rfl
  · intro state _ started
    cases state <;> simp_all [CellState.started, CellState.isStarted]

/-- Notes are not among what is known. -/
theorem precedes_notes (store : Store ε ν) (notes : List ε) :
    Precedes store { store with notes := notes } :=
  ⟨id, id, id, Nat.le_refl _⟩

theorem precedes_record (store : Store ε ν) (event : ε) : Precedes store (store.record event) :=
  precedes_notes store _

theorem precedes_openGate (store : Store ε ν) (gate : String) :
    Precedes store (store.openGate gate) where
  outcome_kept := id
  start_kept := id
  gate_kept opened := by
    simp only [isOpen, openGate, List.contains_cons, Bool.or_eq_true] at opened ⊢
    exact Or.inr opened
  size_le := Nat.le_refl _

/-- Nothing is lost if every cell keeps its state. -/
theorem precedes_of_states {before after : Store ε ν}
    (state_kept : ∀ cell state, before.state? cell = some state → after.state? cell = some state)
    (gate_kept : ∀ {gate}, before.isOpen gate = true → after.isOpen gate = true)
    (size_le : before.size ≤ after.size) : Precedes before after := by
  refine ⟨?_, ?_, gate_kept, size_le⟩
  · intro cell outcome known
    rw [outcome?_eq_some_iff] at known ⊢
    exact state_kept cell _ known
  · intro cell started
    rw [isStarted_iff] at started ⊢
    obtain ⟨found, at_cell, found_started⟩ := started
    exact ⟨found, state_kept cell found at_cell, found_started⟩

theorem precedes_allocate (store : Store ε ν) (state : CellState ε ν) (needed : List Nat) :
    Precedes store (store.allocate state needed).2 := by
  refine precedes_of_states ?_ id (by simp)
  intro cell found at_cell
  rw [state?_allocate, if_neg (Nat.ne_of_lt (lt_size_of_state? at_cell)), at_cell]

/-! ## Courses that a store bears out -/

/-- A computation leads to its rest and leaves notes on the way. Gates on the way are open, awaited
cells have the outcomes it went on with, and a look at a firm cell showed what it holds; a look at
any other cell may also have come too early. -/
inductive Runs (store : Store ε ν) (firm : Nat → Prop) :
    Computation ε ν α → List ε → Computation ε ν α → Prop
  | stay (work : Computation ε ν α) : Runs store firm work [] work
  | note {event : ε} {next rest : Computation ε ν α} {trace : List ε} :
      Runs store firm next trace rest → Runs store firm (.note event next) (event :: trace) rest
  | pass {gate : String} {next rest : Computation ε ν α} {trace : List ε} :
      store.isOpen gate = true → Runs store firm next trace rest →
      Runs store firm (.pass gate next) trace rest
  | start {cell : Nat} {next rest : Computation ε ν α} {trace : List ε} :
      Runs store firm next trace rest → Runs store firm (.start cell next) trace rest
  | await {cell : Nat} {next : Outcome ν → Computation ε ν α} {outcome : Outcome ν}
      {rest : Computation ε ν α} {trace : List ε} :
      store.outcome? cell = some outcome → Runs store firm (next outcome) trace rest →
      Runs store firm (.await cell next) trace rest
  | peek {cell : Nat} {next : Option (Outcome ν) → Computation ε ν α}
      {seen : Option (Outcome ν)} {rest : Computation ε ν α} {trace : List ε} :
      (seen = store.outcome? cell ∨ ¬firm cell ∧ seen = none) →
      Runs store firm (next seen) trace rest → Runs store firm (.peek cell next) trace rest

namespace Runs

variable {store later : Store ε ν} {firm : Nat → Prop}

/-- Courses are put together end to end. -/
theorem trans {work middle rest : Computation ε ν α} {trace more : List ε}
    (first : Runs store firm work trace middle) (second : Runs store firm middle more rest) :
    Runs store firm work (trace ++ more) rest := by
  induction first with
  | stay => exact second
  | note _ ih => exact .note (ih second)
  | pass opened _ ih => exact .pass opened (ih second)
  | start _ ih => exact .start (ih second)
  | await known _ ih => exact .await known (ih second)
  | peek looked _ ih => exact .peek looked (ih second)

theorem bind {work middle : Computation ε ν α} {trace : List ε}
    (run : Runs store firm work trace middle) (continuation : α → Computation ε ν β) :
    Runs store firm (work.bind continuation) trace (middle.bind continuation) := by
  induction run with
  | stay => exact .stay _
  | note _ ih => exact .note ih
  | pass opened _ ih => exact .pass opened ih
  | start _ ih => exact .start ih
  | await known _ ih => exact .await known ih
  | peek looked _ ih => exact .peek looked ih

/-- A course through a continued computation is still on its way through the computation, or has
come to its result and goes on from there. -/
theorem of_bind {work : Computation ε ν α} {continuation : α → Computation ε ν β} {trace : List ε}
    {rest : Computation ε ν β} (run : Runs store firm (work.bind continuation) trace rest) :
    (∃ middle, Runs store firm work trace middle ∧ rest = middle.bind continuation) ∨
      ∃ first second result, trace = first ++ second ∧
        Runs store firm work first (.finish result) ∧
        Runs store firm (continuation result) second rest := by
  induction work generalizing trace with
  | finish result => exact Or.inr ⟨[], trace, result, rfl, .stay _, run⟩
  | breakOff =>
      cases run
      exact Or.inl ⟨.breakOff, .stay _, rfl⟩
  | note event next ih =>
      cases run with
      | stay => exact Or.inl ⟨_, .stay _, rfl⟩
      | note run =>
          rcases ih run with ⟨middle, within_work, rfl⟩ | ⟨first, second, result, rfl, ended, after⟩
          · exact Or.inl ⟨middle, .note within_work, rfl⟩
          · exact Or.inr ⟨_ :: first, second, result, rfl, .note ended, after⟩
  | pass gate next ih =>
      cases run with
      | stay => exact Or.inl ⟨_, .stay _, rfl⟩
      | pass opened run =>
          rcases ih run with ⟨middle, within_work, rfl⟩ | ⟨first, second, result, rfl, ended, after⟩
          · exact Or.inl ⟨middle, .pass opened within_work, rfl⟩
          · exact Or.inr ⟨first, second, result, rfl, .pass opened ended, after⟩
  | start cell next ih =>
      cases run with
      | stay => exact Or.inl ⟨_, .stay _, rfl⟩
      | start run =>
          rcases ih run with ⟨middle, within_work, rfl⟩ | ⟨first, second, result, rfl, ended, after⟩
          · exact Or.inl ⟨middle, .start within_work, rfl⟩
          · exact Or.inr ⟨first, second, result, rfl, .start ended, after⟩
  | await cell next ih =>
      cases run with
      | stay => exact Or.inl ⟨_, .stay _, rfl⟩
      | await known run =>
          rcases ih _ run with ⟨middle, within_work, rfl⟩ |
            ⟨first, second, result, rfl, ended, after⟩
          · exact Or.inl ⟨middle, .await known within_work, rfl⟩
          · exact Or.inr ⟨first, second, result, rfl, .await known ended, after⟩
  | peek cell next ih =>
      cases run with
      | stay => exact Or.inl ⟨_, .stay _, rfl⟩
      | peek looked run =>
          rcases ih _ run with ⟨middle, within_work, rfl⟩ |
            ⟨first, second, result, rfl, ended, after⟩
          · exact Or.inl ⟨middle, .peek looked within_work, rfl⟩
          · exact Or.inr ⟨first, second, result, rfl, .peek looked ended, after⟩

/-- A course through a computation whose results are wrapped is one through the computation. -/
theorem of_mapOk {work : Computation ε ν (Outcome α)} {wrap : α → β} {trace : List ε}
    {rest : Computation ε ν (Outcome β)} (run : Runs store firm (work.mapOk wrap) trace rest) :
    ∃ middle, Runs store firm work trace middle ∧ rest = middle.mapOk wrap := by
  rcases run.of_bind with ⟨middle, first, rfl⟩ | ⟨first, second, result, rfl, ended, after⟩
  · exact ⟨middle, first, rfl⟩
  · cases result with
    | ok value =>
        cases after
        exact ⟨_, by simpa using ended, rfl⟩
    | error error =>
        cases after
        exact ⟨_, by simpa using ended, rfl⟩

/-- A later store bears out the courses of an earlier one, if it shows the same in firm cells. -/
theorem mono {work rest : Computation ε ν α} {trace : List ε} (order : Precedes store later)
    (firm_kept : ∀ cell, firm cell → later.outcome? cell = store.outcome? cell)
    (run : Runs store firm work trace rest) : Runs later firm work trace rest := by
  induction run with
  | stay => exact .stay _
  | note _ ih => exact .note ih
  | pass opened _ ih => exact .pass (order.gate_kept opened) ih
  | start _ ih => exact .start ih
  | await known _ ih => exact .await (order.outcome_kept known) ih
  | @peek cell next seen rest trace looked _ ih =>
      refine .peek ?_ ih
      rcases looked with shown | early
      · by_cases is_firm : firm cell
        · exact Or.inl (shown.trans (firm_kept cell is_firm).symm)
        · cases known : store.outcome? cell with
          | none => exact Or.inr ⟨is_firm, shown.trans known⟩
          | some outcome =>
              left
              rw [shown, known, order.outcome_kept known]
      · exact Or.inr early

/-- What is left of a computation stays within its scope, and so do the notes on the way. -/
theorem within {scope : Scope ε} {work rest : Computation ε ν α} {trace : List ε}
    (run : Runs store firm work trace rest) (work_within : work.Within scope) :
    rest.Within scope ∧ ∀ event ∈ trace, scope.noted event := by
  induction run with
  | stay => exact ⟨work_within, by simp⟩
  | note _ ih =>
      obtain ⟨rest_within, noted⟩ := ih work_within.2
      exact ⟨rest_within, by simpa using ⟨work_within.1, noted⟩⟩
  | pass _ _ ih => exact ih work_within.2
  | start _ ih => exact ih work_within.2
  | await _ _ ih => exact ih (work_within.2 _)
  | peek _ _ ih => exact ih (work_within.2 _)

/-- A course that comes back to its beginning has left no notes. -/
theorem trace_of_loop {work : Computation ε ν α} {trace : List ε}
    (run : Runs store firm work trace work) : trace = [] := by
  -- A loop through a computation is also a loop through what comes after its first step.
  induction work generalizing trace with
  | finish | breakOff =>
      cases run
      rfl
  | note event next ih =>
      cases run with
      | stay => rfl
      | note on => simpa using ih (on.trans (.note (.stay next)))
  | pass gate next ih =>
      cases run with
      | stay => rfl
      | pass opened on => simpa using ih (on.trans (.pass opened (.stay next)))
  | start cell next ih =>
      cases run with
      | stay => rfl
      | start on => simpa using ih (on.trans (.start (.stay next)))
  | await cell next ih =>
      cases run with
      | stay => rfl
      | await known on => simpa using ih _ (on.trans (.await known (.stay _)))
  | peek cell next ih =>
      cases run with
      | stay => rfl
      | peek looked on => simpa using ih _ (on.trans (.peek looked (.stay _)))

end Runs

/-! ## Advancing -/

section Advancing

variable {poll : Nat → Store ε ν → Store ε ν} {scope : Scope ε}

/-- What recording, starting and awaiting preserve, advancing preserves. -/
theorem advance_preserves (Kept : Store ε ν → Prop)
    (record_kept : ∀ store event, scope.noted event → Kept store → Kept (store.record event))
    (start_kept : ∀ store cell, scope.started cell → Kept store → Kept (store.start cell))
    (await_kept : ∀ store cell,
      scope.awaited cell → Kept store → Kept (poll cell (store.start cell)))
    (work : Computation ε ν α) (within : work.Within scope) (store : Store ε ν)
    (kept : Kept store) : Kept (advance poll work store).2 := by
  induction work generalizing store with
  | finish result => exact kept
  | breakOff => exact kept
  | note event next ih => exact ih within.2 _ (record_kept store event within.1 kept)
  | pass gate next ih =>
      simp only [advance]
      split
      · exact ih within.2 _ kept
      · exact kept
  | start cell next ih => exact ih within.2 _ (start_kept store cell within.1 kept)
  | await cell next ih =>
      have polled := await_kept store cell within.1 kept
      simp only [advance]
      split
      · exact ih _ (within.2 _) _ polled
      · exact polled
  | peek cell next ih => exact ih _ (within.2 _) _ kept

/-- Advancing loses nothing if polling does not. -/
theorem precedes_advance (poll_precedes : ∀ store cell, Precedes store (poll cell store))
    (work : Computation ε ν α) (store : Store ε ν) :
    Precedes store (advance poll work store).2 :=
  advance_preserves (Precedes store)
    (fun middle event _ order => order.trans (precedes_record middle event))
    (fun middle cell _ order => order.trans (precedes_start middle cell))
    (fun middle cell _ order =>
      (order.trans (precedes_start middle cell)).trans (poll_precedes _ cell))
    work work.within_all store (.refl store)

/-- Advancing follows a course that the resulting store bears out. A statement about the notes left
so far is carried along the course; it fixes what firm cells show. -/
theorem advance_runs (firm : Nat → Prop) (shown : Nat → Option (Outcome ν))
    (Carried : List ε → Store ε ν → Prop)
    (poll_precedes : ∀ store cell, Precedes store (poll cell store))
    (record_carried : ∀ trace store event, scope.noted event →
      Carried trace store → Carried (trace ++ [event]) (store.record event))
    (start_carried : ∀ trace store cell, scope.started cell →
      Carried trace store → Carried trace (store.start cell))
    (await_carried : ∀ trace store cell, scope.awaited cell →
      Carried trace store → Carried trace (poll cell (store.start cell)))
    (firm_shown : ∀ trace store, Carried trace store →
      ∀ cell, firm cell → store.outcome? cell = shown cell)
    (work : Computation ε ν α) (within : work.Within scope) (before : List ε)
    (store : Store ε ν) (carried : Carried before store) :
    ∃ trace, Carried (before ++ trace) (advance poll work store).2 ∧
      Runs (advance poll work store).2 firm work trace (advance poll work store).1 := by
  induction work generalizing store before with
  | finish result => exact ⟨[], by simpa [advance] using carried, .stay _⟩
  | breakOff => exact ⟨[], by simpa [advance] using carried, .stay _⟩
  | note event next ih =>
      obtain ⟨trace, carried_on, run⟩ :=
        ih within.2 _ _ (record_carried before store event within.1 carried)
      exact ⟨event :: trace, by simpa [advance] using carried_on, .note run⟩
  | pass gate next ih =>
      by_cases opened : store.isOpen gate = true
      · have unfolded : advance poll (.pass gate next) store = advance poll next store := by
          simp [advance, opened]
        rw [unfolded]
        obtain ⟨trace, carried_on, run⟩ := ih within.2 before store carried
        have still_open := (precedes_advance poll_precedes next store).gate_kept opened
        exact ⟨trace, carried_on, .pass still_open run⟩
      · have unfolded : advance poll (.pass gate next) store = (.pass gate next, store) := by
          simp [advance, opened]
        rw [unfolded]
        exact ⟨[], by simpa using carried, .stay _⟩
  | start cell next ih =>
      obtain ⟨trace, carried_on, run⟩ :=
        ih within.2 before _ (start_carried before store cell within.1 carried)
      exact ⟨trace, carried_on, .start run⟩
  | await cell next ih =>
      have polled_carried := await_carried before store cell within.1 carried
      cases known : (poll cell (store.start cell)).outcome? cell with
      | none =>
          have unfolded : advance poll (.await cell next) store =
              (.await cell next, poll cell (store.start cell)) := by
            simp [advance, known]
          rw [unfolded]
          exact ⟨[], by simpa using polled_carried, .stay _⟩
      | some outcome =>
          have unfolded : advance poll (.await cell next) store =
              advance poll (next outcome) (poll cell (store.start cell)) := by
            simp [advance, known]
          rw [unfolded]
          obtain ⟨trace, carried_on, run⟩ := ih outcome (within.2 outcome) before _ polled_carried
          have still_known := (precedes_advance poll_precedes (next outcome) _).outcome_kept known
          exact ⟨trace, carried_on, .await still_known run⟩
  | peek cell next ih =>
      obtain ⟨trace, carried_on, run⟩ := ih (store.outcome? cell) (within.2 _) before store carried
      refine ⟨trace, carried_on, .peek ?_ run⟩
      by_cases is_firm : firm cell
      · left
        exact (firm_shown _ _ carried cell is_firm).trans
          (firm_shown _ _ carried_on cell is_firm).symm
      · cases known : store.outcome? cell with
        | none => exact Or.inr ⟨is_firm, rfl⟩
        | some outcome =>
            left
            exact ((precedes_advance poll_precedes _ store).outcome_kept known).symm

end Advancing

end Store

end Lazy

end SymbolResolver

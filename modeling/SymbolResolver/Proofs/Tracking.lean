import SymbolResolver.Proofs.Flights

/-!
# Tracking a cell

A watched cell is told from all others by the notes of its computation. `Store.Tracked` says that
its state is where one single run has come to, and that the notes of that run are all the notes of
this kind: no part of the computation has ever run twice. Everything that can happen to a store
preserves this.
-/

namespace SymbolResolver

namespace Lazy

variable {ε ν α : Type}

/-- The scopes of cells when only one of them may leave notes of a kind. -/
def apart (mine : ε → Bool) (cell : Nat) (other : Nat) : Scope ε :=
  { noted := fun event => other ≠ cell → mine event = false }

/-- The scope of a computation that leaves no notes of a kind. -/
def silence (mine : ε → Bool) : Scope ε := { noted := fun event => mine event = false }

theorem silence_le_apart (mine : ε → Bool) (cell other : Nat) :
    (silence mine).Le (apart mine cell other) :=
  ⟨fun _ silent _ => silent, fun _ => id, fun _ => id, fun _ => id, fun _ => id, id⟩

theorem apart_le_silence (mine : ε → Bool) {cell other : Nat} (different : other ≠ cell) :
    (apart mine cell other).Le (silence mine) :=
  ⟨fun _ silent => silent different, fun _ => id, fun _ => id, fun _ => id, fun _ => id, id⟩

/-- Nothing leaves notes of the empty kind. -/
theorem CellState.within_unmarked (state : CellState ε ν) :
    state.Within (silence fun _ => false) := by
  have everything : ({} : Scope ε).Le (silence fun _ => false) :=
    ⟨fun _ _ => rfl, fun _ => id, fun _ => id, fun _ => id, fun _ => id, id⟩
  cases state with
  | pending work => exact work.within_all.mono everything
  | running work => exact work.within_all.mono everything
  | settled outcome => trivial

/-- A computation that begins with its only note of a kind leaves that note once on its way, and has
left it when it has gone on. -/
theorem Store.Runs.count_first {mine : ε → Bool} {store : Store ε ν} {firm : Nat → Prop} {mark : ε}
    {next rest : Computation ε ν α} {trace : List ε} (marked : mine mark = true)
    (silent : next.Within (silence mine)) (run : store.Runs firm (.note mark next) trace rest) :
    trace.countP mine ≤ 1 ∧ (rest ≠ .note mark next → trace.countP mine = 1) := by
  cases run with
  | stay => exact ⟨by simp, fun gone => absurd rfl gone⟩
  | @note _ _ _ trace run =>
      have others : trace.countP mine = 0 := by
        rw [List.countP_eq_zero]
        intro event member
        simp [show mine event = false from (run.within silent).2 event member]
      have first_only : (mark :: trace).countP mine = 1 := by
        rw [List.countP_cons_of_pos marked, others]
      exact ⟨Nat.le_of_eq first_only, fun _ => first_only⟩

namespace Store

/-- The watched cell has come from its origin by one run, the notes of its kind are those of the run
after the ones logged before it, and no other cell leaves such notes. -/
structure Tracked (mine : ε → Bool) (cell : Nat) (origin : CellState ε ν) (logged : List ε)
    (store : Store ε ν) : Prop where
  /-- Notes of the kind are left by the watched cell alone. -/
  others_silent : store.Within (apart mine cell)
  /-- The run of the watched cell. -/
  flight : ∃ state trace, store.state? cell = some state ∧ origin.Advances store trace state ∧
    store.notes.filter mine = logged ++ trace.filter mine

variable {mine : ε → Bool} {cell : Nat} {origin : CellState ε ν} {logged : List ε}
  {store next : Store ε ν}

/-- A change of the store that takes the watched cell further and logs the notes on the way. -/
theorem Tracked.step (tracked : Tracked mine cell origin logged store)
    (order : store.Precedes next) (next_silent : next.Within (apart mine cell))
    (advanced : ∀ state, store.state? cell = some state → ∃ later more,
      next.state? cell = some later ∧ state.Advances next more later ∧
        next.notes.filter mine = store.notes.filter mine ++ more.filter mine) :
    Tracked mine cell origin logged next := by
  obtain ⟨state, trace, found, advances, notes_eq⟩ := tracked.flight
  obtain ⟨later, more, found_later, advances_on, notes_on⟩ := advanced state found
  refine ⟨next_silent, later, trace ++ more, found_later, ?_, ?_⟩
  · exact (advances.mono order).trans advances_on
  · rw [notes_on, notes_eq, List.filter_append, List.append_assoc]

/-- A change of the store that leaves the watched cell and the notes of its kind as they are. -/
theorem Tracked.frame (tracked : Tracked mine cell origin logged store)
    (order : store.Precedes next) (next_silent : next.Within (apart mine cell))
    (state_kept : ∀ state, store.state? cell = some state → next.state? cell = some state)
    (notes_kept : next.notes.filter mine = store.notes.filter mine) :
    Tracked mine cell origin logged next :=
  tracked.step order next_silent fun state found =>
    ⟨state, [], state_kept state found, .refl next state, by simpa using notes_kept⟩

theorem Tracked.record (tracked : Tracked mine cell origin logged store) {event : ε}
    (other : mine event = false) : Tracked mine cell origin logged (store.record event) := by
  refine tracked.frame (precedes_record store event) tracked.others_silent (fun _ found => found) ?_
  simp [Store.record, List.filter_append, other]

theorem Tracked.openGate (tracked : Tracked mine cell origin logged store) (gate : String) :
    Tracked mine cell origin logged (store.openGate gate) :=
  tracked.frame (precedes_openGate store gate) tracked.others_silent (fun _ found => found) rfl

theorem Tracked.start (tracked : Tracked mine cell origin logged store) (other : Nat) :
    Tracked mine cell origin logged (store.start other) := by
  refine tracked.step (precedes_start store other) (within_start tracked.others_silent other) ?_
  intro state found
  by_cases same : other = cell
  · refine ⟨state.started, [], ?_, CellState.advances_started _ state, by simp [Store.start]⟩
    rw [state?_start, if_pos same, found, Option.map_some]
  · refine ⟨state, [], ?_, .refl _ state, by simp [Store.start]⟩
    rw [state?_start, if_neg same, found]

theorem Tracked.allocate (tracked : Tracked mine cell origin logged store)
    {state : CellState ε ν} (silent : state.Within (silence mine)) (needed : List Nat) :
    Tracked mine cell origin logged (store.allocate state needed).2 := by
  refine tracked.frame (precedes_allocate store state needed) ?_ ?_ rfl
  · apply within_allocate tracked.others_silent
    exact silent.mono (silence_le_apart mine cell store.size)
  · intro found at_cell
    rw [state?_allocate, if_neg (Nat.ne_of_lt (lt_size_of_state? at_cell)), at_cell]

/-- A computation that leaves no notes of the kind advances without losing track, if polling does
not. -/
theorem Tracked.advance {poll : Nat → Store ε ν → Store ε ν}
    (poll_tracked : ∀ other store, Tracked mine cell origin logged store →
      Tracked mine cell origin logged (poll other store))
    {work : Computation ε ν α} (silent : work.Within (silence mine))
    (tracked : Tracked mine cell origin logged store) :
    Tracked mine cell origin logged (Store.advance poll work store).2 :=
  advance_preserves (Tracked mine cell origin logged)
    (fun _ _ other kept => kept.record other) (fun _ started _ kept => kept.start started)
    (fun _ awaited _ kept => poll_tracked awaited _ (kept.start awaited)) work silent store tracked

/-- Cells before the watched one leave no notes of its kind. -/
theorem notes_pollBelow (silent : store.Within (apart mine cell)) {bound : Nat}
    (bound_le : bound ≤ cell) (other : Nat) :
    (pollBelow bound other store).notes.filter mine = store.notes.filter mine := by
  let Kept (later : Store ε ν) : Prop :=
    later.Within (apart mine cell) ∧ later.notes.filter mine = store.notes.filter mine
  suffices kept : Kept (pollBelow bound other store) from kept.2
  refine pollBelow_preserves cell Kept ?_ bound bound_le other store ⟨silent, rfl⟩
  intro lower work store lower_lt lower_kept running kept
  have work_silent : work.Within (silence mine) :=
    (kept.1 lower _ running).mono (apart_le_silence mine (Nat.ne_of_lt lower_lt))
  have advanced : Kept (advance (pollBelow lower) work store).2 := by
    refine advance_preserves Kept ?_ (fun _ started _ kept => ⟨within_start kept.1 started, kept.2⟩)
      (fun _ awaited _ kept => lower_kept awaited _ ⟨within_start kept.1 awaited, kept.2⟩)
      work work_silent store kept
    intro store event other kept
    refine ⟨kept.1, ?_⟩
    rw [← kept.2]
    simp [Store.record, List.filter_append, show mine event = false from other]
  refine ⟨within_modify advanced.1 lower fun _ _ => ?_, advanced.2⟩
  exact CellState.within_ofRest
    (rest_within (fun store cell => precedes_pollBelow lower cell store) (kept.1 lower _ running)
      store)

/-- A computation that advances beside silent cells follows a course, and the notes of the kind that
have come are those of the course. -/
theorem advance_notes (silent : store.Within (apart mine cell)) {bound : Nat}
    (bound_le : bound ≤ cell) (work : Computation ε ν α) :
    ∃ trace,
      (advance (pollBelow bound) work store).2.notes.filter mine =
        store.notes.filter mine ++ trace.filter mine ∧
      Runs (advance (pollBelow bound) work store).2 (fun _ => False) work trace
        (advance (pollBelow bound) work store).1 := by
  let Carried (trace : List ε) (later : Store ε ν) : Prop :=
    later.Within (apart mine cell) ∧
      later.notes.filter mine = store.notes.filter mine ++ trace.filter mine
  obtain ⟨trace, carried, run⟩ :=
    advance_runs (fun _ => False) (fun _ => none) Carried
      (fun store other => precedes_pollBelow bound other store)
      (by
        intro trace later event _ carried
        refine ⟨carried.1, ?_⟩
        simp only [Store.record, List.filter_append]
        rw [carried.2, List.append_assoc])
      (fun _ _ started _ carried => ⟨within_start carried.1 started, carried.2⟩)
      (by
        intro trace later awaited _ carried
        have started := within_start carried.1 awaited
        refine ⟨within_pollBelow bound awaited started, ?_⟩
        rw [notes_pollBelow started bound_le]
        exact carried.2)
      (fun _ _ _ _ impossible => impossible.elim)
      work work.within_all [] store ⟨silent, by simp⟩
  exact ⟨trace, carried.2, run⟩

/-- One run of the watched cell takes up what it was left with and logs the notes on the way. -/
theorem Tracked.run_watched {work : Computation ε ν (Outcome ν)}
    (running : store.state? cell = some (.running work))
    (tracked : Tracked mine cell origin logged store) :
    Tracked mine cell origin logged (pollBelow (cell + 1) cell store) := by
  obtain ⟨trace, notes_eq, run⟩ := advance_notes tracked.others_silent (Nat.le_refl cell) work
  have still_running := running_advance running work
  have order := precedes_ofRest still_running (Store.advance (pollBelow cell) work store).1
  refine tracked.step (precedes_pollBelow _ _ store) (within_pollBelow _ _ tracked.others_silent) ?_
  intro state found
  obtain rfl : state = .running work := Option.some.inj (found.symm.trans running)
  rw [pollBelow_of_running running]
  refine ⟨.ofRest _, trace, ?_,
    ⟨_, run.mono order (fun _ impossible => impossible.elim), Or.inr rfl⟩, notes_eq⟩
  rw [state?_modify, if_pos rfl, still_running, Option.map_some]

/-- A computation that runs beside silent cells. -/
theorem run_notes (silent : store.Within fun _ => silence mine) (work : Computation ε ν α) :
    ∃ trace,
      (store.run work).2.notes.filter mine = store.notes.filter mine ++ trace.filter mine ∧
      Runs (store.run work).2 (fun _ => False) work trace (store.run work).1 := by
  refine advance_notes ?_ (Nat.le_refl store.size) work
  intro other state found
  exact (silent other state found).mono (silence_le_apart mine _ other)

/-- Polling does not lose track. -/
theorem Tracked.pollBelow (tracked : Tracked mine cell origin logged store) (bound other : Nat) :
    Tracked mine cell origin logged (Store.pollBelow bound other store) := by
  refine pollBelow_preserves bound (Tracked mine cell origin logged) ?_ bound (Nat.le_refl bound)
    other store tracked
  intro lower work store _ lower_kept running kept
  by_cases watched : lower = cell
  · subst watched
    rw [← pollBelow_of_running running]
    exact kept.run_watched running
  · have work_within := kept.others_silent lower _ running
    have advanced := kept.advance lower_kept (work_within.mono (apart_le_silence mine watched))
    refine advanced.frame (precedes_ofRest (running_advance running work) _) ?_ ?_ rfl
    · refine within_modify advanced.others_silent lower fun _ _ => ?_
      exact CellState.within_ofRest
        (rest_within (fun store cell => precedes_pollBelow lower cell store) work_within store)
    · intro state found
      rw [state?_modify, if_neg watched, found]

theorem Tracked.poll (tracked : Tracked mine cell origin logged store) (other : Nat) :
    Tracked mine cell origin logged (store.poll other) :=
  tracked.pollBelow store.size other

theorem Tracked.run {work : Computation ε ν α} (silent : work.Within (silence mine))
    (tracked : Tracked mine cell origin logged store) :
    Tracked mine cell origin logged (store.run work).2 :=
  tracked.advance (fun other _ kept => kept.pollBelow _ other) silent

end Store

end Lazy

end SymbolResolver

import SymbolResolver.Proofs.Replays

/-!
# Reachable cells

A cell keeps the cells that it refers to reachable until it is settled. Which cells are reachable
from the ones that someone holds is said by `Store.Reaches`. Cells that wait for everything that they
refer to (`Store.Patient`) are reached until they are settled (`Store.Reaches.later`). A cell that
runs touches cells that it keeps reachable, so running leaves all others as they are
(`Store.Spares`).
-/

namespace SymbolResolver

namespace Lazy

variable {ε ν : Type}

/-- The scope of a computation that refers only to the cells of a list. -/
def touching (cells : List Nat) : Scope ε :=
  { started := (· ∈ cells), awaited := (· ∈ cells), looked := (· ∈ cells) }

/-- The scopes of cells when those of a kind start and await only cells of that kind. -/
def tied (Live : Nat → Prop) (cell : Nat) : Scope ε :=
  { started := fun other => Live cell → Live other
    awaited := fun other => Live cell → Live other }

theorem touching_le_below {cells : List Nat} {bound : Nat}
    (earlier : ∀ cell ∈ cells, cell < bound) :
    (touching cells : Scope ε).Le (below bound) :=
  ⟨fun _ => id, fun _ => id, earlier, earlier, earlier, id⟩

theorem touching_le_tied {cells : List Nat} {Live : Nat → Prop} {cell : Nat}
    (closed : Live cell → ∀ other ∈ cells, Live other) :
    (touching cells : Scope ε).Le (tied Live cell) :=
  ⟨fun _ => id, fun _ => id, fun other member live => closed live other member,
    fun other member live => closed live other member, fun _ _ => trivial, id⟩

namespace Store

/-! ## What cells keep reachable -/

theorem lt_size_of_needed {store : Store ε ν} {cell origin : Nat}
    (member : origin ∈ store.needed cell) : cell < store.size := by
  refine Nat.lt_of_not_le fun beyond => ?_
  have absent : store.cells[cell]? = none := List.getElem?_eq_none beyond
  simp [needed, absent] at member

@[simp] theorem needed_modify (store : Store ε ν) (cell : Nat)
    (change : CellState ε ν → CellState ε ν) :
    (store.modify cell change).needed = store.needed := by
  funext other
  by_cases same : cell = other <;> cases found : store.cells[other]? <;>
    simp [needed, modify, same, found]

theorem needed_allocate (store : Store ε ν) (state : CellState ε ν) (origins : List Nat)
    (other : Nat) :
    (store.allocate state origins).2.needed other =
      if other = store.size then origins else store.needed other := by
  rcases Nat.lt_trichotomy other store.size with before | same | beyond
  · have found : (store.cells ++ [⟨state, origins⟩])[other]? = store.cells[other]? :=
      List.getElem?_append_left before
    simp [needed, allocate, found, Nat.ne_of_lt before]
  · simp [needed, allocate, size, same]
  · have outside : store.cells[other]? = none := List.getElem?_eq_none (Nat.le_of_lt beyond)
    have still_outside : (store.cells ++ [⟨state, origins⟩])[other]? = none := by
      rw [List.getElem?_eq_none_iff, List.length_append]
      exact beyond
    simp [needed, allocate, outside, still_outside, Nat.ne_of_gt beyond]

/-- Running leaves alone what cells keep reachable. -/
theorem needed_pollBelow (bound cell : Nat) (store : Store ε ν) :
    (pollBelow bound cell store).needed = store.needed := by
  refine pollBelow_preserves bound (fun later => later.needed = store.needed) ?_ bound
    (Nat.le_refl bound) cell store rfl
  intro lower work middle _ lower_kept _ same
  rw [needed_modify]
  exact advance_preserves (fun later => later.needed = store.needed) (fun _ _ _ kept => kept)
    (fun _ _ _ kept => (needed_modify _ _ _).trans kept)
    (fun _ _ _ kept => lower_kept _ _ ((needed_modify _ _ _).trans kept)) work work.within_all
    middle same

/-- Every cell refers only to cells that it keeps reachable, and these were made before it. -/
structure Rooted (store : Store ε ν) : Prop where
  within : store.Within fun cell => touching (store.needed cell)
  earlier : ∀ cell, ∀ origin ∈ store.needed cell, origin < cell

namespace Rooted

variable {store : Store ε ν}

theorem ordered (rooted : store.Rooted) : store.Ordered := fun cell state found =>
  (rooted.within cell state found).mono (touching_le_below (rooted.earlier cell))

theorem start (rooted : store.Rooted) (cell : Nat) : (store.start cell).Rooted := by
  have same : (store.start cell).needed = store.needed := needed_modify store cell _
  exact ⟨same.symm ▸ within_start rooted.within cell, same.symm ▸ rooted.earlier⟩

theorem pollBelow (rooted : store.Rooted) (bound cell : Nat) :
    (Store.pollBelow bound cell store).Rooted := by
  have same := needed_pollBelow bound cell store
  exact ⟨same.symm ▸ within_pollBelow bound cell rooted.within, same.symm ▸ rooted.earlier⟩

theorem demand (rooted : store.Rooted) (cell : Nat) :
    (store.run (Computation.outcomeOf cell)).2.Rooted := by
  rw [run_outcomeOf_store]
  exact (rooted.start cell).pollBelow _ _

theorem allocate (rooted : store.Rooted) {state : CellState ε ν} {origins : List Nat}
    (within : state.Within (touching origins)) (earlier : ∀ origin ∈ origins, origin < store.size) :
    (store.allocate state origins).2.Rooted where
  within cell found at_cell := by
    simp only [needed_allocate]
    rw [state?_allocate] at at_cell
    by_cases new : cell = store.size
    · rw [if_pos new] at at_cell ⊢
      cases at_cell
      exact within
    · rw [if_neg new] at at_cell ⊢
      exact rooted.within cell found at_cell
  earlier cell origin member := by
    rw [needed_allocate] at member
    split at member
    · next new => exact new ▸ earlier origin member
    · exact rooted.earlier cell origin member

end Rooted

/-! ## Reachability -/

/-- A cell can still be asked for: someone holds it, or a cell without an outcome that can itself
be asked for keeps it reachable. -/
inductive Reaches (store : Store ε ν) (held : List Nat) : Nat → Prop
  | held {cell : Nat} : cell ∈ held → Reaches store held cell
  | needed {derived origin : Nat} :
      Reaches store held derived → store.isSettled derived = false →
      origin ∈ store.needed derived → Reaches store held origin

/-! ## Cells that wait for what they refer to -/

/-- A cell waits for everything that it refers to before it does anything else. -/
def Patient (store : Store ε ν) : Prop :=
  ∀ cell, ∀ origin ∈ store.needed cell, store.isSettled origin = true ∨
    ∃ next, store.state? cell = some (.pending (.await origin next)) ∨
      store.state? cell = some (.running (.await origin next))

namespace Patient

variable {store later : Store ε ν}

/-- What a settled cell refers to is settled. -/
theorem settled_of_settled (patient : store.Patient) {cell origin : Nat}
    (settled : store.isSettled cell = true) (needs : origin ∈ store.needed cell) :
    store.isSettled origin = true := by
  refine (patient cell origin needs).resolve_right ?_
  rintro ⟨next, waits | waits⟩
  · simp [isSettled, waits, CellState.isSettled] at settled
  · simp [isSettled, waits, CellState.isSettled] at settled

theorem start (patient : store.Patient) (cell : Nat) : (store.start cell).Patient := by
  intro other origin needs
  rw [Store.start, needed_modify] at needs
  rcases patient other origin needs with settled | ⟨next, waits⟩
  · exact .inl ((precedes_start store cell).settled_kept settled)
  · refine .inr ⟨next, ?_⟩
    rw [state?_start]
    rcases waits with waits | waits <;> split <;> simp [waits, CellState.started]

theorem pollBelow (patient : store.Patient) (bound cell : Nat) :
    (Store.pollBelow bound cell store).Patient := by
  refine pollBelow_preserves bound Patient ?_ bound (Nat.le_refl bound) cell store patient
  intro lower work middle _ lower_kept running patient
  have advanced : (advance (Store.pollBelow lower) work middle).2.Patient :=
    advance_preserves Patient (fun _ _ _ kept => kept) (fun _ started _ kept => kept.start started)
      (fun _ awaited _ kept => lower_kept awaited _ (kept.start awaited)) work work.within_all middle
      patient
  have still_running := running_advance running work
  intro other origin needs
  rw [needed_modify] at needs
  by_cases settled : (advance (Store.pollBelow lower) work middle).2.isSettled origin = true
  · exact .inl ((precedes_ofRest still_running _).settled_kept settled)
  · obtain ⟨next, waits⟩ := (advanced other origin needs).resolve_left settled
    refine .inr ⟨next, ?_⟩
    rw [state?_modify]
    split
    · next same =>
      subst same
      -- The cell that runs has waited for its origin, and its rest is the same wait.
      obtain rfl : work = .await origin next := by
        rcases waits with pending | running_on
        · simp [still_running] at pending
        · simpa [still_running] using running_on
      have unknown :
          (Store.pollBelow lower origin (middle.start origin)).outcome? origin = none := by
        cases known : (Store.pollBelow lower origin (middle.start origin)).outcome? origin with
        | none => rfl
        | some outcome =>
            refine absurd (Precedes.settled_kept ?_ (isSettled_iff.mpr ⟨outcome, known⟩)) settled
            simp only [advance, known]
            exact precedes_advance (fun store cell => precedes_pollBelow _ cell store) _ _
      have rest_eq : (advance (Store.pollBelow lower) (.await origin next) middle).1 =
          .await origin next := by
        simp [advance, unknown]
      simp [still_running, rest_eq, CellState.ofRest]
    · exact waits

theorem demand (patient : store.Patient) (cell : Nat) :
    (store.run (Computation.outcomeOf cell)).2.Patient := by
  rw [run_outcomeOf_store]
  exact (patient.start cell).pollBelow _ _

theorem allocate (patient : store.Patient) {state : CellState ε ν} {origins : List Nat}
    (waits : ∀ origin ∈ origins, ∃ next, state = .pending (.await origin next)) :
    (store.allocate state origins).2.Patient := by
  intro cell origin needs
  rw [needed_allocate] at needs
  by_cases new : cell = store.size
  · rw [if_pos new] at needs
    obtain ⟨next, rfl⟩ := waits origin needs
    exact .inr ⟨next, .inl (by rw [state?_allocate, if_pos new])⟩
  · rw [if_neg new] at needs
    rw [state?_allocate, if_neg new]
    exact (patient cell origin needs).imp_left
      (precedes_allocate store state origins).settled_kept

end Patient

/-- What is reached is reached until it is settled. -/
theorem Reaches.later {store later : Store ε ν} {held : List Nat} {cell : Nat}
    (same_needed : later.needed = store.needed) (patient : later.Patient)
    (reaches : store.Reaches held cell) :
    later.Reaches held cell ∨ later.isSettled cell = true := by
  induction reaches with
  | held member => exact .inl (.held member)
  | @needed derived origin _ _ needs ih =>
      rw [← same_needed] at needs
      cases settled : later.isSettled derived with
      | true => exact .inr (patient.settled_of_settled settled needs)
      | false => exact .inl (.needed (ih.resolve_right (by simp [settled])) settled needs)

/-! ## What running leaves alone -/

/-- If a kind of cells holds what its unsettled members keep reachable, its members start and await
only each other. -/
theorem Rooted.tied {store : Store ε ν} (rooted : store.Rooted) {Live : Nat → Prop}
    (closed : ∀ cell, Live cell → store.isSettled cell = false →
      ∀ origin ∈ store.needed cell, Live origin) : store.Within (tied Live) := by
  intro cell state found
  cases state with
  | settled outcome => trivial
  | pending work | running work =>
      have unsettled : store.isSettled cell = false := by
        simp [isSettled, found, CellState.isSettled]
      exact (rooted.within cell _ found).mono
        (touching_le_tied fun live => closed cell live unsettled)

/-- From one store to another the cells of a kind may have gone on, and all others have kept their
states. -/
structure Spares (Live : Nat → Prop) (before after : Store ε ν) : Prop where
  /-- Cells of the kind still start and await only each other. -/
  tied : after.Within (tied Live)
  state_eq : ∀ cell, ¬Live cell → after.state? cell = before.state? cell

namespace Spares

variable {Live : Nat → Prop} {before after : Store ε ν}

theorem start (spares : Spares Live before after) {cell : Nat} (live : Live cell) :
    Spares Live before (after.start cell) := by
  refine ⟨within_start spares.tied cell, ?_⟩
  intro other not_live
  have different : cell ≠ other := by
    rintro rfl
    exact not_live live
  rw [state?_start, if_neg different]
  exact spares.state_eq other not_live

/-- A cell of the kind runs. -/
theorem pollBelow (spares : Spares Live before after) (bound : Nat) {cell : Nat}
    (live : Live cell) : Spares Live before (Store.pollBelow bound cell after) := by
  refine pollBelow_induct
    (motive := fun _ cell after polled =>
      Live cell → Spares Live before after → Spares Live before polled)
    (fun _ _ _ spares => spares) ?_ (fun _ _ _ _ spares => spares)
    (fun _ _ _ _ _ earlier => earlier) bound cell after live spares
  intro cell work after earlier running live spares
  have work_tied : work.Within (Lazy.tied Live cell) := spares.tied cell _ running
  -- Whatever the cell waits for is of the kind and earlier.
  have advanced : Spares Live before (advance (Store.pollBelow cell) work after).2 := by
    refine advance_preserves (Spares Live before)
      (fun _ _ _ kept => ⟨kept.tied, kept.state_eq⟩) ?_ ?_ work work_tied after spares
    · intro store started allowed kept
      exact kept.start (allowed live)
    · intro store awaited allowed kept
      exact earlier awaited _ (allowed live) (kept.start (allowed live))
  refine ⟨within_modify advanced.tied cell fun _ _ => ?_, ?_⟩
  · exact CellState.within_ofRest
      (rest_within (fun store other => precedes_pollBelow cell other store) work_tied after)
  · intro other not_live
    have different : cell ≠ other := by
      rintro rfl
      exact not_live live
    rw [state?_modify, if_neg different]
    exact advanced.state_eq other not_live

theorem demand (spares : Spares Live before after) {cell : Nat} (live : Live cell) :
    Spares Live before (after.run (Computation.outcomeOf cell)).2 := by
  rw [run_outcomeOf_store]
  exact (spares.start live).pollBelow _ live

end Spares

end Store

end Lazy

end SymbolResolver

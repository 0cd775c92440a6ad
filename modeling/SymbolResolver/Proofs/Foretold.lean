import SymbolResolver.Proofs.Replays

/-!
# Foretold outcomes

A store foretells the outcomes of its first cells if every one of them is settled or about to end at
once. What a computation makes of such cells is a value that can be told beforehand
(`Computation.value?`), and running it gives this value whatever has run before
(`Foretold.advance`).
-/

namespace SymbolResolver

namespace Lazy

variable {ε ν α β : Type}

/-- What a computation comes to if the cells have given outcomes and a look shows nothing. -/
def Computation.value? (shown : Nat → Outcome ν) : Computation ε ν α → Option α
  | finish result => some result
  | breakOff => none
  | note _ next => next.value? shown
  | pass _ _ => none
  | start _ next => next.value? shown
  | await cell next => (next (shown cell)).value? shown
  | peek _ next => (next none).value? shown

/-- The scope of a computation that waits for cells before a limit, looks at the cell of the limit,
and comes to its end. -/
def direct (limit : Nat) : Scope ε :=
  { passed := fun _ => False
    started := fun _ => False
    awaited := (· < limit)
    looked := (· = limit)
    broken := False }

theorem Computation.exists_value? {limit : Nat} {work : Computation ε ν α}
    (within : work.Within (direct limit)) (shown : Nat → Outcome ν) :
    ∃ value, work.value? shown = some value := by
  induction work with
  | finish result => exact ⟨result, rfl⟩
  | breakOff => exact within.elim
  | note event next ih => exact ih within.2
  | pass gate next _ => exact within.1.elim
  | start cell next ih => exact ih within.2
  | await cell next ih => exact ih _ (within.2 _)
  | peek cell next ih => exact ih none (within.2 none)

theorem Computation.value?_bind (shown : Nat → Outcome ν) (work : Computation ε ν α)
    (continuation : α → Computation ε ν β) :
    (work.bind continuation).value? shown =
      (work.value? shown).bind fun result => (continuation result).value? shown := by
  induction work with
  | finish | breakOff | pass => rfl
  | note event next ih => exact ih
  | start cell next ih => exact ih
  | await cell next ih => exact ih (shown cell)
  | peek cell next ih => exact ih none

/-- The computation fails with the given error at most. -/
def Computation.FailsOnly (shown : Nat → Outcome ν) (fault : Option Error)
    (work : Computation ε ν (Outcome α)) : Prop :=
  ∀ error, work.value? shown = some (.error error) → fault = some error

theorem Computation.FailsOnly.andThen {shown : Nat → Outcome ν} {fault : Option Error}
    {work : Computation ε ν (Outcome α)} {continuation : α → Computation ε ν (Outcome β)}
    (fails_only : work.FailsOnly shown fault)
    (continued : ∀ value, work.value? shown = some (.ok value) →
      (continuation value).FailsOnly shown fault) :
    (work.andThen continuation).FailsOnly shown fault := by
  intro error failed
  rw [Computation.andThen, value?_bind] at failed
  rcases valued : work.value? shown with _ | (own_error | value)
  · simp [valued] at failed
  · rw [valued] at failed
    obtain rfl : own_error = error := by simpa [value?] using failed
    exact fails_only own_error valued
  · rw [valued] at failed
    exact continued value valued error failed

namespace Store

/-- The cells before a limit are settled with given outcomes or about to end with them, and the cell
of the limit is not settled. -/
structure Foretold (shown : Nat → Outcome ν) (limit : Nat) (store : Store ε ν) : Prop where
  ready : ∀ cell, cell < limit → store.state? cell = some (.pending (.finish (shown cell))) ∨
    store.state? cell = some (.settled (shown cell))
  unsettled : store.outcome? limit = none

namespace Foretold

variable {shown : Nat → Outcome ν} {limit : Nat} {store : Store ε ν}

/-- A store that has the same first cells foretells the same. -/
theorem of_same (foretold : Foretold shown limit store) {other : Store ε ν}
    (same : ∀ cell, cell ≤ limit → other.state? cell = store.state? cell) :
    Foretold shown limit other where
  ready cell before := by
    rw [same cell (Nat.le_of_lt before)]
    exact foretold.ready cell before
  unsettled := by
    rw [outcome?, same limit (Nat.le_refl limit)]
    exact foretold.unsettled

/-- Waiting for a cell before the limit settles it with its outcome and touches no other cell. -/
theorem await (foretold : Foretold shown limit store) {cell bound : Nat} (before : cell < limit)
    (inside : cell < bound) :
    let polled := Store.pollBelow bound cell (store.start cell)
    polled.outcome? cell = some (shown cell) ∧ Foretold shown limit polled ∧
      ∀ other, limit ≤ other → polled.state? other = store.state? other := by
  intro polled
  rcases foretold.ready cell before with pending | settled
  · have running : (store.start cell).state? cell = some (.running (.finish (shown cell))) := by
      rw [state?_start, if_pos rfl, pending]
      rfl
    have polled_eq : polled = (store.start cell).modify cell fun _ => .settled (shown cell) := by
      simp only [polled]
      rw [pollBelow_of_lt inside, pollBelow_of_running running]
      rfl
    have at_cell : polled.state? cell = some (.settled (shown cell)) := by
      rw [polled_eq, state?_modify, if_pos rfl, running, Option.map_some]
    have elsewhere : ∀ other, cell ≠ other → polled.state? other = store.state? other := by
      intro other different
      rw [polled_eq, state?_modify, if_neg different, state?_start, if_neg different]
    refine ⟨outcome?_eq_some_iff.mpr at_cell, ⟨?_, ?_⟩, ?_⟩
    · intro other other_before
      by_cases same : cell = other
      · exact same ▸ Or.inr at_cell
      · rw [elsewhere other same]
        exact foretold.ready other other_before
    · rw [outcome?, elsewhere limit (Nat.ne_of_lt before)]
      exact foretold.unsettled
    · intro other after
      exact elsewhere other (Nat.ne_of_lt (Nat.lt_of_lt_of_le before after))
  · have known := outcome?_eq_some_iff.mpr settled
    have unchanged : polled = store := by
      simp only [polled, start_of_settled known, pollBelow_of_settled known]
    rw [unchanged]
    exact ⟨known, foretold, fun _ _ => rfl⟩

/-- A direct computation comes to its value, whatever has run before, and touches no cell from the
limit on. -/
theorem advance {bound : Nat} (limit_le : limit ≤ bound) {work : Computation ε ν α}
    (within : work.Within (direct limit)) {value : α} (valued : work.value? shown = some value)
    (foretold : Foretold shown limit store) :
    ∃ after, Store.advance (Store.pollBelow bound) work store = (.finish value, after) ∧
      Foretold shown limit after ∧
      ∀ other, limit ≤ other → after.state? other = store.state? other := by
  induction work generalizing store with
  | finish result =>
      cases valued
      exact ⟨store, rfl, foretold, fun _ _ => rfl⟩
  | breakOff => exact within.elim
  | note event next ih => exact ih within.2 valued ⟨foretold.ready, foretold.unsettled⟩
  | pass gate next _ => exact within.1.elim
  | start cell next _ => exact within.1.elim
  | await cell next ih =>
      have before : cell < limit := within.1
      obtain ⟨known, polled_foretold, polled_kept⟩ :=
        foretold.await before (Nat.lt_of_lt_of_le before limit_le)
      obtain ⟨after, advanced, after_foretold, after_kept⟩ :=
        ih (shown cell) (within.2 _) valued polled_foretold
      refine ⟨after, ?_, after_foretold, fun other outside => ?_⟩
      · simp only [Store.advance, known]
        exact advanced
      · rw [after_kept other outside, polled_kept other outside]
  | peek cell next ih =>
      have at_limit : cell = limit := within.1
      obtain ⟨after, advanced, rest⟩ := ih none (within.2 none) valued foretold
      refine ⟨after, ?_, rest⟩
      simp only [Store.advance, at_limit, foretold.unsettled]
      exact advanced

end Foretold

end Store

end Lazy

end SymbolResolver

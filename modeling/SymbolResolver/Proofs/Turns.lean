import SymbolResolver.Lazy.Callers
import SymbolResolver.Proofs.Tracking

/-!
# Turns of pools

Between the requests of its users a pool only runs cells that exist. Its store goes on as stores do
(`Pool.turn_preserves`), and its callers keep asking for what they asked for: a caller that has
finished holds the outcome of its cell and keeps it (`Pool.Honest`, `Pool.Continues`).
-/

namespace SymbolResolver

namespace Lazy

variable {ε ν : Type}

/-- Waiting for a cell leaves no notes of its own. -/
theorem Computation.outcomeOf_within {scope : Scope ε} (cell : Nat) (awaited : scope.awaited cell) :
    (Computation.outcomeOf cell : Computation ε ν (Outcome ν)).Within scope :=
  ⟨awaited, fun _ => trivial⟩

/-! ## Callers -/

namespace Caller

/-- A caller goes on: it stays as it is, or stops waiting with the outcome of its cell or without.
-/
inductive Becomes (store : Store ε ν) : Caller ν → Caller ν → Prop
  | stay (caller : Caller ν) : Becomes store caller caller
  | finish {cell : Nat} {outcome : Outcome ν} :
      store.outcome? cell = some outcome → Becomes store (waiting cell) (finished cell outcome)
  | drop (cell : Nat) : Becomes store (waiting cell) (dropped cell)

namespace Becomes

variable {store later_store : Store ε ν} {caller middle later : Caller ν}

theorem mono (order : store.Precedes later_store) (becomes : Becomes store caller later) :
    Becomes later_store caller later := by
  cases becomes with
  | stay => exact .stay _
  | finish known => exact .finish (order.outcome_kept known)
  | drop cell => exact .drop cell

theorem trans (first : Becomes store caller middle) (second : Becomes store middle later) :
    Becomes store caller later := by
  cases first with
  | stay => exact second
  | finish known =>
      cases second
      exact .finish known
  | drop cell =>
      cases second
      exact .drop cell

/-- A caller asks for the same cell all the time. -/
theorem cell_eq (becomes : Becomes store caller later) : later.cell = caller.cell := by
  cases becomes <;> rfl

/-- A caller that has finished stays as it is. -/
theorem of_finished {cell : Nat} {outcome : Outcome ν}
    (becomes : Becomes store (finished cell outcome) later) : later = finished cell outcome := by
  cases becomes
  rfl

/-- A caller that waits has waited all the time. -/
theorem of_waiting {cell : Nat} (becomes : Becomes store caller (.waiting cell)) :
    caller = .waiting cell := by
  cases becomes
  rfl

end Becomes

theorem becomes_wake (store : Store ε ν) (caller : Caller ν) :
    Becomes store caller (caller.wake store) := by
  cases caller with
  | waiting cell =>
      cases known : store.outcome? cell with
      | none => simpa [wake, known] using Becomes.stay (waiting cell)
      | some outcome => simpa [wake, known] using Becomes.finish known
  | finished | dropped => exact .stay _

theorem becomes_drop (store : Store ε ν) (caller : Caller ν) :
    Becomes store caller caller.drop := by
  cases caller with
  | waiting cell => exact .drop cell
  | finished | dropped => exact .stay _

theorem awaited?_eq_some_iff {caller : Caller ν} {cell : Nat} :
    caller.awaited? = some cell ↔ caller = .waiting cell := by
  cases caller <;> simp [awaited?]

end Caller

/-! ## Pools -/

namespace Pool

/-- Every caller that has finished holds the outcome of its cell. -/
def Honest (pool : Pool ε ν) : Prop :=
  ∀ (number cell : Nat) (outcome : Outcome ν),
    pool.callers[number]? = some (.finished cell outcome) →
    pool.store.outcome? cell = some outcome

/-- A later pool: nothing in the store is lost, every caller goes on, and callers that were not
there before have started as callers do. -/
structure Continues (before after : Pool ε ν) : Prop where
  store : before.store.Precedes after.store
  /-- Callers are never removed. -/
  length_le : before.callers.length ≤ after.callers.length
  caller : ∀ (number : Nat) (later : Caller ν), after.callers[number]? = some later →
    ∃ caller, (before.callers[number]? = some caller ∨
      before.callers[number]? = none ∧ ∃ cell, caller = .waiting cell) ∧
      Caller.Becomes after.store caller later

namespace Continues

variable {before middle after : Pool ε ν}

theorem refl (pool : Pool ε ν) : Continues pool pool :=
  ⟨.refl pool.store, Nat.le_refl _, fun _ later found => ⟨later, Or.inl found, .stay later⟩⟩

theorem trans (first : Continues before middle) (second : Continues middle after) :
    Continues before after where
  store := first.store.trans second.store
  length_le := Nat.le_trans first.length_le second.length_le
  caller number later found := by
    obtain ⟨between, origin, becomes⟩ := second.caller number later found
    rcases origin with found_between | ⟨absent, new⟩
    · obtain ⟨caller, first_origin, first_becomes⟩ := first.caller number between found_between
      exact ⟨caller, first_origin, (first_becomes.mono second.store).trans becomes⟩
    · have absent_before : before.callers[number]? = none := by
        rw [List.getElem?_eq_none_iff] at absent ⊢
        exact Nat.le_trans first.length_le absent
      exact ⟨between, Or.inr ⟨absent_before, new⟩, becomes⟩

/-- A caller is found again under its number. -/
theorem find (continues : Continues before after) {number : Nat} {caller : Caller ν}
    (found : before.callers[number]? = some caller) :
    ∃ later, after.callers[number]? = some later ∧ Caller.Becomes after.store caller later := by
  have inside : number < after.callers.length :=
    Nat.lt_of_lt_of_le (List.getElem?_eq_some_iff.mp found).1 continues.length_le
  have found_later := List.getElem?_eq_getElem inside
  obtain ⟨origin, origin_found, becomes⟩ := continues.caller number _ found_later
  rcases origin_found with same | ⟨absent, _⟩
  · obtain rfl : origin = caller := Option.some.inj (same.symm.trans found)
    exact ⟨_, found_later, becomes⟩
  · simp [found] at absent

theorem honest (continues : Continues before after) (honest : before.Honest) : after.Honest := by
  intro number cell outcome found
  obtain ⟨caller, origin, becomes⟩ := continues.caller number _ found
  cases becomes with
  | stay =>
      rcases origin with found_before | ⟨_, _, impossible⟩
      · exact continues.store.outcome_kept (honest number cell outcome found_before)
      · cases impossible
  | finish known => exact known

end Continues

/-- The callers of a pool go on under a later executor. -/
theorem continues_of_executor {pool : Pool ε ν} {executor : Executor ε ν}
    (order : pool.store.Precedes executor.store) :
    Continues pool { pool with toExecutor := executor } :=
  ⟨order, Nat.le_refl _, fun _ later found => ⟨later, Or.inl found, .stay later⟩⟩

theorem continues_release (scheduling : Scheduling) (held : List Nat) (pool : Pool ε ν) :
    Continues pool (pool.release scheduling held) :=
  continues_of_executor (.refl pool.store)

theorem continues_demand (pool : Pool ε ν) (cell : Nat) : Continues pool (pool.demand cell) :=
  continues_of_executor (Store.precedes_run pool.store _)

theorem continues_enroll (pool : Pool ε ν) (cell : Nat) : Continues pool (pool.enroll cell) := by
  refine (pool.continues_demand cell).trans ⟨.refl _, by simp [enroll], ?_⟩
  intro number later found
  simp only [enroll, List.getElem?_append] at found
  split at found
  · exact ⟨later, Or.inl found, .stay later⟩
  · next outside =>
    refine ⟨.waiting cell, Or.inr ⟨List.getElem?_eq_none (Nat.le_of_not_lt outside), cell, rfl⟩, ?_⟩
    rw [List.mem_singleton.mp (List.mem_of_getElem? found)]
    exact Caller.becomes_wake _ _

/-- The new caller asks for the given cell. -/
theorem caller_enroll (pool : Pool ε ν) (cell : Nat) :
    ∃ caller, (pool.enroll cell).callers[pool.callers.length]? = some caller ∧
      caller.cell = cell := by
  refine ⟨Caller.wake (pool.demand cell).store (.waiting cell), by simp [enroll, demand], ?_⟩
  exact (Caller.becomes_wake (pool.demand cell).store (.waiting cell)).cell_eq

/-- The rule for callers is applied to one of them. -/
theorem continues_modify (pool : Pool ε ν) (number : Nat) {change : Caller ν → Caller ν}
    (becomes : ∀ caller : Caller ν, Caller.Becomes pool.store caller (change caller)) :
    Continues pool { pool with callers := pool.callers.modify number change } where
  store := .refl pool.store
  length_le := by simp
  caller other later found := by
    simp only [List.getElem?_modify] at found
    obtain ⟨caller, found_before, rfl⟩ := Option.map_eq_some_iff.mp found
    refine ⟨caller, Or.inl found_before, ?_⟩
    split
    · exact becomes caller
    · exact .stay caller

theorem continues_resume (pool : Pool ε ν) (number : Nat) :
    Continues pool (pool.resume number) := by
  unfold resume
  split
  · next cell _ =>
    exact (pool.continues_demand cell).trans
      (continues_modify _ number (Caller.becomes_wake (pool.demand cell).store))
  · exact .refl pool

theorem continues_wake (pool : Pool ε ν) : Continues pool pool.wake where
  store := .refl pool.store
  length_le := by simp [wake]
  caller number later found := by
    simp only [wake, List.getElem?_map] at found
    obtain ⟨caller, found_before, rfl⟩ := Option.map_eq_some_iff.mp found
    exact ⟨caller, Or.inl found_before, Caller.becomes_wake pool.store caller⟩

theorem continues_turn (scheduling : Scheduling) (held : List Nat) (pool : Pool ε ν) (turn : Turn) :
    Continues pool (pool.turn scheduling held turn) := by
  cases turn with
  | openGate gate => exact continues_of_executor (Store.precedes_openGate pool.store gate)
  | resume caller => exact pool.continues_resume caller
  | drop caller => exact pool.continues_modify caller (Caller.becomes_drop pool.store)
  | task cell => exact continues_of_executor (Executor.precedes_runTask scheduling _ cell)
  | settle =>
      exact (continues_of_executor (Executor.precedes_settle scheduling _ _)).trans
        (continues_wake _)

/-! ## Waiting callers -/

theorem mem_awaited_iff {pool : Pool ε ν} {cell : Nat} :
    cell ∈ pool.awaited ↔ ∃ number : Nat, pool.callers[number]? = some (.waiting cell) := by
  simp only [awaited, List.mem_filterMap, Caller.awaited?_eq_some_iff, exists_eq_right]
  exact List.mem_iff_getElem?

theorem length_turn (scheduling : Scheduling) (held : List Nat) (pool : Pool ε ν) (turn : Turn) :
    (pool.turn scheduling held turn).callers.length = pool.callers.length := by
  cases turn with
  | openGate gate => rfl
  | resume caller =>
      simp only [Pool.turn, resume]
      split <;> simp [demand]
  | drop caller => simp [Pool.turn, drop]
  | task cell => rfl
  | settle => simp [Pool.turn, settle, wake]

/-- A turn lets nobody wait who did not wait before. -/
theorem awaited_turn {scheduling : Scheduling} {held : List Nat} {pool : Pool ε ν} {turn : Turn}
    {cell : Nat} (member : cell ∈ (pool.turn scheduling held turn).awaited) :
    cell ∈ pool.awaited := by
  obtain ⟨number, waits⟩ := mem_awaited_iff.mp member
  obtain ⟨caller, origin, becomes⟩ :=
    (continues_turn scheduling held pool turn).caller number _ waits
  rcases origin with before | ⟨absent, _⟩
  · rw [becomes.of_waiting] at before
    exact mem_awaited_iff.mpr ⟨number, before⟩
  · have inside := (List.getElem?_eq_some_iff.mp waits).1
    rw [length_turn] at inside
    exact absurd (List.getElem?_eq_none_iff.mp absent) (Nat.not_le.mpr inside)

/-- A new caller waits for nothing but its own cell. -/
theorem awaited_enroll {pool : Pool ε ν} {asked cell : Nat}
    (member : cell ∈ (pool.enroll asked).awaited) : cell ∈ pool.awaited ∨ cell = asked := by
  obtain ⟨number, waits⟩ := mem_awaited_iff.mp member
  simp only [enroll, List.getElem?_append] at waits
  split at waits
  · exact Or.inl (mem_awaited_iff.mpr ⟨number, waits⟩)
  · have becomes := Caller.becomes_wake (pool.demand asked).store (.waiting asked)
    rw [← List.mem_singleton.mp (List.mem_of_getElem? waits)] at becomes
    exact Or.inr (Caller.waiting.inj becomes.of_waiting).symm

/-- A caller keeps waiting for a cell that has no outcome. -/
theorem mem_awaited_wake {pool : Pool ε ν} {cell : Nat} (waits : cell ∈ pool.awaited)
    (unsettled : pool.store.isSettled cell = false) : cell ∈ pool.wake.awaited := by
  obtain ⟨number, found⟩ := mem_awaited_iff.mp waits
  refine mem_awaited_iff.mpr ⟨number, ?_⟩
  have unknown : pool.store.outcome? cell = none := by
    cases known : pool.store.outcome? cell with
    | none => rfl
    | some outcome => simp [Store.isSettled_iff.mpr ⟨outcome, known⟩] at unsettled
  simp [wake, found, Caller.wake, unknown]

/-! ## Stores of pools -/

section Stores

variable (Kept : Store ε ν → Prop)
  (run_kept : ∀ store cell, Kept store → Kept (store.run (Computation.outcomeOf cell)).2)

include run_kept

/-- What waiting, polling and opening gates preserve, every turn preserves. -/
theorem turn_preserves (poll_kept : ∀ store cell, Kept store → Kept (store.poll cell))
    (gate_kept : ∀ store gate, Kept store → Kept (store.openGate gate))
    (scheduling : Scheduling) (held : List Nat) (pool : Pool ε ν) (turn : Turn)
    (kept : Kept pool.store) : Kept (pool.turn scheduling held turn).store := by
  cases turn with
  | openGate gate => exact gate_kept pool.store gate kept
  | resume caller =>
      simp only [Pool.turn, resume]
      split
      · next cell _ => exact run_kept pool.store cell kept
      · exact kept
  | drop caller => exact kept
  | task cell => exact Executor.runTask_preserves Kept poll_kept scheduling _ cell kept
  | settle => exact Executor.settle_preserves Kept poll_kept scheduling _ _ kept

end Stores

/-- Turns make no cells. -/
theorem size_turn (scheduling : Scheduling) (held : List Nat) (pool : Pool ε ν) (turn : Turn) :
    (pool.turn scheduling held turn).store.size = pool.store.size :=
  turn_preserves (fun store => store.size = pool.store.size)
    (fun _ _ kept => (Store.size_run _ _).trans kept)
    (fun _ _ kept => (Store.size_pollBelow _ _ _).trans kept) (fun _ _ kept => kept) scheduling held
    pool turn rfl

end Pool

end Lazy

end SymbolResolver

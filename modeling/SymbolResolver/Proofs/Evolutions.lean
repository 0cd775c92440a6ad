import Mathlib.Logic.Relation
import SymbolResolver.Proofs.Collections
import SymbolResolver.Proofs.Ledgers

/-!
# Evolving stores

Everything that can happen to a store happens in steps: a new cell is made, a computation runs, a
cell gets a turn, or a gate is opened. A store evolves into another by any number of steps
(`Store.Evolves`). Whatever the steps are, nothing that was known is lost, and every cell goes on
where its own computation was left (`Store.Onward`). So it can be said of a cell for good which
computation it was made for (`Store.Holds`), and of a collection which sources it was built from
(`Collection.Built`).
-/

namespace SymbolResolver

namespace Lazy

variable {ε ν α : Type}

namespace Store

/-! ## Steps -/

/-- What can happen to a store at a time. -/
inductive Step (before : Store ε ν) : Store ε ν → Prop
  /-- A new cell is made. -/
  | allocate (state : CellState ε ν) (needed : List Nat) :
      Step before (before.allocate state needed).2
  /-- Someone runs a computation. -/
  | run {γ : Type} (work : Computation ε ν γ) : Step before (before.run work).2
  /-- A cell gets a turn. -/
  | poll (cell : Nat) : Step before (before.poll cell)
  /-- A gate is opened. -/
  | openGate (gate : String) : Step before (before.openGate gate)

/-- Any number of things have happened to a store. -/
def Evolves : Store ε ν → Store ε ν → Prop := Relation.ReflTransGen Step

/-- Nothing is lost from one store to another, and every cell has gone on by one run. -/
structure Onward (before after : Store ε ν) : Prop where
  order : before.Precedes after
  advances : ∀ cell state, before.state? cell = some state →
    ∃ trace later, after.state? cell = some later ∧ state.Advances after trace later

namespace Onward

variable {before middle after : Store ε ν}

theorem of_ledger {traces : Nat → List ε} {extra : List ε}
    (ledger : Ledger traces extra before after) : before.Onward after :=
  ⟨ledger.order, fun cell state found => ⟨traces cell, ledger.advances cell state found⟩⟩

theorem refl (store : Store ε ν) : store.Onward store := .of_ledger (.refl store)

theorem trans (first : before.Onward middle) (second : middle.Onward after) :
    before.Onward after where
  order := first.order.trans second.order
  advances cell state found := by
    obtain ⟨trace, between, found_between, advances⟩ := first.advances cell state found
    obtain ⟨more, later, found_later, advances_on⟩ := second.advances cell between found_between
    exact ⟨_, later, found_later, (advances.mono second.order).trans advances_on⟩

theorem record (store : Store ε ν) (event : ε) : store.Onward (store.record event) :=
  .of_ledger (.record store event)

theorem start (store : Store ε ν) (cell : Nat) : store.Onward (store.start cell) :=
  .of_ledger (.start store cell)

theorem pollBelow (bound cell : Nat) (store : Store ε ν) :
    store.Onward (Store.pollBelow bound cell store) := by
  obtain ⟨_, ledger⟩ := Ledger.pollBelow bound cell store
  exact .of_ledger ledger

end Onward

theorem Step.onward {before after : Store ε ν} (step : before.Step after) :
    before.Onward after := by
  cases step with
  | allocate state needed =>
      have appends := Appends.allocate before state needed
      refine ⟨appends.precedes, fun cell found at_cell => ⟨[], found, ?_, .refl _ found⟩⟩
      rw [appends.state?_of_lt (lt_size_of_state? at_cell), at_cell]
  | run work =>
      obtain ⟨_, _, ledger, _⟩ :=
        Ledger.advance (fun cell store => Ledger.pollBelow _ cell store) work before
      exact .of_ledger ledger
  | poll cell => exact .pollBelow _ cell before
  | openGate gate => exact .of_ledger (.openGate before gate)

namespace Evolves

variable {before middle after : Store ε ν}

theorem refl (store : Store ε ν) : store.Evolves store := Relation.ReflTransGen.refl

theorem trans (first : before.Evolves middle) (second : middle.Evolves after) :
    before.Evolves after := Relation.ReflTransGen.trans first second

theorem step (evolves : before.Evolves middle) (step : middle.Step after) :
    before.Evolves after := evolves.tail step

/-- What every step preserves, evolving preserves. -/
theorem preserves {Kept : Store ε ν → Prop} (evolves : before.Evolves after)
    (step_kept : ∀ {middle later}, Step middle later → Kept middle → Kept later)
    (kept : Kept before) : Kept after := by
  induction evolves with
  | refl => exact kept
  | tail _ step ih => exact step_kept step ih

theorem onward (evolves : before.Evolves after) : before.Onward after :=
  evolves.preserves (fun step onward => onward.trans step.onward) (.refl before)

theorem order (evolves : before.Evolves after) : before.Precedes after := evolves.onward.order

theorem run (evolves : before.Evolves middle) (work : Computation ε ν α) :
    before.Evolves (middle.run work).2 := evolves.step (.run work)

end Evolves

/-! ## What cells were made for -/

/-- A cell was made for a computation and has gone on with it since. -/
def Holds (store : Store ε ν) (cell : Nat) (work : Computation ε ν (Outcome ν)) : Prop :=
  ∃ trace state, store.state? cell = some state ∧
    (CellState.pending work).Advances store trace state

theorem holds_defer (store : Store ε ν) (work : Computation ε ν (Outcome ν)) (needed : List Nat) :
    (store.defer work needed).2.Holds store.size work :=
  ⟨[], .pending work, by rw [defer, state?_allocate, if_pos rfl], .refl _ _⟩

namespace Holds

variable {store later : Store ε ν} {cell : Nat} {work : Computation ε ν (Outcome ν)}

theorem onward (holds : store.Holds cell work) (onward : store.Onward later) :
    later.Holds cell work := by
  obtain ⟨trace, state, found, advances⟩ := holds
  obtain ⟨more, state_later, found_later, advances_on⟩ := onward.advances cell state found
  exact ⟨_, state_later, found_later, (advances.mono onward.order).trans advances_on⟩

theorem evolves (holds : store.Holds cell work) (evolves : store.Evolves later) :
    later.Holds cell work := holds.onward evolves.onward

theorem inside (holds : store.Holds cell work) : cell < store.size := by
  obtain ⟨_, _, found, _⟩ := holds
  exact lt_size_of_state? found

end Holds

end Store

/-! ## Collections of a store -/

namespace Collection

/-! ### Arranging twice -/

/-- Arranging keeps the order inside a priority. -/
theorem filter_arrange (rank : Priority) (sources : List (Source α)) :
    (arrange sources).filter (·.priority == rank) = sources.filter (·.priority == rank) := by
  have same_tier : ∀ tier : Priority, (sources.filter (·.priority == tier)).filter
      (·.priority == rank) = if tier = rank then sources.filter (·.priority == rank) else [] := by
    intro tier
    rw [List.filter_filter]
    split
    · next same => simp [same]
    · next different =>
      rw [List.filter_eq_nil_iff]
      intro source _ both
      rw [Bool.and_eq_true, beq_iff_eq, beq_iff_eq] at both
      exact different (both.2.symm.trans both.1)
  rw [arrange, List.filter_append, List.filter_append, same_tier, same_tier, same_tier]
  cases rank <;> simp

/-- Only the order inside each priority matters. -/
theorem arrange_congr {left right : List (Source α)}
    (same : ∀ rank, left.filter (·.priority == rank) = right.filter (·.priority == rank)) :
    arrange left = arrange right := by
  rw [arrange, arrange, same, same, same]

theorem arrange_arrange (sources : List (Source α)) :
    arrange (arrange sources) = arrange sources :=
  arrange_congr fun rank => filter_arrange rank sources

theorem arrange_append_left (left right : List (Source α)) :
    arrange (arrange left ++ right) = arrange (left ++ right) :=
  arrange_congr fun rank => by rw [List.filter_append, filter_arrange, List.filter_append]

theorem arrange_append_right (left right : List (Source α)) :
    arrange (left ++ arrange right) = arrange (left ++ right) :=
  arrange_congr fun rank => by rw [List.filter_append, filter_arrange, List.filter_append]

/-! ### Built collections -/

variable [Listed ν α] [BEq α]

/-- A collection was built from sources that were there, and the store has evolved since. -/
def Built (store : Store ε ν) (collection : Collection α) : Prop :=
  ∃ earlier registered, (∀ source ∈ registered, source.cell < earlier.size) ∧
    (build earlier registered).1 = collection ∧ (build earlier registered).2.Evolves store

theorem built_build {store : Store ε ν} {registered : List (Source α)}
    (inside : ∀ source ∈ registered, source.cell < store.size) :
    (build store registered).1.Built (build store registered).2 :=
  ⟨store, registered, inside, rfl, .refl _⟩

namespace Built

variable {store later : Store ε ν} {collection : Collection α}

theorem evolves (built : collection.Built store) (evolves : store.Evolves later) :
    collection.Built later := by
  obtain ⟨earlier, registered, inside, made, since⟩ := built
  exact ⟨earlier, registered, inside, made, since.trans evolves⟩

theorem arranged (built : collection.Built store) :
    arrange collection.sources = collection.sources := by
  obtain ⟨_, registered, _, rfl, _⟩ := built
  exact arrange_arrange registered

/-- The merged list waits for the sources, as it was made to. -/
theorem holds (built : collection.Built store) :
    store.Holds collection.merged (mergeWork collection.sources) := by
  obtain ⟨earlier, registered, _, rfl, since⟩ := built
  exact (earlier.holds_defer _ _).evolves since

/-- The sources were there before the merged list. -/
theorem earlier (built : collection.Built store) :
    ∀ source ∈ collection.sources, source.cell < collection.merged := by
  obtain ⟨_, _, inside, rfl, _⟩ := built
  exact fun source member => inside source (mem_arrange.mp member)

theorem inside (built : collection.Built store) :
    ∀ source ∈ collection.sources, source.cell < store.size :=
  fun source member => Nat.lt_trans (built.earlier source member) built.holds.inside

end Built

end Collection

end Lazy

end SymbolResolver

import SymbolResolver.Proofs.Standstills

/-!
# Reading in order

Computations that wait for the cells of one list in its order do not get in each other's way. Each of
them takes some way along the list, and whoever comes later finds the cells of that way settled, or
the last of them still held up. Waiting for the whole list first makes no difference to any of them
(`Store.absorbs`), and so none of them makes a difference to another (`Store.advance_independent`),
whatever the cells do when they are run.
-/

namespace SymbolResolver

namespace Lazy

variable {ε ν α β : Type}

namespace Computation

/-- Waits for cells in their order until one of them has no success. -/
def readAll : List Nat → Computation ε ν (Outcome Unit)
  | [] => .finish (.ok ())
  | cell :: cells =>
    .await cell fun
      | .ok _ => readAll cells
      | .error error => .finish (.error error)

theorem readAll_within {scope : Scope ε} {cells : List Nat}
    (awaited : ∀ cell ∈ cells, scope.awaited cell) :
    (readAll cells : Computation ε ν (Outcome Unit)).Within scope := by
  induction cells with
  | nil => trivial
  | cons cell cells ih =>
      rw [List.forall_mem_cons] at awaited
      refine ⟨awaited.1, fun outcome => ?_⟩
      cases outcome with
      | ok value => exact ih awaited.2
      | error error => trivial

/-- A computation waits for cells in the order of a list. The first ones, as many as given, have been
read with success; it waits for one of these again, or for the next one. It waits at no gates. -/
def InOrder (cells : List Nat) : Computation ε ν α → Nat → Prop
  | finish _, _ | breakOff, _ => True
  | note _ next, read | start _ next, read => next.InOrder cells read
  | pass _ _, _ => False
  | await cell next, read => ∃ position ≤ read, cells[position]? = some cell ∧
      (∀ value, (next (.ok value)).InOrder cells (max read (position + 1))) ∧
      ∀ error, (next (.error error)).InOrder cells read
  | peek _ next, read => ∀ seen, (next seen).InOrder cells read

/-- Nothing is wrong with having read more. -/
theorem InOrder.mono {cells : List Nat} {work : Computation ε ν α} {read more : Nat}
    (in_order : work.InOrder cells read) (le : read ≤ more) : work.InOrder cells more := by
  induction work generalizing read more with
  | finish | breakOff => trivial
  | note event next ih => exact ih in_order le
  | start cell next ih => exact ih in_order le
  | pass gate next => exact in_order.elim
  | await cell next ih =>
      obtain ⟨position, reached, found, succeeded, failed⟩ := in_order
      exact ⟨position, Nat.le_trans reached le, found,
        fun value => ih _ (succeeded value) (by omega), fun error => ih _ (failed error) le⟩
  | peek cell next ih => exact fun seen => ih seen (in_order seen) le

theorem InOrder.bind {cells : List Nat} {work : Computation ε ν α} {read : Nat}
    (in_order : work.InOrder cells read) {continuation : α → Computation ε ν β}
    (continued : ∀ result, (continuation result).InOrder cells 0) :
    (work.bind continuation).InOrder cells read := by
  induction work generalizing read with
  | finish result => exact (continued result).mono (Nat.zero_le read)
  | breakOff => trivial
  | note event next ih => exact ih in_order
  | start cell next ih => exact ih in_order
  | pass gate next => exact in_order.elim
  | await cell next ih =>
      obtain ⟨position, reached, found, succeeded, failed⟩ := in_order
      exact ⟨position, reached, found, fun value => ih _ (succeeded value),
        fun error => ih _ (failed error)⟩
  | peek cell next ih => exact fun seen => ih seen (in_order seen)

theorem InOrder.andThen {cells : List Nat} {work : Computation ε ν (Outcome α)} {read : Nat}
    (in_order : work.InOrder cells read) {continuation : α → Computation ε ν (Outcome β)}
    (continued : ∀ value, (continuation value).InOrder cells 0) :
    (work.andThen continuation).InOrder cells read := by
  refine in_order.bind fun outcome => ?_
  cases outcome with
  | ok value => exact continued value
  | error error => trivial

end Computation

namespace Store

/-! ## Cells that have been read -/

/-- The first cells of a list have succeeded. -/
def HasRead (store : Store ε ν) (cells : List Nat) (read : Nat) : Prop :=
  ∀ position < read, ∀ cell, cells[position]? = some cell →
    ∃ value, store.outcome? cell = some (.ok value)

theorem HasRead.later {store later : Store ε ν} {cells : List Nat} {read : Nat}
    (has_read : store.HasRead cells read) (order : store.Precedes later) :
    later.HasRead cells read := by
  intro position before cell found
  obtain ⟨value, known⟩ := has_read position before cell found
  exact ⟨value, order.outcome_kept known⟩

section Awaiting

variable {bound cell : Nat} {store : Store ε ν} (next : Outcome ν → Computation ε ν α)

theorem advance_await_of_polled {outcome : Outcome ν}
    (known : (pollBelow bound cell (store.start cell)).outcome? cell = some outcome) :
    advance (pollBelow bound) (.await cell next) store =
      advance (pollBelow bound) (next outcome) (pollBelow bound cell (store.start cell)) := by
  simp only [advance, known]

theorem advance_await_of_unknown
    (unknown : (pollBelow bound cell (store.start cell)).outcome? cell = none) :
    advance (pollBelow bound) (.await cell next) store =
      (.await cell next, pollBelow bound cell (store.start cell)) := by
  simp only [advance, unknown]

theorem advance_await_of_known {outcome : Outcome ν}
    (known : store.outcome? cell = some outcome) :
    advance (pollBelow bound) (.await cell next) store =
      advance (pollBelow bound) (next outcome) store := by
  simp only [advance, start_of_settled known, pollBelow_of_settled known, known]

end Awaiting

/-- Cells that have been read are read again at no cost. -/
theorem advance_readAll_of_read {bound : Nat} {store : Store ε ν} {cells : List Nat} {read : Nat}
    (has_read : store.HasRead cells read) :
    advance (pollBelow bound) (.readAll cells) store =
      advance (pollBelow bound) (.readAll (cells.drop read)) store := by
  induction read generalizing cells with
  | zero => rfl
  | succ read ih =>
      cases cells with
      | nil => rfl
      | cons cell cells =>
          obtain ⟨value, known⟩ := has_read 0 (Nat.succ_pos read) cell rfl
          have others_read : store.HasRead cells read :=
            fun position before other found => has_read (position + 1) (by omega) other found
          rw [Computation.readAll, advance_await_of_known _ known]
          exact ih others_read

/-- Running a computation makes no cells. -/
theorem size_advance (bound : Nat) (work : Computation ε ν α) (store : Store ε ν) :
    (advance (pollBelow bound) work store).2.size = store.size :=
  advance_preserves (fun later => later.size = store.size) (fun _ _ _ kept => kept)
    (fun later cell _ kept => (later.size_start cell).trans kept)
    (fun later cell _ kept =>
      (size_pollBelow bound cell _).trans ((later.size_start cell).trans kept))
    work work.within_all store rfl

/-- What waiting for cells in their order leaves behind. -/
def swept (bound : Nat) (cells : List Nat) (store : Store ε ν) : Store ε ν :=
  (advance (pollBelow bound) (.readAll cells) store).2

theorem precedes_swept (bound : Nat) (cells : List Nat) (store : Store ε ν) :
    store.Precedes (store.swept bound cells) :=
  precedes_advance (fun store cell => precedes_pollBelow bound cell store) _ store

section Sweeping

variable {bound limit read : Nat} {cells : List Nat} {store : Store ε ν}

/-- A cell that has been run and has no outcome does not move when it is run once more. -/
theorem poll_again (ordered : store.Ordered) (size_eq : store.size = bound) {cell : Nat}
    (inside : cell < bound)
    (unknown : (pollBelow bound cell (store.start cell)).outcome? cell = none) :
    let polled := pollBelow bound cell (store.start cell)
    pollBelow bound cell (polled.start cell) = polled := by
  intro polled
  have is_started : (store.start cell).isStarted cell = true := by
    obtain ⟨state, found⟩ := exists_state?_of_lt (size_eq ▸ inside : cell < store.size)
    rw [isStarted_iff, state?_start, if_pos rfl, found]
    refine ⟨state.started, rfl, ?_⟩
    cases state <;> rfl
  have rests : polled.Rests cell := by
    refine rests_pollBelow (within_start ordered cell) ?_ inside is_started
    exact Nat.le_of_eq ((size_start store cell).trans size_eq).symm
  have held_up : polled.HeldUp cell := by
    refine rests.resolve_left fun settled => ?_
    obtain ⟨outcome, known⟩ := isSettled_iff.mp settled
    rw [unknown] at known
    cases known
  obtain ⟨work, running⟩ := held_up.exists_running
  rw [start_of_running running, held_up.pollBelow_eq]

/-- Where the next cell of the list has been run, waiting for the whole list comes to the same as
before. -/
theorem swept_polled (ordered : store.Ordered) (size_eq : store.size = bound)
    (has_read : store.HasRead cells read) {cell : Nat} (found : cells[read]? = some cell)
    (inside : cell < bound) :
    let polled := pollBelow bound cell (store.start cell)
    polled.swept bound cells = store.swept bound cells ∧
      (polled.outcome? cell = none → store.swept bound cells = polled) := by
  intro polled
  have order : store.Precedes polled :=
    (precedes_start store cell).trans (precedes_pollBelow bound cell _)
  obtain ⟨in_list, rfl⟩ := List.getElem?_eq_some_iff.mp found
  have from_here : ∀ {later : Store ε ν}, later.HasRead cells read → later.swept bound cells =
      (advance (pollBelow bound) (.readAll (cells[read] :: cells.drop (read + 1))) later).2 := by
    intro later later_read
    rw [swept, advance_readAll_of_read later_read, List.drop_eq_getElem_cons in_list]
  rw [from_here has_read, from_here (has_read.later order), Computation.readAll]
  cases known : polled.outcome? cells[read] with
  | none =>
      have unmoved := poll_again ordered size_eq inside known
      have unknown : (pollBelow bound cells[read] (polled.start cells[read])).outcome?
          cells[read] = none := unmoved ▸ known
      rw [advance_await_of_unknown _ known, advance_await_of_unknown _ unknown, unmoved]
      exact ⟨rfl, fun _ => rfl⟩
  | some outcome =>
      rw [advance_await_of_polled _ known, advance_await_of_known _ known]
      exact ⟨rfl, nofun⟩

/-- A computation that refers to cells before the bound runs alike in stores that differ in their
notes only. -/
theorem Twins.same_run {plain noted : Store ε ν} (twins : Twins bound [] plain noted)
    {work : Computation ε ν α} (within : work.Within (below bound)) :
    (Store.advance (Store.pollBelow bound) work plain).1 =
        (Store.advance (Store.pollBelow bound) work noted).1 ∧
      Twins bound [] (Store.advance (Store.pollBelow bound) work plain).2
        (Store.advance (Store.pollBelow bound) work noted).2 :=
  twins.advance (Twins.poll (Nat.le_refl bound) (Nat.le_refl bound)) within

/-- Whoever reads in order could as well find the whole list waited for, and leaves it to others to
wait for the list as before. -/
theorem absorbs {work : Computation ε ν α} (in_order : work.InOrder cells read)
    (within : work.Within (reading limit bound)) (limit_le : limit ≤ bound)
    (cells_before : ∀ cell ∈ cells, cell < limit) (ordered : store.Ordered)
    (size_eq : store.size = bound) (has_read : store.HasRead cells read) :
    let ran := advance (pollBelow bound) work store
    Twins bound [] (store.swept bound cells) (ran.2.swept bound cells) ∧
      (advance (pollBelow bound) work (store.swept bound cells)).1 = ran.1 := by
  have sweeping : (Computation.readAll cells : Computation ε ν (Outcome Unit)).Within
      (reading limit bound) := Computation.readAll_within cells_before
  have unchanged : ∀ {later : Store ε ν}, later.Ordered → later.size = bound →
      Twins bound [] (later.swept bound cells) (later.swept bound cells) := by
    intro later later_ordered later_size
    exact ⟨(size_advance bound _ later).trans later_size,
      (reader_course later_ordered sweeping bound).1.ordered, (List.append_nil _).symm, rfl⟩
  induction work generalizing store read with
  | finish result => exact ⟨unchanged ordered size_eq, rfl⟩
  | breakOff => exact ⟨unchanged ordered size_eq, rfl⟩
  | note event next ih =>
      obtain ⟨left_alone, same⟩ :=
        @ih read (store.record event) in_order within.2 ordered size_eq has_read
      have noted : Twins bound [] store (store.record event) :=
        ⟨size_eq, ordered, (List.append_nil _).symm, rfl⟩
      have swept_noted := (noted.same_run (sweeping.mono (reading_le_below limit_le))).2
      refine ⟨swept_noted.trans left_alone, Eq.trans ?_ same⟩
      exact ((swept_noted.with_notes ((store.swept bound cells).notes ++ [event]) _).same_run
        (within.2.mono (reading_le_below limit_le))).1
  | pass gate next => exact in_order.elim
  | start cell next => exact within.1.elim
  | peek cell next ih =>
      obtain ⟨framed, -⟩ := reader_course ordered sweeping bound
      have shown : (store.swept bound cells).outcome? cell = store.outcome? cell := by
        rw [outcome?, swept, framed.kept cell within.1.1, outcome?]
      simp only [advance, shown]
      exact ih _ (in_order _) (within.2 _) ordered size_eq has_read
  | await cell next ih =>
      obtain ⟨position, reached, found, succeeded, failed⟩ := in_order
      have inside : cell < bound := Nat.lt_of_lt_of_le within.1 limit_le
      rcases Nat.lt_or_eq_of_le reached with before | rfl
      · -- The cell has been read, and reading it again changes nothing.
        obtain ⟨value, known⟩ := has_read position before cell found
        have swept_known := (precedes_swept bound cells store).outcome_kept known
        have still_read : max read (position + 1) = read := by omega
        rw [advance_await_of_known _ known, advance_await_of_known _ swept_known]
        exact ih _ (still_read ▸ succeeded value) (within.2 _) ordered size_eq has_read
      · -- The cell is the next one, and waiting for the whole list would run it first of all.
        let polled := pollBelow bound cell (store.start cell)
        have polled_ordered : polled.Ordered :=
          within_pollBelow bound cell (within_start ordered cell)
        have polled_size : polled.size = bound :=
          (size_pollBelow bound cell _).trans ((size_start store cell).trans size_eq)
        have polled_read : polled.HasRead cells position :=
          has_read.later ((precedes_start store cell).trans (precedes_pollBelow bound cell _))
        obtain ⟨same_sweep, stuck⟩ := swept_polled ordered size_eq has_read found inside
        cases known : polled.outcome? cell with
        | none =>
            have unmoved := poll_again ordered size_eq inside known
            have unknown : (pollBelow bound cell (polled.start cell)).outcome? cell = none :=
              unmoved ▸ known
            rw [advance_await_of_unknown _ known, stuck known, advance_await_of_unknown _ unknown]
            have polled_swept : polled.swept bound cells = polled := same_sweep.trans (stuck known)
            exact ⟨polled_swept ▸ unchanged polled_ordered polled_size, rfl⟩
        | some outcome =>
            have swept_known := (precedes_swept bound cells polled).outcome_kept known
            rw [advance_await_of_polled _ known, ← same_sweep,
              advance_await_of_known _ swept_known]
            cases outcome with
            | error error =>
                exact ih _ (failed error) (within.2 _) polled_ordered polled_size polled_read
            | ok value =>
                refine ih _ (succeeded value) (within.2 _) polled_ordered polled_size ?_
                intro index index_lt other at_index
                rcases Nat.lt_or_eq_of_le (by omega : index ≤ position) with earlier | rfl
                · exact polled_read index earlier other at_index
                · obtain rfl : cell = other := Option.some.inj (found.symm.trans at_index)
                  exact ⟨value, known⟩

/-- Of two computations that read in order, the second one comes equally far with and without the
first one before it. -/
theorem advance_independent {first : Computation ε ν α} {second : Computation ε ν β}
    (first_in_order : first.InOrder cells 0) (second_in_order : second.InOrder cells 0)
    (first_within : first.Within (reading limit bound))
    (second_within : second.Within (reading limit bound)) (limit_le : limit ≤ bound)
    (cells_before : ∀ cell ∈ cells, cell < limit) (ordered : store.Ordered)
    (size_eq : store.size = bound) :
    (advance (pollBelow bound) second (advance (pollBelow bound) first store).2).1 =
      (advance (pollBelow bound) second store).1 := by
  have nothing_read : ∀ later : Store ε ν, later.HasRead cells 0 := by
    intro later position impossible
    exact absurd impossible (Nat.not_lt_zero position)
  let ran := (advance (pollBelow bound) first store).2
  have ran_ordered : ran.Ordered := (reader_course ordered first_within bound).1.ordered
  have ran_size : ran.size = bound := (size_advance bound first store).trans size_eq
  obtain ⟨left_alone, -⟩ :=
    absorbs first_in_order first_within limit_le cells_before ordered size_eq (nothing_read store)
  obtain ⟨-, alone⟩ :=
    absorbs second_in_order second_within limit_le cells_before ordered size_eq (nothing_read store)
  obtain ⟨-, afterwards⟩ :=
    absorbs second_in_order second_within limit_le cells_before ran_ordered ran_size
      (nothing_read ran)
  calc (advance (pollBelow bound) second ran).1
      = (advance (pollBelow bound) second (ran.swept bound cells)).1 := afterwards.symm
    _ = (advance (pollBelow bound) second (store.swept bound cells)).1 :=
        (left_alone.same_run (second_within.mono (reading_le_below limit_le))).1.symm
    _ = (advance (pollBelow bound) second store).1 := alone

end Sweeping

end Store

end Lazy

end SymbolResolver

import SymbolResolver.Proofs.Replays

/-!
# Standstills

A started cell that has been run comes to rest: it has an outcome, or a closed gate holds it up. The
gate may be one of its own or of a cell that it waits for, directly or through others
(`Store.HeldUp`). A cell that is held up does not move however often it and others are run, so it
stays at rest until a gate opens (`Store.Rests.pollBelow`).
-/

namespace SymbolResolver

namespace Lazy

variable {ε ν α : Type}

namespace Store

variable {store later : Store ε ν} {cell : Nat}

/-- A closed gate holds a cell up: its computation waits there, or for a cell that is held up. -/
inductive HeldUp (store : Store ε ν) : Nat → Prop
  | atGate {cell : Nat} {gate : String} {next : Computation ε ν (Outcome ν)} :
      store.state? cell = some (.running (.pass gate next)) → store.isOpen gate = false →
      HeldUp store cell
  | behind {cell origin : Nat} {next : Outcome ν → Computation ε ν (Outcome ν)} :
      store.state? cell = some (.running (.await origin next)) → HeldUp store origin →
      HeldUp store cell

/-- A cell has gone as far as closed gates allow. -/
def Rests (store : Store ε ν) (cell : Nat) : Prop :=
  store.isSettled cell = true ∨ store.HeldUp cell

/-! ## Cells that are held up -/

theorem HeldUp.exists_running (held_up : store.HeldUp cell) :
    ∃ work, store.state? cell = some (.running work) := by
  cases held_up with
  | atGate running => exact ⟨_, running⟩
  | behind running => exact ⟨_, running⟩

theorem outcome?_of_running {work : Computation ε ν (Outcome ν)}
    (running : store.state? cell = some (.running work)) : store.outcome? cell = none := by
  simp [outcome?, running, CellState.outcome?]

theorem start_of_running {work : Computation ε ν (Outcome ν)}
    (running : store.state? cell = some (.running work)) : store.start cell = store := by
  apply modify_of_same
  intro state found
  obtain rfl : state = .running work := Option.some.inj (found.symm.trans running)
  rfl

/-- A poll whose computation makes no step changes nothing. -/
theorem pollBelow_of_stuck {work : Computation ε ν (Outcome ν)}
    (running : store.state? cell = some (.running work))
    (stuck : advance (pollBelow cell) work store = (work, store))
    (unended : CellState.ofRest work = .running work) (bound : Nat) :
    pollBelow bound cell store = store := by
  induction bound with
  | zero => rfl
  | succ bound ih =>
      by_cases last : cell = bound
      · subst last
        rw [pollBelow_of_running running, stuck, unended]
        apply modify_of_same
        intro state found
        exact (Option.some.inj (found.symm.trans running)).symm
      · rw [pollBelow_of_ne last]
        exact ih

/-- A cell that is held up does not move when it is run, and neither does anything else. -/
theorem HeldUp.pollBelow_eq (held_up : store.HeldUp cell) (bound : Nat) :
    pollBelow bound cell store = store := by
  induction held_up generalizing bound with
  | atGate running closed => exact pollBelow_of_stuck running (by simp [advance, closed]) rfl bound
  | behind running origin_held_up ih =>
      obtain ⟨work, origin_running⟩ := origin_held_up.exists_running
      refine pollBelow_of_stuck running ?_ rfl bound
      simp [advance, start_of_running origin_running, ih, outcome?_of_running origin_running]

/-- From one store to another no gate has opened, and the cells that were held up have not moved. -/
structure Freezes (before after : Store ε ν) : Prop where
  state_eq : ∀ cell, before.HeldUp cell → after.state? cell = before.state? cell
  gates_eq : after.openGates = before.openGates

theorem Freezes.heldUp (freezes : Freezes store later) (held_up : store.HeldUp cell) :
    later.HeldUp cell := by
  induction held_up with
  | atGate running closed =>
      refine .atGate ((freezes.state_eq _ (.atGate running closed)).trans running) ?_
      rw [isOpen, freezes.gates_eq]
      exact closed
  | behind running origin_held_up ih =>
      exact .behind ((freezes.state_eq _ (.behind running origin_held_up)).trans running) ih

theorem Freezes.start (freezes : Freezes store later) (other : Nat) :
    Freezes store (later.start other) := by
  refine ⟨?_, freezes.gates_eq⟩
  intro cell held_up
  obtain ⟨work, running⟩ := held_up.exists_running
  rw [running_start ((freezes.state_eq cell held_up).trans running) other, running]

/-- Whatever cell runs, the ones that are held up do not move. -/
theorem freezes_pollBelow (bound other : Nat) (store : Store ε ν) :
    Freezes store (pollBelow bound other store) := by
  refine pollBelow_preserves bound (Freezes store) ?_ bound (Nat.le_refl bound) other store
    ⟨fun _ _ => rfl, rfl⟩
  intro lower work later _ lower_kept running freezes
  by_cases held_up : store.HeldUp lower
  · rw [← pollBelow_of_running running, (freezes.heldUp held_up).pollBelow_eq]
    exact freezes
  · have advanced : Freezes store (advance (pollBelow lower) work later).2 :=
      advance_preserves (Freezes store) (fun _ _ _ kept => ⟨kept.state_eq, kept.gates_eq⟩)
        (fun _ started _ kept => kept.start started)
        (fun _ awaited _ kept => lower_kept awaited _ (kept.start awaited)) work work.within_all
        later freezes
    refine ⟨?_, advanced.gates_eq⟩
    intro cell cell_held_up
    have different : lower ≠ cell := by
      rintro rfl
      exact held_up cell_held_up
    rw [state?_modify, if_neg different]
    exact advanced.state_eq cell cell_held_up

/-- A cell that is at rest stays so while cells run. -/
theorem Rests.pollBelow (rests : store.Rests cell) (bound other : Nat) :
    (Store.pollBelow bound other store).Rests cell :=
  rests.imp (precedes_pollBelow bound other store).settled_kept
    (freezes_pollBelow bound other store).heldUp

/-! ## Coming to rest -/

/-- Whether a cell is held up is a matter of the cells up to it. -/
theorem HeldUp.of_same_below {bound : Nat} (ordered : store.Ordered)
    (held_up : store.HeldUp cell) (before : cell < bound)
    (same : ∀ other < bound, later.state? other = store.state? other)
    (same_gates : later.openGates = store.openGates) : later.HeldUp cell := by
  induction held_up with
  | @atGate cell gate next running closed =>
      refine .atGate ((same cell before).trans running) ?_
      rw [isOpen, same_gates]
      exact closed
  | @behind cell origin next running _ ih =>
      have origin_before : origin < cell := (ordered cell _ running).1
      exact .behind ((same cell before).trans running) (ih (Nat.lt_trans origin_before before))

/-- The rest of a computation that has gone as far as closed gates allow. -/
def Halts (store : Store ε ν) : Computation ε ν α → Prop
  | .finish _ | .breakOff => True
  | .pass gate _ => store.isOpen gate = false
  | .await cell _ => store.HeldUp cell
  | .note .. | .start .. | .peek .. => False

/-- A computation goes as far as closed gates allow, if the cells that it waits for do. -/
theorem advance_halts {bound : Nat}
    (poll_rests : ∀ (cell : Nat) (store : Store ε ν), store.Ordered → bound ≤ store.size →
      cell < bound → store.isStarted cell = true → (pollBelow bound cell store).Rests cell)
    (work : Computation ε ν α) (within : work.Within (below bound)) (ordered : store.Ordered)
    (bound_le : bound ≤ store.size) :
    (advance (pollBelow bound) work store).2.Halts (advance (pollBelow bound) work store).1 := by
  induction work generalizing store with
  | finish result => trivial
  | breakOff => trivial
  | note event next ih => exact ih within.2 ordered bound_le
  | pass gate next ih =>
      cases opened : store.isOpen gate with
      | true => simpa [advance, opened] using ih within.2 ordered bound_le
      | false => simp [advance, opened, Halts]
  | start cell next ih =>
      exact ih within.2 (within_start ordered cell) (by rwa [size_start])
  | await cell next ih =>
      have started_le : bound ≤ (store.start cell).size := by rwa [size_start]
      have is_started : (store.start cell).isStarted cell = true := by
        obtain ⟨state, found⟩ := exists_state?_of_lt (Nat.lt_of_lt_of_le within.1 bound_le)
        rw [isStarted_iff, state?_start, if_pos rfl, found]
        refine ⟨state.started, rfl, ?_⟩
        cases state <;> rfl
      have rests := poll_rests cell _ (within_start ordered cell) started_le within.1 is_started
      cases known : (pollBelow bound cell (store.start cell)).outcome? cell with
      | some outcome =>
          simp only [advance, known]
          refine ih outcome (within.2 outcome)
            (within_pollBelow bound cell (within_start ordered cell)) ?_
          rwa [size_pollBelow]
      | none =>
          simp only [advance, known]
          refine rests.resolve_left fun settled => ?_
          obtain ⟨outcome, impossible⟩ := isSettled_iff.mp settled
          simp [known] at impossible
  | peek cell next ih => exact ih _ (within.2 _) ordered bound_le

/-- A cell that is left with the rest of a computation is at rest if the computation is. -/
theorem Halts.rests {rest work : Computation ε ν (Outcome ν)} (halts : store.Halts rest)
    (ordered : store.Ordered) (within : rest.Within (below cell))
    (running : store.state? cell = some (.running work)) :
    (store.modify cell fun _ => .ofRest rest).Rests cell := by
  have left : (store.modify cell fun _ => .ofRest rest).state? cell = some (.ofRest rest) := by
    rw [state?_modify, if_pos rfl, running, Option.map_some]
  cases rest with
  | finish outcome => exact Or.inl (isSettled_iff.mpr ⟨_, outcome?_eq_some_iff.mpr left⟩)
  | breakOff => exact Or.inl (isSettled_iff.mpr ⟨_, outcome?_eq_some_iff.mpr left⟩)
  | pass gate next => exact Or.inr (.atGate left halts)
  | await origin next =>
      -- The cell itself is not among the earlier ones that hold it up.
      have origin_held_up : store.HeldUp origin := halts
      refine Or.inr (.behind left (origin_held_up.of_same_below ordered within.1 ?_ rfl))
      intro other before
      rw [state?_modify, if_neg (Nat.ne_of_gt before)]
  | note | start | peek => exact halts.elim

/-- A started cell comes to rest when it is run. -/
theorem rests_pollBelow {bound : Nat} (ordered : store.Ordered) (bound_le : bound ≤ store.size)
    (inside : cell < bound) (started : store.isStarted cell = true) :
    (pollBelow bound cell store).Rests cell := by
  induction bound generalizing cell store with
  | zero => exact absurd inside (Nat.not_lt_zero cell)
  | succ bound ih =>
      by_cases last : cell = bound
      · subst last
        obtain ⟨state, found, state_started⟩ := isStarted_iff.mp started
        cases state with
        | pending work => cases state_started
        | settled outcome =>
            rw [pollBelow_of_settled (outcome?_eq_some_iff.mpr found)]
            exact Or.inl (isSettled_iff.mpr ⟨outcome, outcome?_eq_some_iff.mpr found⟩)
        | running work =>
            have work_within : work.Within (below cell) := ordered cell _ found
            have halts := advance_halts (fun _ _ => ih) work work_within ordered
              (Nat.le_of_succ_le bound_le)
            rw [pollBelow_of_running found]
            have rest_below := rest_within
              (fun store other => precedes_pollBelow cell other store) work_within store
            exact halts.rests (within_advance (within_pollBelow cell) work ordered) rest_below
              (running_advance found work)
      · rw [pollBelow_of_ne last]
        exact ih ordered (Nat.le_of_succ_le bound_le)
          (Nat.lt_of_le_of_ne (Nat.le_of_lt_succ inside) last) started

theorem rests_poll (ordered : store.Ordered) (started : store.isStarted cell = true) :
    (store.poll cell).Rests cell := by
  obtain ⟨state, found, _⟩ := isStarted_iff.mp started
  exact rests_pollBelow ordered (Nat.le_refl _) (lt_size_of_state? found) started

end Store

end Lazy

end SymbolResolver

import SymbolResolver.Proofs.Graphs
import SymbolResolver.Proofs.Ownership
import SymbolResolver.Proofs.Standstills

/-!
# Cancellation

Handles and waiting callers keep values alive, and unfinished derived values keep alive what they
come from. `Holding.Reached` says which values are alive at a moment. A value that has lost its last
owner is abandoned on the spot, but a task that was running it only notices at its next turn, and
until then its computation keeps what it refers to (`Holding.Retained`). Where no aborted task waits
for its turn, the unfinished values that go on are just those that are reached. Abandoned work never
goes on, and started work that is alive comes to rest with an outcome or at a closed gate, whoever
has dropped it (`Holding.cancellation_follows_reach`).
-/

namespace SymbolResolver

namespace Lazy

variable {ε ν : Type}

/-! ## Histories -/

/-- A move that makes a deferred value gives it a cell. -/
theorem Node.act_move (scheduling : Scheduling) (holding : Holding ε ν) (node : Node ε ν)
    (handle : String) :
    holding.act scheduling (node.move handle) =
      holding.assign handle (holding.store.allocate node.state node.origins) := by
  cases node <;> rfl

/-- A derived value waits for its origin first. -/
theorem Node.state_waits (node : Node ε ν) :
    ∀ origin ∈ node.origins, ∃ next, node.state = .pending (.await origin next) := by
  intro origin member
  cases node with
  | computed | known => cases member
  | map | andThen =>
      rw [List.mem_singleton.mp member]
      exact ⟨_, rfl⟩

namespace Holding

/-- The cells that handles name or that callers wait for. -/
def live (holding : Holding ε ν) : List Nat := holding.held ++ holding.awaited

/-- A live handle reaches a cell, directly or through unfinished values that are themselves reached.
-/
def Reached (holding : Holding ε ν) (cell : Nat) : Prop :=
  holding.store.Reaches holding.live cell

/-- A live handle, or a computation whose task is aborted and has not had its turn yet, reaches a
cell, directly or through unfinished values that are themselves reached. -/
def Retained (holding : Holding ε ν) (cell : Nat) : Prop :=
  holding.toExecutor.Retains holding.live cell

/-- Users can make a move: it makes no value, or one that is derived from values under handles. -/
def Admits (holding : Holding ε ν) (move : Move ε ν) : Prop :=
  move.made? = none ∨
    ∃ (node : Node ε ν) (handle : String),
      move = node.move handle ∧ ∀ origin ∈ node.origins, origin ∈ holding.held

/-- Users can make moves one after the other. -/
def AdmitsAll : Holding ε ν → List (Move ε ν) → Prop
  | _, [] => True
  | holding, move :: moves =>
    holding.Admits move ∧ (holding.perform .spawning move).AdmitsAll moves

/-- Whatever users do and whichever tasks have turns from now on, nothing happens to an unfinished
value any more, and nobody reaches it again. -/
def Ceases (holding : Holding ε ν) (cell : Nat) : Prop :=
  ∀ later, holding.AdmitsAll later →
    let last := holding.performAll .spawning later
    last.store.state? cell = holding.store.state? cell ∧
    last.store.isSettled cell = false ∧ ¬last.Retained cell ∧
    ∀ mine : ε → Bool, holding.store.Within (apart mine cell) →
      (∀ move ∈ later, move.Within (silence mine)) →
      last.store.notes.filter mine = holding.store.notes.filter mine

variable {holding : Holding ε ν} {cell : Nat}

theorem cell?_mem_held {handle : String} (found : holding.cell? handle = some cell) :
    cell ∈ holding.held := by
  obtain ⟨_, _, handles_eq, _⟩ := List.lookup_eq_some_iff.mp found
  simp [held, handles_eq]

theorem Reached.retained (reached : holding.Reached cell) : holding.Retained cell :=
  Executor.Tended.retains_of_reaches reached

/-- Where no aborted task waits for its turn, only handles retain values. -/
theorem retained_iff_of_rest (rest : holding.tasks.aborted = []) :
    holding.Retained cell ↔ holding.Reached cell := by
  simp [Retained, Reached, Executor.Retains, rest]

/-- Handles name cells, every cell waits for what it refers to, and just the cells that have no owner
are abandoned. -/
structure Grounded (holding : Holding ε ν) : Prop where
  inside : holding.Inside
  patient : holding.store.Patient
  tended : holding.toExecutor.Tended holding.live
  released : holding.toExecutor.Released holding.live

theorem grounded_empty : (empty : Holding ε ν).Grounded where
  inside _ _ member := by simp [empty] at member
  patient _ _ member := by
    simp [empty, Pool.empty, Executor.empty, Store.empty, Store.needed] at member
  tended := by
    refine ⟨⟨fun _ _ found => ?_, fun _ _ member => ?_⟩,
      ⟨fun _ _ => rfl, fun _ _ _ _ => rfl, fun _ aborted => ?_, fun _ gone => absurd rfl gone⟩⟩
    · simp [empty, Pool.empty, Executor.empty, Store.empty, Store.state?] at found
    · simp [empty, Pool.empty, Executor.empty, Store.empty, Store.needed] at member
    · simp [empty, Pool.empty, Executor.empty, Tasks.none] at aborted
  released _ _ inside := absurd inside (Nat.not_lt_zero _)

/-! ## Moves -/

theorem mem_live_assign {handle : String} {made : Nat × Store ε ν}
    (member : cell ∈ (holding.assign handle made).live) :
    cell = made.1 ∨ cell ∈ holding.live := by
  rcases List.mem_append.mp member with named | waits
  · rcases List.mem_cons.mp named with new | kept
    · exact Or.inl new
    · obtain ⟨entry, kept_entry, rfl⟩ := List.mem_map.mp kept
      have named_before := List.mem_map_of_mem (f := Prod.snd) (List.mem_filter.mp kept_entry).1
      exact Or.inr (List.mem_append_left _ named_before)
  · exact Or.inr (List.mem_append_right _ waits)

/-- A move that makes no value keeps nothing alive that was not alive before. -/
theorem mem_live_act {move : Move ε ν} (makes_none : move.made? = none)
    (member : cell ∈ (holding.act .spawning move).live) : cell ∈ holding.live := by
  cases move with
  | create | know => cases makes_none
  | clone handle origin =>
      simp only [act] at member
      split at member
      · next found =>
        rcases mem_live_assign member with rfl | before
        · exact List.mem_append_left _ (cell?_mem_held found)
        · exact before
      · exact member
  | drop handle =>
      rcases List.mem_append.mp member with named | waits
      · obtain ⟨entry, kept_entry, rfl⟩ := List.mem_map.mp named
        exact List.mem_append_left _ (List.mem_map_of_mem (List.mem_filter.mp kept_entry).1)
      · exact List.mem_append_right _ waits
  | start handle | get handle =>
      simp only [act, withCell] at member
      split at member <;> exact member
  | peek handle => exact member
  | spawn handle =>
      simp only [act, withCell] at member
      split at member
      · next found =>
        rcases List.mem_append.mp member with named | waits
        · exact List.mem_append_left _ named
        · rcases Pool.awaited_enroll waits with before | rfl
          · exact List.mem_append_right _ before
          · exact List.mem_append_left _ (cell?_mem_held found)
      · exact member
  | turn turn =>
      rcases List.mem_append.mp member with named | waits
      · exact List.mem_append_left _ named
      · exact List.mem_append_right _ (Pool.awaited_turn waits)

namespace Grounded

theorem keeps_of_named (grounded : holding.Grounded) {handle : String}
    (found : holding.cell? handle = some cell) : holding.tasks.Keeps cell :=
  grounded.tended.coherent.held_kept cell (List.mem_append_left _ (cell?_mem_held found))

/-- The executor goes on with a turn. -/
theorem proceeds_turn (grounded : holding.Grounded) (turn : Turn) :
    Executor.Proceeds holding.live holding.toExecutor
      (holding.toPool.turn .spawning holding.held turn).toExecutor := by
  have tended := grounded.tended
  cases turn with
  | openGate gate => exact tended.openGate gate
  | resume number =>
      simp only [Pool.turn, Pool.resume]
      split
      · next waits =>
        have awaited := Pool.mem_awaited_iff.mpr ⟨number, waits⟩
        exact tended.demand (tended.coherent.held_kept _ (List.mem_append_right _ awaited))
      · exact tended.proceeds_refl
  | drop number => exact tended.proceeds_refl
  | task cell => exact tended.runTask .spawning cell
  | settle => exact tended.settleBelow .spawning _

/-- The executor goes on with a move that makes no value. -/
theorem proceeds_of_makes_none (grounded : holding.Grounded) {move : Move ε ν}
    (makes_none : move.made? = none) :
    Executor.Proceeds holding.live holding.toExecutor (holding.act .spawning move).toExecutor := by
  have tended := grounded.tended
  cases move with
  | create | know => cases makes_none
  | clone handle origin =>
      simp only [act]
      split <;> exact tended.proceeds_refl
  | drop handle => exact tended.proceeds_refl
  | start handle =>
      simp only [act, withCell]
      split
      · next found => exact tended.start (grounded.keeps_of_named found)
      · exact tended.proceeds_refl
  | get handle | spawn handle =>
      simp only [act, withCell]
      split
      · next found => exact tended.demand (grounded.keeps_of_named found)
      · exact tended.proceeds_refl
  | peek handle => exact tended.proceeds_refl
  | turn turn => exact grounded.proceeds_turn turn

/-- The executor goes on with a new value. -/
theorem proceeds_of_node (grounded : holding.Grounded) {node : Node ε ν} (handle : String)
    (from_held : ∀ origin ∈ node.origins, origin ∈ holding.held) :
    Executor.Proceeds (holding.act .spawning (node.move handle)).live holding.toExecutor
      (holding.act .spawning (node.move handle)).toExecutor := by
  rw [node.act_move]
  have state_within : node.state.Within (touching node.origins) :=
    Node.state_within (fun _ member => member) (fun _ _ => trivial) (fun _ => trivial) trivial
  refine grounded.tended.allocate state_within
    (fun origin member => List.mem_append_left _ (from_held origin member)) ?_
    fun cell member => mem_live_assign member
  intro origin member
  obtain ⟨⟨name, cell⟩, named, rfl⟩ := List.mem_map.mp (from_held origin member)
  exact grounded.inside name cell named

/-- The executor goes on with every move, and cells without owners are abandoned afterwards. -/
theorem proceeds_perform (grounded : holding.Grounded) {move : Move ε ν}
    (admits : holding.Admits move) :
    Executor.Proceeds (holding.perform .spawning move).live holding.toExecutor
        (holding.perform .spawning move).toExecutor ∧
      (holding.perform .spawning move).toExecutor.Released
        (holding.perform .spawning move).live := by
  have acted : Executor.Proceeds (holding.act .spawning move).live holding.toExecutor
      (holding.act .spawning move).toExecutor := by
    rcases admits with makes_none | ⟨node, handle, rfl, from_held⟩
    · have proceeds := grounded.proceeds_of_makes_none makes_none
      exact ⟨proceeds.tended.fewer fun _ => mem_live_act makes_none, proceeds.forsakes⟩
    · exact grounded.proceeds_of_node handle from_held
  exact ⟨acted.trans (acted.tended.release .spawning), acted.tended.released_release .spawning⟩

theorem patient_perform (grounded : holding.Grounded) {move : Move ε ν}
    (admits : holding.Admits move) : (holding.perform .spawning move).store.Patient := by
  rcases admits with makes_none | ⟨node, handle, rfl, _⟩
  · exact perform_preserves .spawning Store.Patient move
      (fun state made => by simp [makes_none] at made) (fun _ cell patient => patient.start cell)
      (fun _ cell patient => patient.demand cell) (fun _ cell patient => patient.pollBelow _ cell)
      (fun _ _ patient => patient) holding grounded.patient
  · rw [store_perform, node.act_move]
    exact grounded.patient.allocate node.state_waits

theorem perform (grounded : holding.Grounded) {move : Move ε ν} (admits : holding.Admits move) :
    (holding.perform .spawning move).Grounded :=
  ⟨grounded.inside.perform .spawning move, grounded.patient_perform admits,
    (grounded.proceeds_perform admits).1.tended, (grounded.proceeds_perform admits).2⟩

/-- Whatever users do, they leave alone what was abandoned before. -/
theorem performAll (grounded : holding.Grounded) {moves : List (Move ε ν)}
    (admitted : holding.AdmitsAll moves) :
    (holding.performAll .spawning moves).Grounded ∧
      Executor.Forsakes holding.toExecutor (holding.performAll .spawning moves).toExecutor := by
  induction moves generalizing holding with
  | nil => exact ⟨grounded, .refl _⟩
  | cons move moves ih =>
      obtain ⟨rest_grounded, forsakes⟩ := ih (grounded.perform admitted.1) admitted.2
      exact ⟨rest_grounded, (grounded.proceeds_perform admitted.1).1.forsakes.trans forsakes⟩

/-- The unfinished values that are kept are just those that are retained. -/
theorem keeps_iff (grounded : holding.Grounded) (inside : cell < holding.store.size)
    (unsettled : holding.store.isSettled cell = false) :
    holding.tasks.Keeps cell ↔ holding.Retained cell :=
  grounded.tended.keeps_iff grounded.released inside unsettled

end Grounded

/-! ## Abandoned values -/

/-- A value that has not moved has left no notes of its own. -/
theorem notes_of_same_state {mine : ε → Bool} {cell : Nat} (inside : cell < holding.store.size)
    {later : List (Move ε ν)}
    (same : (holding.performAll .spawning later).store.state? cell = holding.store.state? cell)
    (others_silent : holding.store.Within (apart mine cell))
    (silent : ∀ move ∈ later, move.Within (silence mine)) :
    (holding.performAll .spawning later).store.notes.filter mine =
      holding.store.notes.filter mine := by
  obtain ⟨state, found⟩ := Store.exists_state?_of_lt inside
  have tracked : holding.store.Tracked mine cell state (holding.store.notes.filter mine) :=
    ⟨others_silent, state, [], found, .refl _ state, by simp⟩
  obtain ⟨final, trace, found_final, advances, notes_eq⟩ :=
    (tracked_performAll .spawning holding later silent tracked).flight
  obtain rfl : final = state := Option.some.inj (found_final.symm.trans (same.trans found))
  rw [notes_eq, advances.trace_of_same]
  simp

/-- An unfinished value that nobody retains has come to its end for good. -/
theorem Grounded.ceases (grounded : holding.Grounded) (inside : cell < holding.store.size)
    (unsettled : holding.store.isSettled cell = false) (lost : ¬holding.Retained cell) :
    holding.Ceases cell := by
  intro later admitted last
  obtain ⟨last_grounded, forsakes⟩ := grounded.performAll admitted
  have gone : ¬holding.tasks.Keeps cell := mt (grounded.keeps_iff inside unsettled).mp lost
  have same := forsakes.state_eq cell gone
  refine ⟨same, ?_, fun retained => ?_, fun mine others_silent silent => ?_⟩
  · rw [Store.isSettled, same]
    exact unsettled
  · exact forsakes.abandoned cell gone (last_grounded.tended.keeps_of_retains retained)
  · exact notes_of_same_state inside same others_silent silent

/-- The last handle on a derived value is dropped after the gate of its origin has opened. If the task
of the origin has the next turn, it still finds the handle of the derived computation and runs to its
end; if the aborted task has it, the origin never goes on. -/
example :
    let gated : Node Mark String := .computed ((Recipe.mk "base" (some "gate") .succeed).leaf "v")
    let derived : Node Mark String := .map 0 fun value => .finish value
    let holding := (empty : Holding Mark String).performAll .spawning
      [gated.move "base", derived.move "derived", .start "derived", .turn .settle, .drop "base",
        .turn (.openGate "gate"), .drop "derived"]
    (holding.performAll .spawning [.turn (.task 0), .turn .settle]).store.isSettled 0 = true ∧
      (holding.performAll .spawning [.turn (.task 1), .turn .settle]).store.isSettled 0 = false := by
  decide +kernel

/-- An aborted task drops its computation at its next turn. -/
theorem Grounded.mem_dropped_task (grounded : holding.Grounded)
    (aborted : cell ∈ holding.tasks.aborted) :
    cell ∈ (holding.perform .spawning (.turn (.task cell))).tasks.dropped := by
  refine Tasks.mem_dropped_releaseBelow .spawning (Nat.le_refl _) ?_
  rcases grounded.tended.runTask_cases cell with ⟨_, not_aborted, _⟩ | ⟨_, same⟩ | ⟨kept, _⟩
  · exact absurd aborted not_aborted
  · rw [act, Pool.turn, same]
    exact List.mem_cons_self
  · exact absurd aborted (Tasks.keeps_iff.mp kept).1

/-- No aborted task waits any more when all tasks have had their turns. -/
theorem Grounded.aborted_settle (grounded : holding.Grounded) :
    (holding.perform .spawning (.turn .settle)).tasks.aborted = [] := by
  have settled := grounded.proceeds_turn .settle
  have fewer : (holding.act .spawning (.turn .settle)).toExecutor.Tended
      (holding.act .spawning (.turn .settle)).live :=
    settled.tended.fewer fun _ => mem_live_act rfl
  refine fewer.aborted_release ?_ .spawning (grounded.tended.aborted_settle grounded.released)
  -- Callers stop waiting only for cells that are settled.
  refine (grounded.tended.released_settleBelow grounded.released .spawning _).fewer ?_
  intro cell member unsettled
  rcases List.mem_append.mp member with named | waits
  · exact List.mem_append_left _ named
  · exact List.mem_append_right _ (Pool.mem_awaited_wake waits unsettled)

end Holding

/-! ## Values that are kept alive -/

namespace Executor.Tended

variable {executor : Executor ε ν} {held : List Nat} {cell : Nat}

theorem rests_runTask (tended : executor.Tended held) (kept : executor.tasks.Keeps cell)
    (started : executor.store.isStarted cell = true) :
    (executor.runTask .spawning cell).store.Rests cell := by
  rw [runTask_of_keeps kept]
  exact Store.rests_poll tended.rooted.ordered started

/-- A started cell that is reached or settled is at rest when the tasks of the cells up to it have had
their turns. -/
theorem rests_settleBelow (tended : executor.Tended held) (patient : executor.store.Patient)
    {bound : Nat} (below : cell < bound) (started : executor.store.isStarted cell = true)
    (alive : executor.store.Reaches held cell ∨ executor.store.isSettled cell = true) :
    (executor.settleBelow .spawning held bound).store.Rests cell := by
  induction bound generalizing executor with
  | zero => exact absurd below (Nat.not_lt_zero cell)
  | succ bound ih =>
      by_cases last : cell = bound
      · subst last
        refine settleBelow_preserves (fun store => store.Rests cell)
          (fun store other rests => rests.pollBelow store.size other) .spawning held cell _ ?_
        rcases alive with reaches | settled
        · exact tended.rests_runTask (tended.keeps_of_retains (retains_of_reaches reaches)) started
        · exact .inl ((precedes_runTask .spawning executor cell).settled_kept settled)
      · have order := precedes_runTask .spawning executor bound
        have next_patient : (executor.runTask .spawning bound).store.Patient :=
          runTask_preserves Store.Patient (fun _ other kept => kept.pollBelow _ other) .spawning
            executor bound patient
        refine ih ((tended.runTask .spawning bound).tended.release .spawning).tended next_patient
          (Nat.lt_of_le_of_ne (Nat.le_of_lt_succ below) last) (order.start_kept started) ?_
        rcases alive with reaches | settled
        · exact reaches.later (needed_runTask .spawning executor bound) next_patient
        · exact .inr (order.settled_kept settled)

end Executor.Tended

namespace Holding

variable {holding : Holding ε ν} {cell : Nat}

/-- The run of a value is taken up where it was left. -/
theorem advances_performAll {state : CellState ε ν}
    (found : holding.store.state? cell = some state) (later : List (Move ε ν)) :
    ∃ trace final, (holding.performAll .spawning later).store.state? cell = some final ∧
      state.Advances (holding.performAll .spawning later).store trace final := by
  have tracked : holding.store.Tracked (fun _ => false) cell state [] :=
    ⟨fun other found _ => found.within_unmarked.mono (silence_le_apart _ cell other), state, [],
      found, .refl _ state, by simp⟩
  obtain ⟨final, trace, found_final, advances, _⟩ :=
    (tracked_performAll .spawning holding later (fun _ _ made _ => made.within_unmarked)
      tracked).flight
  exact ⟨trace, final, found_final, advances⟩

theorem Grounded.rests_task (grounded : holding.Grounded) (reached : holding.Reached cell)
    (started : holding.store.isStarted cell = true) :
    (holding.perform .spawning (.turn (.task cell))).store.Rests cell :=
  grounded.tended.rests_runTask (grounded.tended.keeps_of_retains reached.retained) started

theorem Grounded.rests_settle (grounded : holding.Grounded) (reached : holding.Reached cell)
    (started : holding.store.isStarted cell = true) :
    (holding.perform .spawning (.turn .settle)).store.Rests cell := by
  obtain ⟨state, found, _⟩ := Store.isStarted_iff.mp started
  exact grounded.tended.rests_settleBelow grounded.patient (Store.lt_size_of_state? found) started
    (.inl reached)

/-! ## Cancellation -/

/-- Work that no live handle reaches is cancelled, and work that one reaches is not, whatever was
dropped before. The moment is after the moves `earlier`, and the moves `later` follow. Tasks have
their turns among the moves, in any order. -/
theorem cancellation_follows_reach (earlier : List (Move ε ν))
    (admitted : (empty : Holding ε ν).AdmitsAll earlier) :
    let holding := (empty : Holding ε ν).performAll .spawning earlier
    -- Where no aborted task waits for its turn, an unfinished value that is not reached never goes
    -- on and leaves no notes any more.
    (holding.tasks.aborted = [] → ∀ cell < holding.store.size,
      holding.store.isSettled cell = false → ¬holding.Reached cell → holding.Ceases cell) ∧
    -- At other moments the computations of aborted tasks may still reach it.
    (∀ cell < holding.store.size, holding.store.isSettled cell = false → ¬holding.Retained cell →
      holding.Ceases cell) ∧
    -- Each of them is dropped for good at the next turn of its task.
    (∀ cell ∈ holding.tasks.aborted, ∀ later,
      (holding.perform .spawning (.turn (.task cell))).AdmitsAll later →
        cell ∉ ((holding.perform .spawning (.turn (.task cell))).performAll .spawning
          later).tasks.aborted) ∧
    -- When all tasks have had their turns, none of them is left.
    (holding.perform .spawning (.turn .settle)).tasks.aborted = [] ∧
    -- A started value that is still reached has gone on from where it was, and when it gets a turn
    -- it has an outcome or a closed gate holds it up.
    (∀ cell, holding.store.isStarted cell = true → ∀ later, holding.AdmitsAll later →
      let last := holding.performAll .spawning later
      last.Reached cell →
        last.tasks.isAbandoned cell = false ∧
        (∃ state trace final, holding.store.state? cell = some state ∧
          last.store.state? cell = some final ∧ state.Advances last.store trace final) ∧
        (last.perform .spawning (.turn (.task cell))).store.Rests cell ∧
        (last.perform .spawning (.turn .settle)).store.Rests cell) := by
  intro holding
  have grounded : holding.Grounded := (grounded_empty.performAll admitted).1
  refine ⟨?_, fun cell => grounded.ceases, ?_, grounded.aborted_settle, ?_⟩
  · intro rest cell inside unsettled unreached
    exact grounded.ceases inside unsettled (mt (retained_iff_of_rest rest).mp unreached)
  · intro cell aborted later later_admitted
    obtain ⟨last_grounded, forsakes⟩ := (grounded.perform (.inl rfl)).performAll later_admitted
    exact last_grounded.tended.coherent.not_aborted
      (forsakes.dropped_kept cell (grounded.mem_dropped_task aborted))
  · intro cell started later later_admitted last reached
    obtain ⟨state, found, _⟩ := Store.isStarted_iff.mp started
    obtain ⟨trace, final, found_final, advances⟩ := advances_performAll found later
    have last_grounded : last.Grounded := (grounded.performAll later_admitted).1
    have still_started : last.store.isStarted cell = true :=
      (continues_performAll .spawning holding later).store.start_kept started
    exact ⟨last_grounded.tended.keeps_of_retains reached.retained,
      ⟨state, trace, final, found, found_final, advances⟩,
      last_grounded.rests_task reached still_started,
      last_grounded.rests_settle reached still_started⟩

/-- Two values are derived from a gated one. A caller waits for the first one until it is dropped
like every handle but the one on the second. When all tasks have had their turns the gate opens. The
second value and its origin go on; the first one and a gated value that nobody derived anything from
do not. -/
theorem cancellation_follows_reach_shared :
    let gated (label : String) : Node Mark String :=
      .computed ((Recipe.mk label (some "gate") .succeed).leaf label)
    let appended (value : String) : Leaf Mark (Outcome String) :=
      (Recipe.mk "second" none .succeed).leaf (value ++ "!")
    let earlier : List (Move Mark String) :=
      [(gated "base").move "base", (gated "lone").move "lone",
        (Node.map 0 fun value => .note (.began "first") (.finish value)).move "first",
        (Node.andThen 0 appended).move "second", .start "lone", .spawn "first", .start "second",
        .drop "base", .drop "lone", .drop "first", .turn (.drop 0), .turn .settle]
    let holding := (empty : Holding Mark String).performAll .spawning earlier
    let opened := holding.performAll .spawning [.turn (.openGate "gate")]
    let last := opened.performAll .spawning [.turn .settle]
    last.store.isSettled 1 = false ∧ last.store.isSettled 2 = false ∧
      last.store.Rests 0 ∧ last.store.Rests 3 := by
  intro gated appended earlier holding opened last
  have admitted : (empty : Holding Mark String).AdmitsAll earlier := by
    refine ⟨.inr ⟨gated "base", "base", rfl, by simp [gated, Node.origins]⟩,
      .inr ⟨gated "lone", "lone", rfl, by simp [gated, Node.origins]⟩,
      .inr ⟨.map 0 _, "first", rfl, by decide +kernel⟩,
      .inr ⟨.andThen 0 _, "second", rfl, by decide +kernel⟩, ?_⟩
    simp [AdmitsAll, Admits, Move.made?]
  have opening : holding.AdmitsAll [.turn (.openGate "gate")] := ⟨.inl rfl, trivial⟩
  have later_admitted : holding.AdmitsAll [.turn (.openGate "gate"), .turn .settle] :=
    ⟨.inl rfl, .inl rfl, trivial⟩
  have grounded : holding.Grounded := (grounded_empty.performAll admitted).1
  have opened_grounded : opened.Grounded := (grounded.performAll opening).1
  have unreached : ∀ cell, ¬holding.tasks.Keeps cell → ¬holding.Reached cell :=
    fun cell gone reached => gone (grounded.tended.keeps_of_retains reached.retained)
  have reached : ∀ cell < opened.store.size, opened.tasks.Keeps cell →
      opened.store.isSettled cell = false → opened.Reached cell :=
    fun cell inside kept unsettled => (retained_iff_of_rest (by decide +kernel)).mp
      ((opened_grounded.keeps_iff inside unsettled).mp kept)
  obtain ⟨abandoned, _, _, _, kept⟩ := cancellation_follows_reach earlier admitted
  have abandoned := abandoned (by decide +kernel)
  refine ⟨?_, ?_, ?_, ?_⟩
  · exact (abandoned 1 (by decide +kernel) (by decide +kernel) (unreached 1 (by decide +kernel)) _
      later_admitted).2.1
  · exact (abandoned 2 (by decide +kernel) (by decide +kernel) (unreached 2 (by decide +kernel)) _
      later_admitted).2.1
  · exact (kept 0 (by decide +kernel) _ opening
      (reached 0 (by decide +kernel) (by decide +kernel) (by decide +kernel))).2.2.2
  · exact (kept 3 (by decide +kernel) _ opening
      (reached 3 (by decide +kernel) (by decide +kernel) (by decide +kernel))).2.2.2

end Holding

end Lazy

end SymbolResolver

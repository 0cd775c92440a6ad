import SymbolResolver.Lazy.Node
import SymbolResolver.Proofs.Collections
import SymbolResolver.Proofs.SharedValues

/-!
# Graphs of deferred values

A graph is a list of deferred values, each derived from earlier ones or merged from them. What a
value comes to is a matter of the graph alone: it is evaluated by recursion (`Graph.outcome`).
However the values are made, started, waited for, dropped and run, and whoever runs them, a wait
that ends has ended with this outcome (`Graph.outcomes_independent`).
-/

namespace SymbolResolver

namespace Lazy

variable {ε ν α : Type}

/-! ## Nodes -/

/-- What those who wait for a leaf get: its result, or an error if it breaks off. -/
def Leaf.outcome (leaf : Leaf ε (Outcome ν)) : Outcome ν :=
  leaf.result?.getD (.error .brokenOff)

theorem Leaf.ending_guarded (leaf : Leaf ε (Outcome ν)) :
    leaf.ending.guarded = .finished leaf.outcome := by
  rw [ending, outcome]
  cases leaf.result? <;> rfl

namespace Node

/-- The state in which a deferred value is made. -/
def state : Node ε ν → CellState ε ν
  | computed leaf => .pending leaf.work
  | known outcome => .settled outcome
  | map origin function => .pending (mapWork origin function)
  | andThen origin continuation => .pending (andThenWork origin continuation)

theorem made?_move (node : Node ε ν) (handle : String) :
    (node.move handle).made? = some node.state := by
  cases node <;> rfl

/-- The cells that a deferred value comes from. -/
def origins : Node ε ν → List Nat
  | computed _ | known _ => []
  | map origin _ | andThen origin _ => [origin]

/-- What a deferred value comes to, given what other cells come to. -/
def outcome (shown : Nat → Outcome ν) : Node ε ν → Outcome ν
  | computed leaf => leaf.outcome
  | known outcome => outcome
  | map origin function =>
    match shown origin with
    | .ok value =>
      match (function value).result? with
      | some result => .ok result
      | none => .error (.cancelled "deferred computation panicked")
    | .error error => .error error
  | andThen origin continuation =>
    match shown origin with
    | .ok value => (continuation value).outcome
    | .error error => .error error

/-- The gates that a deferred value may wait at. -/
def WaitsAt (gate : String) : Node ε ν → Prop
  | computed leaf => gate ∈ leaf.gates
  | known _ => False
  | map _ function => ∃ value, gate ∈ (function value).gates
  | andThen _ continuation => ∃ value, gate ∈ (continuation value).gates

theorem outcome_congr {shown other : Nat → Outcome ν} (node : Node ε ν)
    (same : ∀ origin ∈ node.origins, shown origin = other origin) :
    node.outcome shown = node.outcome other := by
  cases node with
  | computed leaf => rfl
  | known outcome => rfl
  | map origin function => simp only [outcome, same origin (List.mem_singleton_self origin)]
  | andThen origin continuation =>
      simp only [outcome, same origin (List.mem_singleton_self origin)]

/-- A derived value comes to the error of its origin, or to what its continuation comes to. -/
theorem derivedWork_means (shown : Nat → Outcome ν) (origin : Nat)
    {continuation : ν → Computation ε ν (Outcome ν)} {outcome : ν → Outcome ν}
    (continued : ∀ value, ∃ ending, (continuation value).Means shown ending ∧
      ending.guarded = .finished (outcome value)) :
    ∃ ending, (derivedWork origin continuation).Means shown ending ∧
      ending.guarded = .finished ((shown origin).bind outcome) := by
  have waited : (Computation.outcomeOf origin : Computation ε ν (Outcome ν)).Means shown
      (.finished (shown origin)) := Computation.means_outcomeOf origin
  cases found : shown origin with
  | error error =>
      rw [found] at waited
      exact ⟨_, waited.andThen_error, rfl⟩
  | ok value =>
      rw [found] at waited
      obtain ⟨ending, means, guarded⟩ := continued value
      exact ⟨ending, waited.andThen means, guarded⟩

theorem mapWork_means (shown : Nat → Outcome ν) (origin : Nat) (function : ν → Leaf ε ν) :
    ∃ ending, (mapWork origin function).Means shown ending ∧
      ending.guarded = .finished ((map origin function).outcome shown) := by
  have outcome_eq : (map origin function).outcome shown = (shown origin).bind fun value =>
      match (function value).result? with
      | some result => .ok result
      | none => .error .brokenOff := by
    simp only [outcome]
    cases shown origin <;> rfl
  rw [outcome_eq]
  refine derivedWork_means shown origin fun value => ?_
  have applied := (function value).means_work shown
  rw [Leaf.ending] at applied
  cases ended : (function value).result? with
  | some result =>
      rw [ended] at applied
      exact ⟨.finished (.ok result), applied.bind rfl, rfl⟩
  | none =>
      rw [ended] at applied
      exact ⟨.brokenOff, applied.bind_brokenOff, rfl⟩

theorem andThenWork_means (shown : Nat → Outcome ν) (origin : Nat)
    (continuation : ν → Leaf ε (Outcome ν)) :
    ∃ ending, (andThenWork origin continuation).Means shown ending ∧
      ending.guarded = .finished ((andThen origin continuation).outcome shown) := by
  have outcome_eq : (andThen origin continuation).outcome shown =
      (shown origin).bind fun value => (continuation value).outcome := by
    simp only [outcome]
    cases shown origin <;> rfl
  rw [outcome_eq]
  exact derivedWork_means shown origin fun value =>
    ⟨_, (continuation value).means_work shown, (continuation value).ending_guarded⟩

/-- A deferred value is made to come to its outcome. -/
theorem state_means (shown : Nat → Outcome ν) (node : Node ε ν) :
    node.state.Means shown (node.outcome shown) := by
  cases node with
  | computed leaf => exact ⟨_, leaf.means_work shown, leaf.ending_guarded⟩
  | known outcome => rfl
  | map origin function => exact mapWork_means shown origin function
  | andThen origin continuation => exact andThenWork_means shown origin continuation

theorem state_within {scope : Scope ε} {node : Node ε ν}
    (awaited : ∀ origin ∈ node.origins, scope.awaited origin)
    (passed : ∀ gate, node.WaitsAt gate → scope.passed gate)
    (noted : ∀ event, scope.noted event) (broken : scope.broken) : node.state.Within scope := by
  cases node with
  | computed leaf => exact Leaf.within_work (fun event _ => noted event) passed broken
  | known outcome => trivial
  | map origin function =>
      have waiting : (Computation.outcomeOf origin : Computation ε ν (Outcome ν)).Within scope :=
        Computation.outcomeOf_within origin (awaited origin (List.mem_singleton_self origin))
      refine Computation.within_andThen waiting fun value => ?_
      have applied : ((function value).work : Computation ε ν ν).Within scope :=
        Leaf.within_work (fun event _ => noted event)
          (fun gate at_gate => passed gate ⟨value, at_gate⟩) broken
      exact Computation.within_bind applied fun _ => trivial
  | andThen origin continuation =>
      have waiting : (Computation.outcomeOf origin : Computation ε ν (Outcome ν)).Within scope :=
        Computation.outcomeOf_within origin (awaited origin (List.mem_singleton_self origin))
      refine Computation.within_andThen waiting fun value => ?_
      exact Leaf.within_work (fun event _ => noted event)
        (fun gate at_gate => passed gate ⟨value, at_gate⟩) broken

end Node

/-! ## Vertices -/

/-- A deferred value of a graph. -/
inductive Vertex (ε ν α : Type)
  /-- A value of its own or derived from another one. -/
  | deferred (node : Node ε ν)
  /-- The merged list of registered sources. -/
  | merge (registered : List (Source α))

namespace Vertex

variable [Listed ν α] [BEq α]

/-- The state in which the value is made. -/
def state : Vertex ε ν α → CellState ε ν
  | deferred node => node.state
  | merge registered => .pending (Collection.mergeWork (Collection.arrange registered))

/-- The move that makes the value. -/
def move (handle : String) : Vertex ε ν α → Move ε ν
  | deferred node => node.move handle
  | merge registered =>
    let sources := Collection.arrange registered
    .create handle (Collection.mergeWork sources) (sources.map Source.cell)

theorem made?_move (vertex : Vertex ε ν α) (handle : String) :
    (vertex.move handle).made? = some vertex.state := by
  cases vertex with
  | deferred node => exact node.made?_move handle
  | merge registered => rfl

/-- The cells that the value comes from. -/
def origins : Vertex ε ν α → List Nat
  | deferred node => node.origins
  | merge registered => registered.map Source.cell

/-- What the value comes to, given what other cells come to. A merged list has the distinct members
of the sources in the order of their priorities, and the first failure among them is its own. -/
def outcome (shown : Nat → Outcome ν) : Vertex ε ν α → Outcome ν
  | deferred node => node.outcome shown
  | merge registered =>
    (Collection.members shown (Collection.arrange registered)).map fun items =>
      Listed.wrap (distinct items)

/-- The gates that the value may wait at. -/
def WaitsAt (gate : String) : Vertex ε ν α → Prop
  | deferred node => node.WaitsAt gate
  | merge _ => False

theorem state_means (shown : Nat → Outcome ν) (vertex : Vertex ε ν α) :
    vertex.state.Means shown (vertex.outcome shown) := by
  cases vertex with
  | deferred node => exact node.state_means shown
  | merge registered => exact ⟨_, Collection.mergeWork_means _, rfl⟩

theorem outcome_congr {shown other : Nat → Outcome ν} (vertex : Vertex ε ν α)
    (same : ∀ origin ∈ vertex.origins, shown origin = other origin) :
    vertex.outcome shown = vertex.outcome other := by
  cases vertex with
  | deferred node => exact node.outcome_congr same
  | merge registered =>
      have sources_same : ∀ source ∈ Collection.arrange registered,
          shown source.cell = other source.cell := fun source member =>
        same source.cell (List.mem_map_of_mem (Collection.mem_arrange.mp member))
      rw [outcome, outcome, Collection.members_congr sources_same]

theorem state_within {scope : Scope ε} {vertex : Vertex ε ν α}
    (started : ∀ origin ∈ vertex.origins, scope.started origin)
    (awaited : ∀ origin ∈ vertex.origins, scope.awaited origin)
    (passed : ∀ gate, vertex.WaitsAt gate → scope.passed gate)
    (noted : ∀ event, scope.noted event) (broken : scope.broken) :
    vertex.state.Within scope := by
  cases vertex with
  | deferred node => exact Node.state_within awaited passed noted broken
  | merge registered =>
      have origin_of : ∀ source ∈ Collection.arrange registered,
          source.cell ∈ (merge registered : Vertex ε ν α).origins :=
        fun source member => List.mem_map_of_mem (Collection.mem_arrange.mp member)
      exact Collection.mergeWork_within
        (fun source member => started _ (origin_of source member))
        (fun source member => awaited _ (origin_of source member))

end Vertex

/-! ## Graphs -/

/-- Deferred values in the order in which they are made. Each comes from earlier ones. -/
structure Graph (ε ν α : Type) where
  /-- The values. -/
  vertices : List (Vertex ε ν α)
  /-- No value comes from itself or from a later one. -/
  acyclic : ∀ (cell : Nat) (vertex : Vertex ε ν α), vertices[cell]? = some vertex →
    ∀ origin ∈ vertex.origins, origin < cell

namespace Graph

variable [Listed ν α] [BEq α] {graph : Graph ε ν α}

/-- What a value of a graph comes to, by recursion over the values it comes from. -/
def outcome (graph : Graph ε ν α) (cell : Nat) : Outcome ν :=
  match graph.vertices[cell]? with
  | some vertex =>
    vertex.outcome fun origin =>
      if origin < cell then graph.outcome origin else .error .brokenOff
  | none => .error .brokenOff
termination_by cell

theorem outcome_eq {cell : Nat} {vertex : Vertex ε ν α}
    (found : graph.vertices[cell]? = some vertex) :
    graph.outcome cell = vertex.outcome graph.outcome := by
  rw [outcome, found]
  refine vertex.outcome_congr fun origin member => ?_
  rw [if_pos (graph.acyclic cell vertex found origin member)]

/-- The values that moves make are the first ones of a graph. The moves may do anything else in
between. -/
def MadeBy (graph : Graph ε ν α) (moves : List (Move ε ν)) : Prop :=
  moves.filterMap Move.made? <+: graph.vertices.map Vertex.state

/-- The values of a graph are made one after the other, each under a handle of its own. -/
theorem madeBy_zipWith (graph : Graph ε ν α) (handles : List String) {later : List (Move ε ν)}
    (nothing_made : ∀ move ∈ later, move.made? = none) :
    graph.MadeBy (List.zipWith Vertex.move handles graph.vertices ++ later) := by
  have made_states : ∀ vertices : List (Vertex ε ν α),
      (List.zipWith Vertex.move handles vertices).filterMap Move.made? <+:
        vertices.map Vertex.state := by
    induction handles with
    | nil => exact fun _ => List.nil_prefix
    | cons handle handles ih =>
        intro vertices
        cases vertices with
        | nil => exact List.nil_prefix
        | cons vertex vertices =>
            rw [List.zipWith_cons_cons, List.filterMap_cons_some (vertex.made?_move handle)]
            exact (List.prefix_cons_inj _).mpr (ih vertices)
  rw [MadeBy, List.filterMap_append, List.filterMap_eq_nil_iff.mpr nothing_made, List.append_nil]
  exact made_states graph.vertices

end Graph

namespace Holding

variable (scheduling : Scheduling)

/-- A move that makes a value adds a cell. -/
theorem perform_of_made {move : Move ε ν} {state : CellState ε ν} (made : move.made? = some state)
    (holding : Holding ε ν) :
    ∃ needed, (holding.perform scheduling move).store =
      (holding.store.allocate state needed).2 := by
  cases move with
  | create handle work needed =>
      obtain rfl : CellState.pending work = state := Option.some.inj made
      exact ⟨needed, rfl⟩
  | know handle outcome =>
      obtain rfl : CellState.settled outcome = state := Option.some.inj made
      exact ⟨[], rfl⟩
  | clone | drop | start | get | peek | spawn | turn => cases made

/-- What making the values of a list in order, starting, waiting, polling and opening gates
preserve, a run of moves preserves that makes the first values of the list. -/
theorem performAll_makes (Kept : Store ε ν → Prop) (states : List (CellState ε ν))
    (allocate_kept : ∀ store state needed, states[store.size]? = some state → Kept store →
      Kept (store.allocate state needed).2)
    (start_kept : ∀ store cell, Kept store → Kept (store.start cell))
    (run_kept : ∀ store cell, Kept store → Kept (store.run (Computation.outcomeOf cell)).2)
    (poll_kept : ∀ store cell, Kept store → Kept (store.poll cell))
    (gate_kept : ∀ store gate, Kept store → Kept (store.openGate gate))
    (moves : List (Move ε ν)) (holding : Holding ε ν)
    (makes : moves.filterMap Move.made? <+: states.drop holding.store.size)
    (kept : Kept holding.store) : Kept (holding.performAll scheduling moves).store := by
  induction moves generalizing holding with
  | nil => exact kept
  | cons move moves ih =>
      cases made : move.made? with
      | none =>
          rw [List.filterMap_cons_none made] at makes
          -- Without a new cell, the number of cells is among what is kept.
          have step := perform_preserves scheduling
            (fun store => Kept store ∧ store.size = holding.store.size) move
            (fun state impossible => by simp [made] at impossible)
            (fun store cell both =>
              ⟨start_kept store cell both.1, (Store.size_start _ _).trans both.2⟩)
            (fun store cell both => ⟨run_kept store cell both.1, (Store.size_run _ _).trans both.2⟩)
            (fun store cell both =>
              ⟨poll_kept store cell both.1, (Store.size_pollBelow _ _ _).trans both.2⟩)
            (fun store gate both => ⟨gate_kept store gate both.1, both.2⟩) holding ⟨kept, rfl⟩
          exact ih _ (step.2 ▸ makes) step.1
      | some state =>
          obtain ⟨needed, store_eq⟩ := perform_of_made scheduling made holding
          rw [List.filterMap_cons_some made] at makes
          obtain ⟨rest, states_eq⟩ := makes
          have next_state : states[holding.store.size]? = some state := by
            rw [← List.head?_drop, ← states_eq]
            rfl
          refine ih _ ?_ ?_
          · rw [store_eq, Store.size_allocate, ← List.tail_drop, ← states_eq]
            exact List.prefix_append _ rest
          · rw [store_eq]
            exact allocate_kept _ _ _ next_state kept

/-- Every handle names a cell. -/
def Inside (holding : Holding ε ν) : Prop :=
  ∀ handle cell, (handle, cell) ∈ holding.handles → cell < holding.store.size

theorem Inside.assign {holding : Holding ε ν} (inside : holding.Inside) (handle : String)
    {made : Nat × Store ε ν} (made_lt : made.1 < made.2.size)
    (size_le : holding.store.size ≤ made.2.size) : (holding.assign handle made).Inside := by
  intro other cell member
  rcases List.mem_cons.mp member with same | kept
  · rw [(Prod.mk.inj same).2]
    exact made_lt
  · exact Nat.lt_of_lt_of_le (inside other cell (List.mem_filter.mp kept).1) size_le

theorem Inside.lt {holding : Holding ε ν} (inside : holding.Inside) {handle : String} {cell : Nat}
    (found : holding.cell? handle = some cell) : cell < holding.store.size := by
  obtain ⟨_, _, handles_eq, _⟩ := List.lookup_eq_some_iff.mp found
  exact inside handle cell (by simp [handles_eq])

theorem Inside.act {holding : Holding ε ν} (inside : holding.Inside) (move : Move ε ν) :
    (holding.act scheduling move).Inside := by
  have larger := (continues_act scheduling holding move).store.size_le
  -- Most moves leave the handles as they are.
  have of_same : (holding.act scheduling move).handles = holding.handles →
      (holding.act scheduling move).Inside := by
    intro same handle cell member
    rw [same] at member
    exact Nat.lt_of_lt_of_le (inside handle cell member) larger
  have with_cell : ∀ (handle : String) (action : Nat → Pool ε ν),
      (holding.withCell handle action).handles = holding.handles := by
    intro handle action
    rw [withCell]
    split <;> rfl
  cases move with
  | create handle work needed =>
      exact inside.assign handle (by simp [Store.defer, Store.allocate, Store.size]) larger
  | know handle outcome =>
      exact inside.assign handle (by simp [Store.settled, Store.allocate, Store.size]) larger
  | clone handle origin =>
      rw [Holding.act] at larger ⊢
      split
      · next cell found => exact inside.assign handle (inside.lt found) (Nat.le_refl _)
      · exact inside
  | drop handle =>
      intro other cell member
      exact inside other cell (List.mem_filter.mp member).1
  | start handle => exact of_same (with_cell handle _)
  | get handle => exact of_same (with_cell handle _)
  | peek handle => exact inside
  | spawn handle => exact of_same (with_cell handle _)
  | turn turn => exact of_same rfl

theorem Inside.perform {holding : Holding ε ν} (inside : holding.Inside) (move : Move ε ν) :
    (holding.perform scheduling move).Inside :=
  fun handle cell member => inside.act scheduling move handle cell member

theorem inside_performAll (moves : List (Move ε ν)) :
    ((empty : Holding ε ν).performAll scheduling moves).Inside := by
  have run : ∀ (moves : List (Move ε ν)) (holding : Holding ε ν), holding.Inside →
      (holding.performAll scheduling moves).Inside := by
    intro moves
    induction moves with
    | nil => exact fun _ inside => inside
    | cons move moves ih => exact fun holding inside => ih _ (inside.perform scheduling move)
  refine run moves empty ?_
  intro handle cell member
  simp [empty] at member

end Holding

namespace Graph

variable [Listed ν α] [BEq α] {graph : Graph ε ν α} (scheduling : Scheduling)

/-- Whatever happens to the values of a graph, their cells tell its outcomes and wait at its gates
only. -/
theorem tells_performAll {moves : List (Move ε ν)} (made : graph.MadeBy moves)
    {opened : String → Prop}
    (passed : ∀ vertex ∈ graph.vertices, ∀ gate, vertex.WaitsAt gate → opened gate) :
    ((Holding.empty : Holding ε ν).performAll scheduling moves).store.Tells (fun _ => True) opened
      graph.outcome := by
  refine Holding.performAll_makes scheduling (Store.Tells (fun _ => True) opened graph.outcome)
    (graph.vertices.map Vertex.state) ?_ (fun _ cell tells => tells.start cell)
    (fun _ cell tells => tells.demand cell) (fun _ cell tells => tells.poll cell)
    (fun _ _ tells => ⟨tells.within, tells.means⟩) moves .empty made ?_
  · intro store state needed next tells
    rw [List.getElem?_map] at next
    obtain ⟨vertex, found, rfl⟩ := Option.map_eq_some_iff.mp next
    refine tells.allocate ?_ ?_ needed
    · exact Vertex.state_within (fun _ _ => trivial)
        (fun origin member _ => ⟨trivial, graph.acyclic store.size vertex found origin member⟩)
        (fun gate waits _ => passed vertex (List.mem_of_getElem? found) gate waits)
        (fun _ => trivial) trivial
    · intro _
      rw [outcome_eq found]
      exact vertex.state_means graph.outcome
  · constructor
    · intro cell state found
      simp [Holding.empty, Pool.empty, Executor.empty, Store.empty, Store.state?] at found
    · intro cell state _ found
      simp [Holding.empty, Pool.empty, Executor.empty, Store.empty, Store.state?] at found

/-- A wait that ends has ended with the outcome of the graph. -/
theorem get?_eq_outcome {moves : List (Move ε ν)} (made : graph.MadeBy moves) {handle : String}
    {cell : Nat} {outcome : Outcome ν} :
    let holding := (Holding.empty : Holding ε ν).performAll scheduling moves
    holding.cell? handle = some cell → holding.get? handle = some outcome →
      outcome = graph.outcome cell := by
  intro holding found answered
  rw [Holding.get?, found, Option.bind_some, Store.result?_run_outcomeOf] at answered
  have tells := tells_performAll scheduling made fun _ _ _ _ => trivial
  exact (tells.demand cell).outcome_eq trivial answered

/-- A wait ends if no closed gate is in the way. -/
theorem get?_of_open {moves : List (Move ε ν)} (made : graph.MadeBy moves) {handle : String}
    {cell : Nat} :
    let holding := (Holding.empty : Holding ε ν).performAll scheduling moves
    (∀ vertex ∈ graph.vertices, ∀ gate, vertex.WaitsAt gate → holding.store.isOpen gate = true) →
    holding.cell? handle = some cell → holding.get? handle = some (graph.outcome cell) := by
  intro holding gates_open found
  have inside : cell < holding.store.size := (Holding.inside_performAll scheduling moves).lt found
  have ended := (tells_performAll scheduling made gates_open).run_progress (fun _ => id)
    (Computation.outcomeOf_within cell ⟨trivial, inside⟩) (Computation.means_outcomeOf cell)
  rw [Holding.get?, found, Option.bind_some]
  cases rest : (holding.store.run (Computation.outcomeOf cell)).1 with
  | finish result =>
      rw [rest] at ended
      injection ended with same
      rw [Computation.result?, same]
  | breakOff | note | pass | start | await | peek =>
      rw [rest] at ended
      cases ended

/-- Outcomes depend neither on who runs the values of a graph nor on anything that happens to them.
-/
theorem outcomes_independent (graph : Graph ε ν α) :
    -- The outcomes of a graph are those of the direct evaluation.
    (∀ (cell : Nat) (vertex : Vertex ε ν α), graph.vertices[cell]? = some vertex →
      graph.outcome cell = vertex.outcome graph.outcome) ∧
    ∀ (scheduling : Scheduling) (moves : List (Move ε ν)), graph.MadeBy moves →
      let holding := (Holding.empty : Holding ε ν).performAll scheduling moves
      -- A wait that ends, a look that shows something, and a caller that has finished.
      (∀ handle cell outcome, holding.cell? handle = some cell →
        holding.get? handle = some outcome → outcome = graph.outcome cell) ∧
      (∀ handle cell outcome, holding.cell? handle = some cell →
        holding.outcome? handle = some outcome → outcome = graph.outcome cell) ∧
      (∀ (number cell : Nat) (outcome : Outcome ν),
        holding.callers[number]? = some (.finished cell outcome) →
        outcome = graph.outcome cell) ∧
      -- A wait ends once the gates of the graph are open.
      ((∀ vertex ∈ graph.vertices, ∀ gate, vertex.WaitsAt gate →
          holding.store.isOpen gate = true) →
        ∀ handle cell, holding.cell? handle = some cell →
          holding.get? handle = some (graph.outcome cell)) ∧
      -- Two waits for a value agree, whatever else is different.
      ∀ (other_scheduling : Scheduling) (other_moves : List (Move ε ν)),
        graph.MadeBy other_moves →
        let other := (Holding.empty : Holding ε ν).performAll other_scheduling other_moves
        ∀ handle other_handle cell outcome other_outcome, holding.cell? handle = some cell →
          other.cell? other_handle = some cell → holding.get? handle = some outcome →
          other.get? other_handle = some other_outcome → outcome = other_outcome := by
  refine ⟨fun cell vertex found => outcome_eq found, ?_⟩
  intro scheduling moves made holding
  have tells : holding.store.Tells (fun _ => True) (fun _ => True) graph.outcome :=
    tells_performAll scheduling made fun _ _ _ _ => trivial
  refine ⟨?_, ?_, ?_, ?_, ?_⟩
  · intro handle cell outcome found answered
    exact get?_eq_outcome scheduling made found answered
  · intro handle cell outcome found shown
    rw [Holding.outcome?, found, Option.bind_some] at shown
    exact tells.outcome_eq trivial shown
  · intro number cell outcome finished
    exact tells.outcome_eq trivial
      (Holding.honest_performAll scheduling moves number cell outcome finished)
  · intro gates_open handle cell found
    exact get?_of_open scheduling made gates_open found
  · intro other_scheduling other_moves other_made other handle other_handle cell outcome
      other_outcome found other_found answered other_answered
    rw [get?_eq_outcome scheduling made found answered,
      get?_eq_outcome other_scheduling other_made other_found other_answered]

/-- Lists behind a gate and known ones are merged, and a function of the gated list breaks off. -/
def gatedLists : Graph String (List String) String where
  vertices := [
    .deferred (.computed (.note "lists" (.pass "gate" (.finish (.ok ["a", "b"]))))),
    .deferred (.known (.ok ["b", "c"])),
    .deferred (.map 0 fun _ => .breakOff),
    .merge [⟨.normal, 0, none⟩, ⟨.high, 1, none⟩]]
  acyclic := by
    intro cell vertex found origin member
    match cell, found with
    | 0, found | 1, found => cases found; cases member
    | 2, found =>
        cases found
        rw [List.mem_singleton.mp member]
        decide
    | 3, found =>
        cases found
        simp only [Vertex.origins, List.map_cons, List.map_nil, List.mem_cons, List.not_mem_nil,
          or_false] at member
        omega
    | _ + 4, found => cases found

/-- The only caller is dropped before the gate opens, and later waits end all the same. -/
theorem gatedLists_outcomes :
    let making :=
      List.zipWith Vertex.move ["lists", "known", "broken", "merged"] gatedLists.vertices
    let moves := making ++ [.spawn "merged", .turn (.drop 0), .turn (.openGate "gate")]
    let spawned := (Holding.empty : Holding String (List String)).performAll .spawning moves
    let driven := (Holding.empty : Holding String (List String)).performAll .onDemand moves
    spawned.get? "merged" = some (.ok ["b", "c", "a"]) ∧
      driven.get? "merged" = some (.ok ["b", "c", "a"]) ∧
      driven.get? "broken" = some (.error (.cancelled "deferred computation panicked")) := by
  intro making moves spawned driven
  obtain ⟨evaluated, runs⟩ := outcomes_independent gatedLists
  have made : gatedLists.MadeBy moves :=
    gatedLists.madeBy_zipWith _ (by simp [Move.made?])
  have opened : ∀ holding : Holding String (List String), holding.store.isOpen "gate" = true →
      ∀ vertex ∈ gatedLists.vertices, ∀ gate, vertex.WaitsAt gate →
        holding.store.isOpen gate = true := by
    intro holding is_open vertex member gate waits
    simp only [gatedLists, List.mem_cons, List.not_mem_nil, or_false] at member
    rcases member with rfl | rfl | rfl | rfl
    · rw [List.mem_singleton.mp waits]
      exact is_open
    · cases waits
    · obtain ⟨_, impossible⟩ := waits
      cases impossible
    · cases waits
  obtain ⟨_, _, _, spawned_ends, _⟩ := runs .spawning moves made
  obtain ⟨_, _, _, driven_ends, _⟩ := runs .onDemand moves made
  have lists : gatedLists.outcome 0 = .ok ["a", "b"] := evaluated 0 _ rfl
  have known : gatedLists.outcome 1 = .ok ["b", "c"] := evaluated 1 _ rfl
  have merged : gatedLists.outcome 3 = .ok ["b", "c", "a"] := by
    have arranged : Collection.arrange
        ([⟨.normal, 0, none⟩, ⟨.high, 1, none⟩] : List (Source String)) =
        [⟨.high, 1, none⟩, ⟨.normal, 0, none⟩] := rfl
    rw [evaluated 3 _ rfl, Vertex.outcome, arranged, Collection.members_cons_ok known,
      Collection.members_cons_ok lists]
    rfl
  have broken : gatedLists.outcome 2 = .error (.cancelled "deferred computation panicked") := by
    rw [evaluated 2 _ rfl]
    simp only [Vertex.outcome, Node.outcome, lists]
    rfl
  refine ⟨?_, ?_, ?_⟩
  · rw [spawned_ends (opened spawned rfl) "merged" 3 rfl, merged]
  · rw [driven_ends (opened driven rfl) "merged" 3 rfl, merged]
  · rw [driven_ends (opened driven rfl) "broken" 2 rfl, broken]

end Graph

end Lazy

end SymbolResolver

import Mathlib.Data.List.Forall2
import SymbolResolver.Proofs.Decisions
import SymbolResolver.Proofs.Graphs
import SymbolResolver.Proofs.SharedSources

/-!
# Registered sources

A source is registered with its values, with a computation of its own, or by the name of a list that
was fed before. Each of them comes to the list of a leaf (`SourceSpec.Yields`), and the cells of a
collection come to the leaves of its registered sources in the order of their tiers
(`Shelf.build_unites`). The merged list is then the union of their outcomes, and it settles once the
gates up to the first failing source are open (`Collection.Unites.settles`).
-/

namespace SymbolResolver

namespace Lazy

variable {ε ν α β γ : Type}

/-! ## Roles with known outcomes -/

/-- The scope of a leaf: it waits at its gates and touches no cells. -/
def Leaf.scope (leaf : Leaf ε β) : Scope ε where
  passed gate := gate ∈ leaf.gates
  started _ := False
  awaited _ := False
  looked _ := False

/-- What a computation comes to that touches no cells. -/
def Computation.alone : Computation ε ν (Outcome β) → Outcome β
  | finish outcome => outcome
  | breakOff => .error .brokenOff
  | note _ next => next.alone
  | pass _ next => next.alone
  | start _ next => next.alone
  | await _ _ => .error .brokenOff
  | peek _ _ => .error .brokenOff

theorem Leaf.alone_work (leaf : Leaf ε (Outcome β)) :
    (leaf.work : Computation ε ν (Outcome β)).alone = leaf.outcome := by
  induction leaf with
  | finish outcome => rfl
  | breakOff => rfl
  | note event next ih => exact ih
  | pass gate next ih => exact ih

/-- A leaf whose successes are kept means its outcome. -/
theorem Leaf.mapOk_means (leaf : Leaf ε (Outcome β)) (wrap : β → ν) (shown : Nat → Outcome ν) :
    ∃ ending, (leaf.work.mapOk wrap : Computation ε ν (Outcome ν)).Means shown ending ∧
      ending.guarded = .finished (leaf.outcome.map wrap) := by
  obtain ⟨outcome, kept, guarded, means, kept_guarded⟩ := (leaf.means_work shown).kept wrap
  obtain rfl : leaf.outcome = outcome := by
    have own := leaf.ending_guarded.symm.trans guarded
    injection own
  exact ⟨kept, means, kept_guarded⟩

theorem Leaf.mapOk_within (leaf : Leaf ε (Outcome β)) (wrap : β → ν) :
    (leaf.work.mapOk wrap : Computation ε ν (Outcome ν)).Within leaf.scope :=
  Computation.within_mapOk (Leaf.within_work (fun _ _ => trivial) (fun _ => id) trivial) _

namespace Role

/-- A cell is made to come to the list of a leaf. -/
inductive Yields : Role ε ν α → Leaf ε (Outcome (List α)) → Prop
  /-- The leaf is its computation. -/
  | source (leaf : Leaf ε (Outcome (List α))) : Yields (.source leaf.work) leaf
  /-- The list is known. -/
  | values (items : List α) : Yields (.values items) (.finish (.ok items))

/-- A cell of a history is made to come to the list of a leaf. -/
def Fills (roles : List (Role ε ν α)) (cell : Nat) (leaf : Leaf ε (Outcome (List α))) : Prop :=
  ∃ role, roles[cell]? = some role ∧ role.Yields leaf

theorem getElem?_extend {roles known : List (Role ε ν α)} (longer : known <+: roles) {cell : Nat}
    {role : Role ε ν α} (found : known[cell]? = some role) : roles[cell]? = some role := by
  obtain ⟨more, rfl⟩ := longer
  rw [List.getElem?_append_left (List.getElem?_eq_some_iff.mp found).1]
  exact found

theorem Fills.extend {roles known : List (Role ε ν α)} (longer : known <+: roles) {cell : Nat}
    {leaf : Leaf ε (Outcome (List α))} (fills : Fills known cell leaf) : Fills roles cell leaf := by
  obtain ⟨role, found, yields⟩ := fills
  exact ⟨role, getElem?_extend longer found, yields⟩

/-- A new cell fills its role. -/
theorem fills_last (roles : List (Role ε ν α)) {role : Role ε ν α}
    {leaf : Leaf ε (Outcome (List α))} (yields : role.Yields leaf) :
    Fills (roles ++ [role]) roles.length leaf :=
  ⟨role, List.getElem?_concat_length, yields⟩

variable [Listed ν α]

/-- The outcome of a cell that comes to it on its own. -/
def outcome : Role ε ν α → Outcome ν
  | source work => work.alone.map Listed.wrap
  | values items => .ok (Listed.wrap items)
  | view _ _ | merge _ => .error .brokenOff

theorem Yields.outcome_eq {role : Role ε ν α} {leaf : Leaf ε (Outcome (List α))}
    (yields : role.Yields leaf) : role.outcome = leaf.outcome.map Listed.wrap := by
  cases yields with
  | source => rw [Role.outcome, leaf.alone_work]
  | values items => rfl

end Role

namespace Store.Booked

variable [Listed ν α] [BEq α] {roles : List (Role ε ν α)} {traces : Nat → List ε}
  {store : Store ε ν} {cell : Nat} {leaf : Leaf ε (Outcome (List α))}

/-- What is left to do in a cell that comes to a leaf is a part of the leaf. -/
theorem of_fills (booked : Booked (roles.map Role.state) traces store)
    (fills : Role.Fills roles cell leaf) (shown : Nat → Outcome ν) :
    ∃ state, store.state? cell = some state ∧ state.Within leaf.scope ∧
      state.Means shown (leaf.outcome.map Listed.wrap) := by
  obtain ⟨role, found, yields⟩ := fills
  have origin : (roles.map Role.state)[cell]? = some role.state := by
    rw [List.getElem?_map, found, Option.map_some]
  obtain ⟨state, at_cell, advances⟩ := booked.advances cell _ origin
  refine ⟨state, at_cell, ?_⟩
  cases yields with
  | source =>
      obtain ⟨ending, means, guarded⟩ := leaf.mapOk_means Listed.wrap shown
      have within := leaf.mapOk_within (ν := ν) Listed.wrap
      exact ⟨CellState.Advances.within advances within,
        CellState.Advances.means advances within (fun _ _ impossible => impossible.elim)
          (fun _ _ impossible => impossible.elim) means guarded⟩
  | values items =>
      obtain ⟨-, rfl⟩ := advances
      exact ⟨trivial, rfl⟩

theorem outcome_of_fills (booked : Booked (roles.map Role.state) traces store)
    (fills : Role.Fills roles cell leaf) {outcome : Outcome ν}
    (known : store.outcome? cell = some outcome) : outcome = leaf.outcome.map Listed.wrap := by
  obtain ⟨state, at_cell, -, means⟩ := booked.of_fills fills fun _ => outcome
  obtain rfl : CellState.settled outcome = state :=
    Option.some.inj ((outcome?_eq_some_iff.mp known).symm.trans at_cell)
  exact means

end Store.Booked

/-! ## Lists that go together -/

theorem exists_of_forall₂ {Related : β → γ → Prop} {left : List β} {right : List γ}
    (related : List.Forall₂ Related left right) {item : β} (member : item ∈ left) :
    ∃ other ∈ right, Related item other := by
  induction related with
  | nil => cases member
  | @cons first second left right together _ ih =>
      rcases List.mem_cons.mp member with rfl | later
      · exact ⟨second, List.mem_cons_self, together⟩
      · obtain ⟨other, other_mem, found⟩ := ih later
        exact ⟨other, List.mem_cons_of_mem second other_mem, found⟩

/-- Lists with equal successes and failures have their first failures at the same place. -/
theorem forall₂_upToFailure {δ κ : Type} {Related : β → γ → Prop} {outcome : β → Outcome δ}
    {other : γ → Outcome κ} {left : List β} {right : List γ}
    (related : List.Forall₂ Related left right) (change : κ → δ)
    (same : ∀ item counterpart, Related item counterpart →
      outcome item = (other counterpart).map change) :
    List.Forall₂ Related (upToFailure outcome left) (upToFailure other right) := by
  induction related with
  | nil => exact .nil
  | @cons item counterpart left right together _ ih =>
      have outcome_eq := same item counterpart together
      cases found : other counterpart with
      | ok value =>
          rw [found] at outcome_eq
          rw [upToFailure_of_ok other found, upToFailure_of_ok outcome outcome_eq]
          exact .cons together ih
      | error error =>
          rw [found] at outcome_eq
          rw [upToFailure_of_error other found, upToFailure_of_error outcome outcome_eq]
          exact .cons together .nil

/-! ## Collections of registered sources -/

namespace Collection

variable [Listed ν α]

/-- The merged list of a collection is made from cells that come to the leaves of plans, in the
order of their priorities. -/
structure Unites (roles : List (Role ε ν α)) (plans : List (Priority × Leaf ε (Outcome (List α))))
    (collection : Collection α) : Prop where
  merged : roles[collection.merged]? = some (.merge collection.sources)
  /-- A merged list comes after its sources. -/
  earlier : ∀ source ∈ collection.sources, source.cell < collection.merged
  sources : List.Forall₂ (fun source leaf => Role.Fills roles source.cell leaf)
    collection.sources (tiers plans)

/-- The outcomes of plans, with their priorities. -/
def outcomes (plans : List (Priority × Leaf ε (Outcome (List α)))) :
    List (Priority × Outcome (List α)) :=
  plans.map fun plan => (plan.1, plan.2.outcome)

/-- The gates of the plans up to the first one that fails, in the order of the priorities. -/
def AwaitsGate (plans : List (Priority × Leaf ε (Outcome (List α)))) (gate : String) : Prop :=
  ∃ leaf ∈ upToFailure Leaf.outcome (tiers plans), gate ∈ leaf.gates

theorem members_eq {shown : Nat → Outcome ν} {sources : List (Source α)}
    {leaves : List (Leaf ε (Outcome (List α)))}
    (related : List.Forall₂ (fun (source : Source α) leaf =>
      shown source.cell = leaf.outcome.map Listed.wrap) sources leaves) :
    members shown sources = ((leaves.map Leaf.outcome).mapM id).map List.flatten := by
  induction related with
  | nil => rfl
  | @cons source leaf sources leaves same _ ih =>
      rw [List.map_cons, List.mapM_cons]
      cases found : leaf.outcome with
      | error error =>
          rw [found] at same
          rw [members_cons_error same]
          rfl
      | ok items =>
          rw [found] at same
          rw [members_cons_ok same, ih, Listed.unwrap_wrap]
          cases (leaves.map Leaf.outcome).mapM id <;> rfl

namespace Unites

variable [BEq α] {roles : List (Role ε ν α)} {traces : Nat → List ε} {store : Store ε ν}
  {plans : List (Priority × Leaf ε (Outcome (List α)))} {collection : Collection α}

/-- What the cells of a history come to that come to something on their own. -/
def shown (roles : List (Role ε ν α)) (cell : Nat) : Outcome ν :=
  ((roles[cell]?).map Role.outcome).getD (.error .brokenOff)

omit [BEq α] in
theorem shown_eq {cell : Nat} {leaf : Leaf ε (Outcome (List α))}
    (fills : Role.Fills roles cell leaf) :
    shown roles cell = leaf.outcome.map Listed.wrap := by
  obtain ⟨role, found, yields⟩ := fills
  rw [shown, found, Option.map_some, Option.getD_some, yields.outcome_eq]

/-- The distinct members of the sources are the union of the plans. -/
theorem members_shown (unites : collection.Unites roles plans) :
    (members (shown roles) collection.sources).map (fun items => Listed.wrap (distinct items)) =
      (union (outcomes plans)).map (Listed.wrap : List α → ν) := by
  have related := unites.sources.imp fun (source : Source α) leaf fills => shown_eq fills
  rw [members_eq related, union, outcomes, tiers_map]
  cases ((tiers plans).map Leaf.outcome).mapM id <;> rfl

/-- A cell of a source shows what it comes to, if it shows anything. -/
theorem source_agrees (unites : collection.Unites roles plans)
    (booked : store.Booked (roles.map Role.state) traces) {source : Source α}
    (member : source ∈ collection.sources) {outcome : Outcome ν}
    (known : store.outcome? source.cell = some outcome) : outcome = shown roles source.cell := by
  obtain ⟨leaf, -, fills⟩ := exists_of_forall₂ unites.sources member
  rw [shown_eq fills]
  exact booked.outcome_of_fills fills known

/-- The cells of a collection's sources. -/
def asking (collection : Collection α) : Scope ε where
  awaited cell := ∃ source ∈ collection.sources, source.cell = cell
  looked _ := False

theorem merged_advances (unites : collection.Unites roles plans)
    (booked : store.Booked (roles.map Role.state) traces) :
    ∃ state, store.state? collection.merged = some state ∧
      (CellState.pending (mergeWork collection.sources)).Advances store
        (traces collection.merged) state := by
  refine booked.advances collection.merged _ ?_
  rw [List.getElem?_map, unites.merged]
  rfl

/-- The outcome of the merged list is the union of the plans. -/
theorem merged_outcome (unites : collection.Unites roles plans)
    (booked : store.Booked (roles.map Role.state) traces) {outcome : Outcome ν}
    (known : store.outcome? collection.merged = some outcome) :
    outcome = (union (outcomes plans)).map Listed.wrap := by
  obtain ⟨state, at_merged, advances⟩ := unites.merged_advances booked
  obtain rfl : CellState.settled outcome = state :=
    Option.some.inj ((Store.outcome?_eq_some_iff.mp known).symm.trans at_merged)
  have within : (mergeWork collection.sources : Computation ε ν (Outcome ν)).Within
      (asking collection) :=
    mergeWork_within (fun _ _ => trivial) fun source member => ⟨source, member, rfl⟩
  have agree : ∀ cell outcome, (asking collection : Scope ε).awaited cell →
      store.outcome? cell = some outcome → outcome = shown roles cell := by
    rintro _ outcome ⟨source, member, rfl⟩ source_known
    exact unites.source_agrees booked member source_known
  have merged_means : (mergeWork collection.sources : Computation ε ν (Outcome ν)).Means
      (shown roles) _ := mergeWork_means collection.sources
  have means := CellState.Advances.means advances within agree
    (fun _ _ impossible => impossible.elim) merged_means rfl
  rw [members_shown unites] at means
  exact means

/-- A source up to the first one that fails. -/
def Deciding (roles : List (Role ε ν α)) (collection : Collection α) (cell : Nat) : Prop :=
  ∃ source ∈ upToFailure (fun source => shown roles source.cell) collection.sources,
    source.cell = cell

/-- The sources up to the first one that fails come to their outcomes and wait at their gates. -/
theorem tells (unites : collection.Unites roles plans)
    (booked : store.Booked (roles.map Role.state) traces) :
    store.Tells (Deciding roles collection) (AwaitsGate plans) (shown roles) := by
  have deciding := forall₂_upToFailure unites.sources Listed.wrap
    fun source leaf fills => shown_eq fills
  -- What is known about the cell of a source is known about its state.
  have of_deciding : ∀ cell state, Deciding roles collection cell →
      store.state? cell = some state →
      ∃ leaf ∈ upToFailure Leaf.outcome (tiers plans), state.Within leaf.scope ∧
        state.Means (shown roles) (shown roles cell) := by
    rintro _ state ⟨source, member, rfl⟩ found
    obtain ⟨leaf, leaf_mem, fills⟩ := exists_of_forall₂ deciding member
    obtain ⟨own, at_cell, within, means⟩ := booked.of_fills fills (shown roles)
    obtain rfl : own = state := Option.some.inj (at_cell.symm.trans found)
    rw [← shown_eq fills] at means
    exact ⟨leaf, leaf_mem, within, means⟩
  constructor
  · intro cell state found
    by_cases is_deciding : Deciding roles collection cell
    · obtain ⟨leaf, leaf_mem, within, -⟩ := of_deciding cell state is_deciding found
      have le : leaf.scope.Le (among (Deciding roles collection) (AwaitsGate plans) cell) :=
        ⟨fun _ => id, fun gate at_gate _ => ⟨leaf, leaf_mem, at_gate⟩, fun _ => False.elim,
          fun _ => False.elim, fun _ => False.elim, id⟩
      exact within.mono le
    · exact state.within_all.mono (all_le_among _ is_deciding)
  · intro cell state is_deciding found
    obtain ⟨leaf, -, -, means⟩ := of_deciding cell state is_deciding found
    exact means

/-- Whoever waits for the merged list gets it, once the gates of the sources up to the first one
that fails are open. -/
theorem settles (unites : collection.Unites roles plans)
    (booked : store.Booked (roles.map Role.state) traces)
    (gates : ∀ gate, AwaitsGate plans gate → store.isOpen gate = true) :
    ∃ outcome, (Store.pollBelow store.size collection.merged
      (store.start collection.merged)).outcome? collection.merged = some outcome := by
  have tells := unites.tells booked
  obtain ⟨state, at_merged, advances⟩ := unites.merged_advances booked
  refine tells.settles_of_decided gates at_merged (CellState.Advances.decided advances ?_ ?_)
  · exact fun cell outcome sure known => tells.outcome_eq sure.1 known
  · refine mergeWork_decided fun source member => ⟨⟨source, member, rfl⟩, ?_⟩
    exact unites.earlier source ((upToFailure_sublist _ _).subset member)

end Unites

omit [Listed ν α] in
/-- A collection keeps its cells in a longer history. -/
theorem Unites.extend {roles longer : List (Role ε ν α)}
    {plans : List (Priority × Leaf ε (Outcome (List α)))} {collection : Collection α}
    (unites : collection.Unites roles plans) (extends_roles : roles <+: longer) :
    collection.Unites longer plans where
  merged := Role.getElem?_extend extends_roles unites.merged
  earlier := unites.earlier
  sources := unites.sources.imp fun _ _ fills => fills.extend extends_roles

end Collection

/-! ## Registration -/

/-- What a registered source is made of comes to the list of a leaf. A name stands for the list that
was named last, and for the empty one if there is none. -/
inductive SourceSpec.Yields (feeds : List (String × Nat)) (roles : List (Role ε ν α)) :
    SourceSpec ε ν α → Leaf ε (Outcome (List α)) → Prop
  | values (items : List α) : Yields feeds roles (.values items) (.finish (.ok items))
  | computed (leaf : Leaf ε (Outcome (List α))) (needed : List Nat) (hint : Option (α → Bool)) :
      Yields feeds roles (.computed leaf.work needed hint) leaf
  | named {name : String} {cell : Nat} {leaf : Leaf ε (Outcome (List α))}
      (hint : Option (α → Bool)) : feeds.lookup name = some cell → Role.Fills roles cell leaf →
      Yields feeds roles (.feed name hint) leaf
  | unknown {name : String} (hint : Option (α → Bool)) : feeds.lookup name = none →
      Yields feeds roles (.feed name hint) (.finish (.ok []))

namespace Shelf

variable [Listed ν α] [BEq α]

omit [BEq α] in
/-- The cell of a registered source comes to its leaf. -/
theorem register_fills (shelf : Shelf ε ν α) {roles known : List (Role ε ν α)}
    (longer : known <+: roles) {store : Store ε ν} (sized : store.size = roles.length)
    (priority : Priority) {spec : SourceSpec ε ν α} {leaf : Leaf ε (Outcome (List α))}
    (yields : spec.Yields shelf.feeds known leaf) :
    (shelf.register store priority spec).1.priority = priority ∧
      Role.Fills (roles ++ shelf.registered spec) (shelf.register store priority spec).1.cell
        leaf := by
  have new_cell : ∀ {role : Role ε ν α} {leaf : Leaf ε (Outcome (List α))}, role.Yields leaf →
      Role.Fills (roles ++ [role]) store.size leaf := by
    intro role leaf yields
    rw [sized]
    exact Role.fills_last roles yields
  cases yields with
  | values items => exact ⟨rfl, new_cell (.values items)⟩
  | computed leaf needed hint => exact ⟨rfl, new_cell (.source leaf)⟩
  | named hint found fills =>
      simp only [register, registered, found, Option.isSome_some, if_true, List.append_nil]
      exact ⟨trivial, fills.extend longer⟩
  | unknown hint absent =>
      simp only [register, registered, absent, Option.isSome_none, Bool.false_eq_true, if_false]
      exact ⟨trivial, new_cell (.values [])⟩

/-- The cells of registered sources come to their leaves. -/
theorem registerAll_fills (shelf : Shelf ε ν α) {known : List (Role ε ν α)}
    {specs : List (Priority × SourceSpec ε ν α)}
    {plans : List (Priority × Leaf ε (Outcome (List α)))}
    (yields : List.Forall₂ (fun spec plan => spec.1 = plan.1 ∧
      spec.2.Yields shelf.feeds known plan.2) specs plans) {roles : List (Role ε ν α)}
    (longer : known <+: roles) {store : Store ε ν} (sized : store.size = roles.length) :
    List.Forall₂ (fun source plan => source.priority = plan.1 ∧
      Role.Fills (roles ++ specs.flatMap fun (_, spec) => shelf.registered spec) source.cell plan.2)
      (shelf.registerAll store specs).1 plans := by
  induction yields generalizing roles store with
  | nil => exact .nil
  | @cons entry plan specs plans together _ ih =>
      obtain ⟨priority, spec⟩ := entry
      obtain ⟨rfl, spec_yields⟩ := together
      obtain ⟨same_priority, fills⟩ :=
        shelf.register_fills longer sized plan.1 spec_yields
      have sized_after : (shelf.register store plan.1 spec).2.size =
          (roles ++ shelf.registered spec).length := by
        rw [(shelf.register_appends store plan.1 spec).size_eq, sized, List.length_map,
          List.length_append]
      have others := ih (longer.trans (List.prefix_append roles _)) sized_after
      rw [List.flatMap_cons, ← List.append_assoc]
      exact .cons ⟨same_priority, fills.extend (List.prefix_append _ _)⟩ others

omit [Listed ν α] [BEq α] in
/-- Sources and plans with the same priorities stay together when they are put in order. -/
theorem arrange_tiers {Related : Source α → β → Prop} {sources : List (Source α)}
    {plans : List (Priority × β)}
    (related : List.Forall₂ (fun source plan => source.priority = plan.1 ∧
      Related source plan.2) sources plans) :
    List.Forall₂ Related (Collection.arrange sources) (tiers plans) := by
  have tier : ∀ rank : Priority, List.Forall₂ (fun source plan => source.priority = plan.1 ∧
      Related source plan.2) (sources.filter (·.priority == rank))
        (plans.filter (·.1 == rank)) := by
    intro rank
    refine List.rel_filter ?_ related
    intro source plan together
    simp only [together.1]
  have arranged := List.rel_append (List.rel_append (tier .high) (tier .normal)) (tier .low)
  rw [tiers, List.forall₂_map_right_iff]
  exact arranged.imp fun _ _ together => together.2

/-- A new collection unites the plans of its registered sources. -/
theorem build_unites (shelf : Shelf ε ν α) {roles : List (Role ε ν α)}
    (sized : shelf.store.size = roles.length)
    {registered : List (Priority × SourceSpec ε ν α)}
    {plans : List (Priority × Leaf ε (Outcome (List α)))}
    (yields : List.Forall₂ (fun entry plan => entry.1 = plan.1 ∧
      entry.2.Yields shelf.feeds roles plan.2) registered plans) (handle : String) :
    let built := Collection.build (shelf.registerAll shelf.store registered).2
      (shelf.registerAll shelf.store registered).1
    built.1.Unites (roles ++ shelf.made (.build handle registered)) plans := by
  intro built
  have related := shelf.registerAll_fills yields (List.prefix_refl roles) sized
  let before := roles ++ registered.flatMap fun (_, spec) => shelf.registered spec
  have merged_eq : built.1.merged = before.length := by
    have appended := (shelf.registerAll_appends shelf.store registered).size_eq
    rw [sized, List.length_map, ← List.length_append] at appended
    exact appended
  have roles_eq : roles ++ shelf.made (.build handle registered) =
      before ++ [.merge built.1.sources] := by
    rw [made, ← List.append_assoc]
    rfl
  have arranged : List.Forall₂ (fun source leaf => Role.Fills before source.cell leaf)
      built.1.sources (tiers plans) :=
    arrange_tiers related
  rw [roles_eq]
  refine ⟨?_, ?_, ?_⟩
  · rw [merged_eq, List.getElem?_concat_length]
  · intro source member
    obtain ⟨leaf, -, role, found, -⟩ := exists_of_forall₂ arranged member
    rw [merged_eq]
    exact (List.getElem?_eq_some_iff.mp found).1
  · exact arranged.imp fun _ _ fills => fills.extend (List.prefix_append before _)

end Shelf

end Lazy

end SymbolResolver

import NodeShader.Proofs.Deriving
import NodeShader.Proofs.Refresh
import NodeShader.Proofs.Retyping

/-! The connections of a graph after its wrappers were brought up to date. A wrapper has the slots that
its definition lends, and these decide: when the refresh runs through, the connections are left whose
ends are lent as they are needed. A refresh that stops at a wrapper drops nothing, so that behind the
wrappers in front of it connections may be left in the air. -/
namespace NodeShader

/-- What a graph lends to its wrappers: an input for each property and an output for each outlet. -/
def ShaderGraph.Lends (graph : ShaderGraph) (id : SlotId) : Direction → Prop
  | .input => ∃ property ∈ graph.properties, property.slotId = id
  | .output => ∃ outlet ∈ graph.outputs, outlet.id = id

instance (graph : ShaderGraph) (id : SlotId) :
    (direction : Direction) → Decidable (graph.Lends id direction)
  | .input => inferInstanceAs (Decidable (∃ property ∈ graph.properties, property.slotId = id))
  | .output => inferInstanceAs (Decidable (∃ outlet ∈ graph.outputs, outlet.id = id))

theorem ShaderGraph.lends_iff {graph : ShaderGraph} {inputs all : List Slot}
    (derived : graph.interface = .ok (inputs, all)) (id : SlotId) (direction : Direction) :
    graph.Lends id direction ↔ ∃ source ∈ all, source.id = id ∧ source.direction = direction := by
  obtain ⟨related, rfl, _⟩ := interface_eq_ok derived
  constructor
  · intro lends
    cases direction with
    | input =>
      obtain ⟨property, exposed, rfl⟩ := lends
      obtain ⟨source, member, carried⟩ := exists_related related.flip exposed
      obtain ⟨own, takes, _⟩ := Property.inputSlot_eq_ok carried
      exact ⟨source, List.mem_append_left _ member, own, takes⟩
    | output =>
      obtain ⟨outlet, declared, rfl⟩ := lends
      exact ⟨_, List.mem_append_right _ (List.mem_map.2 ⟨outlet, declared, rfl⟩), rfl, rfl⟩
  · rintro ⟨source, member, rfl, rfl⟩
    rcases List.mem_append.1 member with listed | listed
    · obtain ⟨property, exposed, carried⟩ := exists_related related listed
      obtain ⟨own, takes, _⟩ := Property.inputSlot_eq_ok carried
      rw [takes]
      exact ⟨property, exposed, own.symm⟩
    · obtain ⟨outlet, declared, rfl⟩ := List.mem_map.1 listed
      exact ⟨outlet, declared, rfl⟩

/-- The definition that a wrapper is bound to is there and lends the slot. -/
def View.Lends (view : View) (wrapper : Wrapper) (id : SlotId) (direction : Direction) : Prop :=
  ∃ definition, wrapper.handle.bind view.lookup = some definition ∧
    definition.graph.Lends id direction

instance (view : View) (wrapper : Wrapper) (id : SlotId) (direction : Direction) :
    Decidable (view.Lends wrapper id direction) :=
  decidable_of_iff (∃ definition ∈ wrapper.handle.bind view.lookup,
    definition.graph.Lends id direction) Iff.rfl

def SlotTable.Has (table : SlotTable) (id : SlotId) (direction : Direction) : Prop :=
  ∃ slot, table.get? id = some slot ∧ slot.direction = direction

theorem Graph.offers_iff_has {graph : Graph} {place : Endpoint} {node : Node}
    (known : graph.node? place.node = some node) (direction : Direction) :
    graph.Offers place direction ↔ node.slots.Has place.slot direction := by
  simp [Offers, SlotTable.Has, known]

/-- A wrapper that was brought up to date has what its definition lends and nothing else. -/
theorem Wrapper.has_sync_iff {view : View} {wrapper : Wrapper} {slots : SlotTable} {changed : Bool}
    (ok : (wrapper.sync view slots).outcome = .ok changed) (id : SlotId) (direction : Direction) :
    (wrapper.sync view slots).slots.Has id direction ↔ view.Lends wrapper id direction := by
  rcases sync_derived ok with ⟨missing, empty⟩ | ⟨definition, inputs, all, stored, derived, lends, lent⟩
  · simp [SlotTable.Has, View.Lends, missing, empty]
  · have exact : view.Lends wrapper id direction ↔ definition.graph.Lends id direction := by
      simp [View.Lends, stored]
    rw [exact, definition.graph.lends_iff derived]
    constructor
    · rintro ⟨slot, found, rfl⟩
      obtain ⟨source, member, same, default, rfl⟩ := lent id slot found
      exact ⟨source, member, same, rfl⟩
    · rintro ⟨source, member, rfl, rfl⟩
      obtain ⟨default, found⟩ := lends source member
      exact ⟨_, found, rfl⟩

/-- The definition that is stored under the handle has something wrong with what it would lend. -/
def View.Misfits (view : View) (handle : Option Handle) (definition : Live) (cause : SlotError) : Prop :=
  handle.bind view.lookup = some definition ∧
    Refused (lendings definition.graph.properties definition.graph.outputs) cause

theorem Wrapper.sync_eq_error {view : View} {wrapper : Wrapper} {slots : SlotTable} {cause : SlotError}
    (failed : (wrapper.sync view slots).outcome = .error cause) :
    ∃ definition, view.Misfits wrapper.handle definition cause ∧
      wrapper.sync view slots =
        ⟨{ wrapper with cached := some definition.serial }, slots, .error cause⟩ := by
  cases found : wrapper.handle.bind view.lookup with
  | none =>
    rw [sync_of_missing found] at failed
    cases failed
  | some definition =>
    rcases definition.graph.interface_cases with ⟨all, _, derived⟩ | ⟨other, refused, clash⟩
    · rw [sync_of_interface found derived] at failed
      cases failed
    · rw [sync_of_clash found clash] at failed ⊢
      cases failed
      exact ⟨definition, ⟨found, refused⟩, rfl⟩

namespace Node
variable {view : View} {node : Node}

theorem refresh_of_wrapper (view : View) {node : Node} {wrapper : Wrapper}
    (kind : node.kind = .wrapper wrapper) :
    (node.refresh view).1.slots = (wrapper.sync view node.slots).slots ∧
      (node.refresh view).2 = (wrapper.sync view node.slots).outcome := by
  simp [refresh, kind, withSync]

/-- What becomes of a slot that a node has when the node is refreshed. -/
theorem has_refresh_iff {changed : Bool} (ok : (node.refresh view).2 = .ok changed) {id : SlotId}
    {direction : Direction} (had : node.slots.Has id direction) :
    (node.refresh view).1.slots.Has id direction ↔
      ∀ wrapper, node.kind = .wrapper wrapper → view.Lends wrapper id direction := by
  cases plain : node.wrapper? with
  | none =>
    have other (wrapper : Wrapper) : node.kind ≠ .wrapper wrapper := fun kind => by
      simp [wrapper?, kind] at plain
    rw [refresh_of_plain view plain]
    exact ⟨fun _ wrapper kind => absurd kind (other wrapper), fun _ => had⟩
  | some wrapper =>
    have kind : node.kind = .wrapper wrapper := (node.wrapper?_eq_some_iff wrapper).1 plain
    obtain ⟨slots, outcome⟩ := refresh_of_wrapper view kind
    rw [slots, wrapper.has_sync_iff (outcome ▸ ok)]
    simp [kind]

theorem slots_refresh_of_error {cause : SlotError} (failed : (node.refresh view).2 = .error cause) :
    (node.refresh view).1.slots = node.slots := by
  cases plain : node.wrapper? with
  | none => rw [refresh_of_plain view plain]
  | some wrapper =>
    obtain ⟨slots, outcome⟩ := refresh_of_wrapper view ((node.wrapper?_eq_some_iff wrapper).1 plain)
    obtain ⟨_, _, left⟩ := Wrapper.sync_eq_error (outcome.symm.trans failed)
    rw [slots, left]

end Node

/-- Those of the nodes that are wrappers are lent what is needed at the place. -/
def View.Provides (view : View) (nodes : List (NodeId × Node)) (place : Endpoint)
    (direction : Direction) : Prop :=
  ∀ node wrapper, (place.node, node) ∈ nodes → node.kind = .wrapper wrapper →
    view.Lends wrapper place.slot direction

instance (view : View) (nodes : List (NodeId × Node)) (place : Endpoint) (direction : Direction) :
    Decidable (view.Provides nodes place direction) :=
  decidable_of_iff (∀ entry ∈ nodes, entry.1 = place.node → ∀ wrapper ∈ entry.2.wrapper?,
    view.Lends wrapper place.slot direction) <| by
  constructor
  · intro lent node wrapper member kind
    exact lent _ member rfl wrapper ((node.wrapper?_eq_some_iff wrapper).2 kind)
  · rintro provided ⟨_, node⟩ member rfl wrapper wraps
    exact provided node wrapper member ((node.wrapper?_eq_some_iff wrapper).1 wraps)

/-- A graph before and after some of its nodes were brought up to date. -/
structure View.Updates (view : View) (reached : List (NodeId × Node)) (graph after : Graph) : Prop where
  inside : ∀ entry ∈ reached, entry ∈ graph.nodes.entries
  passed : ∀ entry ∈ reached, ∃ changed, (entry.2.refresh view).2 = .ok changed
  slots : ∀ id node, graph.node? id = some node → ∃ left, after.node? id = some left ∧
    ((id, node) ∈ reached ∧ left.slots = (node.refresh view).1.slots ∨
      (id, node) ∉ reached ∧ left.slots = node.slots)

theorem View.Updates.offers_iff {view : View} {reached : List (NodeId × Node)} {graph after : Graph}
    (updates : view.Updates reached graph after) {place : Endpoint} {direction : Direction}
    (offer : graph.Offers place direction) :
    after.Offers place direction ↔ view.Provides reached place direction := by
  obtain ⟨node, slot, known, found, aimed⟩ := offer
  have had : node.slots.Has place.slot direction := ⟨slot, found, aimed⟩
  have only {other : Node} (member : (place.node, other) ∈ reached) : other = node := by
    have filed := (graph.nodes.get?_eq_some_iff _ _).2 (updates.inside _ member)
    exact Option.some.inj (filed.symm.trans known)
  obtain ⟨left, here, ⟨member, slots⟩ | ⟨outside, slots⟩⟩ := updates.slots place.node node known
  · obtain ⟨changed, ok⟩ := updates.passed _ member
    rw [Graph.offers_iff_has here, slots, Node.has_refresh_iff ok had]
    constructor
    · intro lent other wrapper inside kind
      exact lent wrapper (only inside ▸ kind)
    · intro provided wrapper kind
      exact provided node wrapper member kind
  · rw [Graph.offers_iff_has here, slots]
    exact ⟨fun _ other wrapper inside => absurd (only inside ▸ inside) outside, fun _ => had⟩

namespace ShaderGraph
variable {view : View} {graph : ShaderGraph}

/-- A refresh that runs through leaves the connections that join what they should after it. -/
theorem filed_refreshWrappers {count : Nat}
    (joined : ∀ connection ∈ graph.connections,
      graph.Offers connection.source .output ∧ graph.Offers connection.target .input)
    (ok : (graph.refreshWrappers view).2 = .ok count) :
    let after := (graph.refreshWrappers view).1
    after.filed = graph.filed.filter fun entry =>
      after.Offers entry.2.source .output ∧ after.Offers entry.2.target .input := by
  obtain ⟨_, still⟩ := joined_refreshWrappers joined ok
  obtain ⟨changed, filed, _, _, _, result⟩ := refreshWrappers_eq_ok ok
  dsimp only at still ⊢
  rw [result] at still ⊢
  rw [← filed]
  by_cases quiet : count = 0
  · -- The connections were not looked through, and as no slot is different they all still join.
    rw [if_pos quiet] at still ⊢
    refine (List.filter_eq_self.2 fun entry member => decide_eq_true ?_).symm
    exact still entry.2 (List.mem_map.2 ⟨entry, member, rfl⟩)
  · rw [if_neg quiet]
    refine List.filter_congr fun entry _ => ?_
    rw [Bool.eq_iff_iff, Graph.joins_iff, decide_eq_true_iff]
    rfl

theorem keys_refreshWrappers (view : View) (graph : ShaderGraph) :
    (graph.refreshWrappers view).1.nodes.keys = graph.nodes.keys := by
  rw [Keyed.keys, entries_refreshWrappers, refreshEntries_keys]
  rfl

/-- Where a refresh ends too early: the entries in front are brought up to date, and one is not. -/
structure Halts (view : View) (entries before : List (NodeId × Node)) (failing : NodeId × Node)
    (behind : List (NodeId × Node)) (cause : SlotError) : Prop where
  split : entries = before ++ failing :: behind
  passed : ∀ entry ∈ before, ∃ changed, (entry.2.refresh view).2 = .ok changed
  failed : (failing.2.refresh view).2 = .error cause

/-- By induction on the entries, whatever was counted before them. -/
theorem refreshEntries_eq_error {count : Nat} {cause : SlotError} {entries : List (NodeId × Node)}
    (failed : (refreshEntries view count entries).2 = .error cause) :
    ∃ before failing behind, Halts view entries before failing behind cause ∧
      (refreshEntries view count entries).1 =
        before.map (fun entry => (entry.1, (entry.2.refresh view).1)) ++
          (failing.1, (failing.2.refresh view).1) :: behind := by
  induction entries generalizing count with
  | nil => contradiction
  | cons entry rest ih =>
    obtain ⟨id, node⟩ := entry
    simp only [refreshEntries] at failed ⊢
    split at failed
    next refreshed other step =>
      cases failed
      exact ⟨[], (id, node), rest, ⟨rfl, by simp, by rw [step]⟩, by simp [step]⟩
    next refreshed changed step =>
      obtain ⟨before, failing, behind, halts, left⟩ := ih failed
      refine ⟨(id, node) :: before, failing, behind, ⟨by rw [halts.split]; rfl, ?_, halts.failed⟩, ?_⟩
      · intro entry member
        rcases List.mem_cons.1 member with rfl | later
        · exact ⟨changed, by rw [step]⟩
        · exact halts.passed entry later
      · simp [step, left]

theorem updates_of_ok {count : Nat} (ok : (graph.refreshWrappers view).2 = .ok count) :
    view.Updates graph.nodes.entries graph.toGraph (graph.refreshWrappers view).1.toGraph where
  inside _ member := member
  passed entry member :=
    outcome_of_refreshWrappers ok entry.2 (List.mem_map.2 ⟨entry, member, rfl⟩)
  slots id node known := by
    have filed := (graph.nodes.get?_eq_some_iff id node).1 known
    exact ⟨_, by rw [node?_refreshWrappers ok, known]; rfl, .inl ⟨filed, rfl⟩⟩

theorem Halts.updates {graph after : Graph} {before : List (NodeId × Node)} {failing : NodeId × Node}
    {behind : List (NodeId × Node)} {cause : SlotError}
    (halts : Halts view graph.nodes.entries before failing behind cause)
    (entries : after.nodes.entries = before.map (fun entry => (entry.1, (entry.2.refresh view).1)) ++
      (failing.1, (failing.2.refresh view).1) :: behind) : view.Updates before graph after where
  inside entry member := by
    rw [halts.split]
    exact List.mem_append_left _ member
  passed := halts.passed
  slots id node known := by
    have held {left : Node} (member : (id, left) ∈
        before.map (fun entry => (entry.1, (entry.2.refresh view).1)) ++
          (failing.1, (failing.2.refresh view).1) :: behind) : after.node? id = some left :=
      (after.nodes.get?_eq_some_iff id left).2 (entries ▸ member)
    have member := (graph.nodes.get?_eq_some_iff id node).1 known
    by_cases reached : (id, node) ∈ before
    · exact ⟨_, held (List.mem_append_left _ (List.mem_map.2 ⟨_, reached, rfl⟩)),
        .inl ⟨reached, rfl⟩⟩
    · rw [halts.split] at member
      rcases List.mem_cons.1 ((List.mem_append.1 member).resolve_left reached) with rfl | later
      · exact ⟨_, held (List.mem_append_right _ List.mem_cons_self),
          .inr ⟨reached, Node.slots_refresh_of_error halts.failed⟩⟩
      · exact ⟨node, held (List.mem_append_right _ (List.mem_cons_of_mem _ later)),
          .inr ⟨reached, rfl⟩⟩

/-- A refresh that fails has dropped no connection, and has only reached the nodes in front of the one
at fault. -/
theorem refreshWrappers_eq_error {cause : SlotError}
    (failed : (graph.refreshWrappers view).2 = .error cause) :
    ∃ before failing behind, Halts view graph.nodes.entries before failing behind cause ∧
      (graph.refreshWrappers view).1.filed = graph.filed ∧
      view.Updates before graph.toGraph (graph.refreshWrappers view).1.toGraph := by
  rw [outcome_refreshWrappers] at failed
  obtain ⟨before, failing, behind, halts, left⟩ := refreshEntries_eq_error failed
  have filed : (graph.refreshWrappers view).1.filed = graph.filed := by
    simp only [refreshWrappers, failed]
    rfl
  exact ⟨before, failing, behind, halts, filed, halts.updates (by rw [entries_refreshWrappers, left])⟩

end ShaderGraph

/-- Whether the node is a wrapper whose slots come out different when they are derived again. -/
def Node.reportsChange (view : View) (node : Node) : Bool :=
  node.wrapper?.any fun wrapper => (wrapper.sync view node.slots).outcome.toOption = some true

theorem ShaderGraph.changes_eq (view : View) (node : Node) :
    changes view node = node.reportsChange view := by
  cases kind : node.kind with
  | wrapper wrapper =>
    obtain ⟨_, outcome⟩ := Node.refresh_of_wrapper view kind
    simp [changes, outcome, Node.reportsChange, Node.wrapper?, kind]
  | function | reader | output =>
    simp [changes, Node.refresh, Node.reportsChange, Node.wrapper?, kind, Except.toOption]

namespace ShaderGraph

/-- When a refresh runs through, the connections that still join what they should are left in their
order, and these are the ones whose ends at wrappers are lent with the direction that is needed. Other
nodes than wrappers are as before, and the answer counts the wrappers with other slots. -/
theorem refreshed_survive (view : View) (graph : ShaderGraph)
    (joined : ∀ connection ∈ graph.connections,
      graph.Offers connection.source .output ∧ graph.Offers connection.target .input)
    (count : Nat) (ok : (graph.refreshWrappers view).2 = .ok count) :
    let after := (graph.refreshWrappers view).1
    (after.filed = graph.filed.filter fun entry =>
        after.Offers entry.2.source .output ∧ after.Offers entry.2.target .input) ∧
      (∀ connection ∈ graph.connections, connection ∈ after.connections ↔
        view.Provides graph.nodes.entries connection.source .output ∧
          view.Provides graph.nodes.entries connection.target .input) ∧
      after.nodes.keys = graph.nodes.keys ∧
      (∀ id node, graph.node? id = some node → node.wrapper? = none →
        after.node? id = some node) ∧
      count = graph.nodes.values.countP (Node.reportsChange view) := by
  intro after
  have filed := filed_refreshWrappers joined ok
  have looked := node?_refreshWrappers ok
  refine ⟨filed, fun connection member => ?_, ?_, fun id node known plain => ?_, ?_⟩
  · obtain ⟨source, target⟩ := joined connection member
    have updates := updates_of_ok ok
    rw [← updates.offers_iff source, ← updates.offers_iff target]
    obtain ⟨id, inside⟩ := (Graph.mem_connections_iff _ connection).1 member
    rw [Graph.mem_connections_iff, filed]
    constructor
    · rintro ⟨other, left⟩
      exact of_decide_eq_true (List.mem_filter.1 left).2
    · exact fun offered => ⟨id, List.mem_filter.2 ⟨inside, decide_eq_true offered⟩⟩
  · exact keys_refreshWrappers view graph
  · rw [looked, known, Option.map_some, Node.refresh_of_plain view plain]
  · obtain ⟨_, _, _, _, counted, _⟩ := refreshWrappers_eq_ok ok
    simp only [counted, changes_eq, Keyed.values, List.countP_map, Function.comp_def]

/-- Two definitions that are stored: one with outlets, and one with properties and with outlets that
are filed as given. -/
def lenders (outlets : List Slot) (properties : List Property) (filed : List (SlotId × Slot)) : View :=
  let first := Wrapper.exposing [] (outlets.map fun outlet => (outlet.id, outlet))
  let second := Wrapper.exposing properties filed
  (Assets.empty.storeAll [first.toDefinition, { second.toDefinition with handle := ⟨⟨4, 0⟩⟩ }]).view

/-- The property that lends the input of the second of two wrappers. -/
def tint : Property := Wrapper.propertyNamed 1 "Tint" (.vector4 (.replicate 4 .zero))

/-- A relay between an outlet of one definition and a property of the other. -/
def relayed : ShaderGraph :=
  let view := lenders [Node.outlet 1] [tint] []
  let unbound id := Edit.addNode (.make id "Sub-graph" (.wrapper (.bound none)))
  [unbound ⟨⟨6, 1⟩⟩, .setSubGraph view ⟨⟨6, 1⟩⟩ (some ⟨⟨3, 0⟩⟩),
    unbound ⟨⟨6, 2⟩⟩, .setSubGraph view ⟨⟨6, 2⟩⟩ (some ⟨⟨4, 0⟩⟩), .addNode (Edit.relay ⟨⟨6, 3⟩⟩),
    .connect ⟨6, 4⟩ ⟨⟨⟨6, 1⟩⟩, .positional 1⟩ ⟨⟨⟨6, 3⟩⟩, .positional 0⟩,
    .connect ⟨6, 5⟩ ⟨⟨⟨6, 3⟩⟩, .positional 1⟩ ⟨⟨⟨6, 2⟩⟩, tint.slotId⟩].foldl Edit.apply
    (.root ⟨7, 0⟩ "Relayed")

/-- One definition has no outlet any more and the other has one property more. -/
theorem relayed_survive :
    let view := lenders [] [Wrapper.propertyNamed 2 "Scale" (.float .one), tint] []
    let after := (relayed.refreshWrappers view).1
    (∀ connection ∈ relayed.connections,
      relayed.Offers connection.source .output ∧ relayed.Offers connection.target .input) ∧
      (relayed.refreshWrappers view).2 = .ok 2 ∧
      relayed.nodes.values.countP (Node.reportsChange view) = 2 ∧
      relayed.filed.map (·.1) = [⟨6, 4⟩, ⟨6, 5⟩] ∧ after.filed.map (·.1) = [⟨6, 5⟩] ∧
      after.filed = relayed.filed.filter fun entry =>
        after.Offers entry.2.source .output ∧ after.Offers entry.2.target .input := by
  intro view after
  have joined : ∀ connection ∈ relayed.connections,
      relayed.Offers connection.source .output ∧ relayed.Offers connection.target .input := by
    decide +kernel
  have ok : (relayed.refreshWrappers view).2 = .ok 2 := by decide +kernel
  obtain ⟨filed, _, _, _, counted⟩ := refreshed_survive view relayed joined 2 ok
  exact ⟨joined, ok, counted.symm, by decide +kernel, by decide +kernel, filed⟩

/-- An identity that was lent for an input and is lent for an output now takes no connection. -/
theorem relayed_not_by_identity_alone :
    ¬ ∀ (view : View) (graph : ShaderGraph) (count : Nat),
      (∀ connection ∈ graph.connections,
        graph.Offers connection.source .output ∧ graph.Offers connection.target .input) →
      (graph.refreshWrappers view).2 = .ok count →
      ∀ connection ∈ graph.connections,
        (∃ direction, view.Provides graph.nodes.entries connection.source direction) →
        (∃ direction, view.Provides graph.nodes.entries connection.target direction) →
        connection ∈ (graph.refreshWrappers view).1.connections := by
  intro claimed
  let view := lenders [Node.outlet 1] [] [(tint.slotId, { Node.outlet 1 with id := tint.slotId })]
  let connection : Connection :=
    ⟨⟨6, 5⟩, ⟨⟨⟨6, 3⟩⟩, .positional 1⟩, ⟨⟨⟨6, 2⟩⟩, tint.slotId⟩⟩
  have left := claimed view relayed 1 (by decide +kernel) (by decide +kernel) connection
    (by decide +kernel) ⟨.output, by decide +kernel⟩ ⟨.output, by decide +kernel⟩
  exact absurd left (by decide +kernel)

/-- After a refresh that ran through all connections join what they should. One that failed has dropped
none, and they do so unless an end is at a wrapper that it had reached and that is not lent the slot
any more. -/
theorem refreshed_joins (view : View) (graph : ShaderGraph)
    (joined : ∀ connection ∈ graph.connections,
      graph.Offers connection.source .output ∧ graph.Offers connection.target .input) :
    let after := (graph.refreshWrappers view).1
    (∀ count, (graph.refreshWrappers view).2 = .ok count → ∀ connection ∈ after.connections,
      after.Offers connection.source .output ∧ after.Offers connection.target .input) ∧
      ∀ cause, (graph.refreshWrappers view).2 = .error cause → ∃ before failing behind,
        Halts view graph.nodes.entries before failing behind cause ∧ after.filed = graph.filed ∧
          ∀ connection ∈ after.connections,
            (after.Offers connection.source .output ↔
              view.Provides before connection.source .output) ∧
            (after.Offers connection.target .input ↔
              view.Provides before connection.target .input) := by
  intro after
  refine ⟨fun count ok => (joined_refreshWrappers joined ok).2, fun cause failed => ?_⟩
  obtain ⟨before, failing, behind, halts, filed, updates⟩ := refreshWrappers_eq_error failed
  refine ⟨before, failing, behind, halts, filed, fun connection member => ?_⟩
  obtain ⟨source, target⟩ := joined connection (by rwa [Graph.connections, ← filed])
  exact ⟨updates.offers_iff source, updates.offers_iff target⟩

/-- The definition of the second wrapper has two properties under one identity. The first wrapper was
reached and has lost its outlet. -/
theorem relayed_joins :
    let view := lenders [] [tint, { tint with displayName := "Twin" }] []
    let after := (relayed.refreshWrappers view).1
    let cause := SlotError.identityCollision tint.slotId "Tint" "Twin"
    (∀ connection ∈ relayed.connections,
      relayed.Offers connection.source .output ∧ relayed.Offers connection.target .input) ∧
      (relayed.refreshWrappers view).2 = .error cause ∧
      ∃ before failing behind, Halts view relayed.nodes.entries before failing behind cause ∧
        after.filed = relayed.filed ∧ ∀ connection ∈ after.connections,
          (after.Offers connection.source .output ↔
            view.Provides before connection.source .output) ∧
          (after.Offers connection.target .input ↔
            view.Provides before connection.target .input) := by
  intro view after cause
  have joined : ∀ connection ∈ relayed.connections,
      relayed.Offers connection.source .output ∧ relayed.Offers connection.target .input := by
    decide +kernel
  have failed : (relayed.refreshWrappers view).2 = .error cause := by decide +kernel
  exact ⟨joined, failed, (refreshed_joins view relayed joined).2 cause failed⟩

/-- The connection from the lost outlet is left behind, also by the next refresh, which runs through and
finds no slots to change. -/
theorem relayed_left_dangling :
    let failed := relayed.refreshWrappers (lenders [] [tint, { tint with displayName := "Twin" }] [])
    let again := failed.1.refreshWrappers (lenders [] [tint] [])
    (∀ connection ∈ relayed.connections,
      relayed.Offers connection.source .output ∧ relayed.Offers connection.target .input) ∧
      failed.2 = .error (.identityCollision tint.slotId "Tint" "Twin") ∧
      (∃ connection ∈ failed.1.connections, ¬ failed.1.Offers connection.source .output) ∧
      again.2 = .ok 0 ∧
      ∃ connection ∈ again.1.connections, ¬ again.1.Offers connection.source .output := by
  intro failed again
  exact ⟨by decide +kernel, by decide +kernel, by decide +kernel, by decide +kernel,
    by decide +kernel⟩

end ShaderGraph
end NodeShader

import NodeShader.Proofs.Retyping

/-! When a new connection closes a cycle. Two searches have a say in it, the walk backwards in front of
the connection and the search for an order behind it, and they agree: a connection that is fine but for
that is made exactly if the graph has an order with it. -/
namespace NodeShader.Graph
open Relation

/-- All that a new connection needs, cycles aside. -/
structure Admits (graph : Graph) (connection : Connection) : Prop where
  gives : graph.Offers connection.source .output
  takes : graph.Offers connection.target .input
  fits : graph.Fits connection
  apart : connection.source.node ≠ connection.target.node
  free : ∀ other ∈ graph.connections, other.target ≠ connection.target

instance (graph : Graph) (connection : Connection) : Decidable (graph.Admits connection) :=
  decidable_of_iff
    (graph.Offers connection.source .output ∧ graph.Offers connection.target .input ∧
      graph.Fits connection ∧ connection.source.node ≠ connection.target.node ∧
      ∀ other ∈ graph.connections, other.target ≠ connection.target)
    ⟨fun ⟨gives, takes, fits, apart, free⟩ => ⟨gives, takes, fits, apart, free⟩,
      fun ⟨gives, takes, fits, apart, free⟩ => ⟨gives, takes, fits, apart, free⟩⟩

theorem mem_keys_of_offers {graph : Graph} {place : Endpoint} {direction : Direction}
    (offer : graph.Offers place direction) : place.node ∈ graph.nodes.keys := by
  obtain ⟨node, _, known, _⟩ := offer
  exact (graph.nodes.mem_keys_iff _).2 ⟨node, known⟩

theorem connect_of_admits {graph : Graph} {connection : Connection}
    (admits : graph.Admits connection) :
    graph.connect connection.id connection.source connection.target =
      if graph.dependsOn connection.source.node connection.target.node then
        .error .wouldCreateCycle
      else .ok (graph.withConnection connection) := by
  obtain ⟨⟨sourceNode, sourceSlot, sourceKnown, sourceFound, gives⟩,
    ⟨targetNode, targetSlot, targetKnown, targetFound, takes⟩, fits, apart, free⟩ := admits
  obtain ⟨_, _, first, second, types⟩ := fits
  cases first.symm.trans ((graph.slot?_eq_some_iff _ _).2 ⟨sourceNode, sourceKnown, sourceFound⟩)
  cases second.symm.trans ((graph.slot?_eq_some_iff _ _).2 ⟨targetNode, targetKnown, targetFound⟩)
  have directed : ¬ (!sourceSlot.isOutput || !targetSlot.isInput) = true := by
    simp [Slot.isOutput, Slot.isInput, gives, takes]
  have unfed : ¬ (graph.feeding? connection.target).isSome := by simpa [feeding?] using free
  simp only [connect, sourceKnown, targetKnown, sourceFound, targetFound]
  rw [if_neg directed, if_neg (by simp [types]), if_neg apart, if_neg unfed]
  split <;> rfl

/-- With a connection between nodes of the graph there still is an order, unless its source depends on
its target. -/
theorem topologicalOrder_withConnection {graph : Graph} (ordered : graph.topologicalOrder.isSome)
    {connection : Connection} (source : connection.source.node ∈ graph.nodes.keys)
    (target : connection.target.node ∈ graph.nodes.keys) :
    (graph.withConnection connection).topologicalOrder.isSome ↔
      ¬ ReflTransGen graph.Reads connection.source.node connection.target.node := by
  have acyclic := graph.topologicalOrder_isSome_iff.1 ordered
  rw [topologicalOrder_isSome_iff]
  constructor
  · intro still depends
    have more : graph.Reads ≤ (graph.withConnection connection).Reads := fun node source reads =>
      (graph.reads_withConnection connection node source).2 (.inl reads)
    have closing : (graph.withConnection connection).Reads connection.target.node
        connection.source.node := (graph.reads_withConnection connection _ _).2 (.inr ⟨rfl, rfl⟩)
    exact still _ target _ .refl (.head' closing (ReflTransGen.mono more _ _ depends))
  · intro independent id member other path cycle
    rcases path_of_withConnection cycle with inner | ⟨toTarget, fromSource⟩
    · have reached : ReflTransGen graph.Reads id other ∨
          ReflTransGen graph.Reads connection.source.node other := by
        rcases reflTransGen_iff_eq_or_transGen.1 path with rfl | further
        · exact .inl .refl
        · exact (path_of_withConnection further).imp TransGen.to_reflTransGen And.right
      rcases reached with path | path
      · exact acyclic id member other path inner
      · exact acyclic _ source other path inner
    · exact independent (fromSource.trans toTarget)

/-- One node depends on another exactly if it is reached by connections backwards, and every walk ends
with this answer, in whatever order it takes the sources of a node. A connection that a graph with an
order admits is refused exactly if there is no order with it. -/
theorem connect_decides (graph : Graph) :
    (∀ node dependency,
      (∀ arrange : List NodeId → List NodeId, (∀ ids, (arrange ids).Perm ids) → ∀ answer,
        graph.Walk arrange dependency [] [node] answer ↔
          answer = graph.dependsOn node dependency) ∧
      (graph.dependsOn node dependency = true ↔ ReflTransGen (fun node source =>
        ∃ connection ∈ graph.connections, connection.target.node = node ∧
          connection.source.node = source) node dependency)) ∧
      (graph.topologicalOrder.isSome → ∀ connection, graph.Admits connection →
        graph.connect connection.id connection.source connection.target =
          if (graph.withConnection connection).topologicalOrder.isSome then
            .ok (graph.withConnection connection)
          else .error .wouldCreateCycle) := by
  refine ⟨fun node dependency => ⟨fun _ fair => graph.walk_iff fair node dependency, ?_⟩, ?_⟩
  · have backwards : graph.Reads = fun node source => ∃ connection ∈ graph.connections,
        connection.target.node = node ∧ connection.source.node = source :=
      funext₂ fun node source => propext (graph.reads_iff node source)
    rw [← backwards, dependsOn_iff]
  · intro ordered connection admits
    rw [connect_of_admits admits]
    have closes := topologicalOrder_withConnection ordered (mem_keys_of_offers admits.gives)
      (mem_keys_of_offers admits.takes)
    rw [← dependsOn_iff] at closes
    by_cases dependent : graph.dependsOn connection.source.node connection.target.node = true
    · rw [if_pos dependent, if_neg fun still => closes.1 still dependent]
    · rw [if_neg dependent, if_pos (closes.2 dependent)]

/-- A connection from one relay to another, by their numbers. -/
def link (source target : UInt64) : Connection :=
  ⟨⟨source, target⟩, ⟨⟨⟨source, 0⟩⟩, .positional 1⟩, ⟨⟨⟨target, 0⟩⟩, .positional 0⟩⟩

/-- Three relays, two of them connected, and connections in a ring between ids that no node has. -/
def relays : Graph where
  nodes := .ofList ([1, 2, 3].map fun number => (⟨⟨number, 0⟩⟩, Edit.relay ⟨⟨number, 0⟩⟩))
  filed := [link 1 2, link 8 9, link 9 8].map fun connection => (connection.id, connection)

/-- The ring stands in the way of no order and of no walk. -/
theorem relays_connect_decides :
    let one : NodeId := ⟨⟨1, 0⟩⟩
    let two : NodeId := ⟨⟨2, 0⟩⟩
    let adrift : NodeId := ⟨⟨8, 0⟩⟩
    relays.Walk .reverse one [] [two] true ∧ relays.Walk .reverse one [] [adrift] false ∧
      relays.topologicalOrder.isSome ∧ relays.Admits (link 2 3) ∧ relays.Admits (link 2 1) ∧
      (relays.withConnection (link 2 3)).topologicalOrder.isSome ∧
      relays.connect (link 2 3).id (link 2 3).source (link 2 3).target =
        .ok (relays.withConnection (link 2 3)) ∧
      relays.connect (link 2 1).id (link 2 1).source (link 2 1).target =
        .error .wouldCreateCycle := by
  intro one two adrift
  have ordered : relays.topologicalOrder.isSome := by decide +kernel
  have further : relays.Admits (link 2 3) := by decide +kernel
  have back : relays.Admits (link 2 1) := by decide +kernel
  have still : (relays.withConnection (link 2 3)).topologicalOrder.isSome := by decide +kernel
  have closed : ¬ (relays.withConnection (link 2 1)).topologicalOrder.isSome := by decide +kernel
  obtain ⟨depends, connects⟩ := connect_decides relays
  have walks (start : NodeId) := (depends start one).1 .reverse List.reverse_perm
  refine ⟨(walks two true).2 (by decide +kernel), (walks adrift false).2 (by decide +kernel), ordered,
    further, back, still, ?_, ?_⟩
  · rw [connects ordered _ further, if_pos still]
  · rw [connects ordered _ back, if_neg closed]

end NodeShader.Graph

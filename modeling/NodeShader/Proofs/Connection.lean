import NodeShader.Proofs.Dependency
import NodeShader.Proofs.Outcome

/-! The connections of a sound graph: each joins an output to an input of another node, an input
takes one of them, and none of them closes a cycle. Nodes and connections may go, and slots may
come and go as long as dangling connections are dropped; a new connection has to pass the checks of
`connect`. -/
namespace NodeShader.Graph
open Relation

def Offers (graph : Graph) (place : Endpoint) (direction : Direction) : Prop :=
  ∃ node slot, graph.node? place.node = some node ∧ node.slots.get? place.slot = some slot ∧
    slot.direction = direction

theorem node?_addNode (graph : Graph) (node : Node) (id : NodeId) :
    (graph.addNode node).node? id = if id = node.id then some node else graph.node? id :=
  Keyed.get?_insert graph.nodes node.id node id

theorem node?_removeNode (graph : Graph) (gone id : NodeId) :
    (graph.removeNode gone).node? id = if id = gone then none else graph.node? id :=
  Keyed.get?_erase graph.nodes gone id

theorem node?_of_removeNode {graph : Graph} {gone id : NodeId} {node : Node}
    (known : (graph.removeNode gone).node? id = some node) : graph.node? id = some node := by
  rw [node?_removeNode] at known
  split at known
  next => contradiction
  next => exact known

theorem node?_modifyNode (graph : Graph) (changed : NodeId) (change : Node → Node) (id : NodeId) :
    (graph.modifyNode changed change).node? id =
      if id = changed then (graph.node? id).map change else graph.node? id :=
  Keyed.get?_modify graph.nodes changed change id

structure WellConnected (graph : Graph) : Prop where
  joined : ∀ connection ∈ graph.connections,
    graph.Offers connection.source .output ∧ graph.Offers connection.target .input
  apart : ∀ connection ∈ graph.connections, connection.source.node ≠ connection.target.node
  single : (graph.connections.map (·.target)).Nodup
  acyclic : ∀ id, ¬ TransGen graph.Reads id id

theorem slot?_eq_some_iff (graph : Graph) (place : Endpoint) (slot : Slot) :
    graph.slot? place = some slot ↔
      ∃ node, graph.node? place.node = some node ∧ node.slots.get? place.slot = some slot :=
  Option.bind_eq_some_iff

theorem offers_iff (graph : Graph) (place : Endpoint) (direction : Direction) :
    graph.Offers place direction ↔
      (graph.slot? place).any (fun slot => slot.direction = direction) = true := by
  simp only [Option.any_eq_true, decide_eq_true_eq, slot?_eq_some_iff, Offers]
  grind

instance (graph : Graph) (place : Endpoint) (direction : Direction) :
    Decidable (graph.Offers place direction) :=
  decidable_of_iff _ (graph.offers_iff place direction).symm

theorem joins_iff (graph : Graph) (connection : Connection) :
    graph.joins connection = true ↔
      graph.Offers connection.source .output ∧ graph.Offers connection.target .input := by
  rw [joins, Bool.and_eq_true, offers_iff, offers_iff]
  rfl

theorem mem_connections_iff (graph : Graph) (connection : Connection) :
    connection ∈ graph.connections ↔ ∃ id, (id, connection) ∈ graph.filed := by
  simp [connections]

theorem reads_of_subset {graph changed : Graph}
    (fewer : ∀ connection ∈ changed.connections, connection ∈ graph.connections)
    {node source : NodeId} (reads : changed.Reads node source) : graph.Reads node source := by
  obtain ⟨connection, member, ends⟩ := (changed.reads_iff node source).1 reads
  exact (graph.reads_iff node source).2 ⟨connection, fewer connection member, ends⟩

namespace WellConnected

theorem topologicalOrder_isSome {graph : Graph} (sound : graph.WellConnected) :
    graph.topologicalOrder.isSome :=
  graph.topologicalOrder_isSome_iff.2 fun _ _ other _ => sound.acyclic other

/-- Leaving out connections does no harm, if those left still join what they should. -/
theorem of_sublist {graph changed : Graph} (sound : graph.WellConnected)
    (fewer : changed.filed.Sublist graph.filed)
    (joined : ∀ connection ∈ changed.connections,
      changed.Offers connection.source .output ∧ changed.Offers connection.target .input) :
    changed.WellConnected where
  joined := joined
  apart connection member := sound.apart connection ((fewer.map (·.2)).subset member)
  single := ((fewer.map (·.2)).map (·.target)).nodup sound.single
  acyclic id cycle := by
    have fewerReads : changed.Reads ≤ graph.Reads := fun _ _ =>
      reads_of_subset fun _ member => (fewer.map (·.2)).subset member
    exact sound.acyclic id (TransGen.mono fewerReads id id cycle)

theorem of_offers {graph changed : Graph} (sound : graph.WellConnected)
    (same : changed.filed = graph.filed)
    (kept : ∀ place direction, graph.Offers place direction → changed.Offers place direction) :
    changed.WellConnected := by
  apply sound.of_sublist (same ▸ List.Sublist.refl _)
  intro connection member
  have old : connection ∈ graph.connections := by simpa [connections, same] using member
  exact (sound.joined connection old).imp (kept _ _) (kept _ _)

theorem prune {graph changed : Graph} (sound : graph.WellConnected)
    (same : changed.filed = graph.filed) : changed.prune.WellConnected := by
  apply sound.of_sublist (same ▸ List.filter_sublist)
  intro connection member
  obtain ⟨id, member⟩ := (mem_connections_iff _ connection).1 member
  exact (joins_iff changed connection).1 (List.mem_filter.1 member).2

theorem empty : Graph.empty.WellConnected where
  joined connection member := by simp [Graph.empty, connections] at member
  apart connection member := by simp [Graph.empty, connections] at member
  single := List.nodup_nil
  acyclic id cycle := by
    obtain ⟨source, reads, _⟩ := TransGen.head'_iff.1 cycle
    simp [Reads, sources, Graph.empty, connections] at reads

theorem addNode {graph : Graph} (sound : graph.WellConnected) {node : Node}
    (fresh : graph.node? node.id = none) : (graph.addNode node).WellConnected := by
  refine sound.of_offers rfl ?_
  intro place direction offer
  obtain ⟨owner, slot, known, found, aimed⟩ := offer
  have other : place.node ≠ node.id := fun same => by simp [same, fresh] at known
  refine ⟨owner, slot, ?_, found, aimed⟩
  rw [node?_addNode, if_neg other]
  exact known

theorem removeNode {graph : Graph} (sound : graph.WellConnected) (id : NodeId) :
    (graph.removeNode id).WellConnected := by
  apply sound.of_sublist List.filter_sublist
  intro connection member
  obtain ⟨key, member⟩ := (mem_connections_iff _ connection).1 member
  obtain ⟨old, spared⟩ := List.mem_filter.1 member
  have kept (place : Endpoint) (direction : Direction) (other : place.node ≠ id)
      (offer : graph.Offers place direction) : (graph.removeNode id).Offers place direction := by
    obtain ⟨owner, slot, known, found, aimed⟩ := offer
    refine ⟨owner, slot, ?_, found, aimed⟩
    rw [node?_removeNode, if_neg other]
    exact known
  have ends : connection.source.node ≠ id ∧ connection.target.node ≠ id := by
    simpa [Connection.involves] using spared
  have joined := sound.joined connection ((mem_connections_iff _ connection).2 ⟨key, old⟩)
  exact ⟨kept _ _ ends.1 joined.1, kept _ _ ends.2 joined.2⟩

end WellConnected

def withConnection (graph : Graph) (connection : Connection) : Graph :=
  { graph with filed := graph.filed ++ [(connection.id, connection)] }

@[simp] theorem connections_withConnection (graph : Graph) (added : Connection) :
    (graph.withConnection added).connections = graph.connections ++ [added] := by
  simp [connections, withConnection]

theorem mem_connections_withConnection (graph : Graph) (added connection : Connection) :
    connection ∈ (graph.withConnection added).connections ↔
      connection ∈ graph.connections ∨ connection = added := by
  simp

/-- All that a connection which came about has passed. -/
theorem connect_eq_ok {graph result : Graph} {id : Guid} {source target : Endpoint}
    (ok : graph.connect id source target = .ok result) :
    (∃ sourceSlot targetSlot, graph.slot? source = some sourceSlot ∧
      graph.slot? target = some targetSlot ∧ sourceSlot.direction = .output ∧
      targetSlot.direction = .input ∧ sourceSlot.type.connectsTo targetSlot.type = true) ∧
    source.node ≠ target.node ∧ graph.feeding? target = none ∧
    graph.dependsOn source.node target.node = false ∧
    result = graph.withConnection ⟨id, source, target⟩ := by
  unfold connect at ok
  split at ok
  next sourceNode sourceKnown =>
    split at ok
    next targetNode targetKnown =>
      split at ok
      next sourceSlot sourceFound =>
        split at ok
        next targetSlot targetFound =>
          obtain ⟨directed, ok⟩ := Outcome.passed_of_eq_ok ok
          obtain ⟨fitting, ok⟩ := Outcome.passed_of_eq_ok ok
          obtain ⟨apart, ok⟩ := Outcome.passed_of_eq_ok ok
          obtain ⟨unfed, ok⟩ := Outcome.passed_of_eq_ok ok
          obtain ⟨independent, ok⟩ := Outcome.passed_of_eq_ok ok
          cases ok
          have sourceHere := (graph.slot?_eq_some_iff source sourceSlot).2 ⟨_, sourceKnown, sourceFound⟩
          have targetHere := (graph.slot?_eq_some_iff target targetSlot).2 ⟨_, targetKnown, targetFound⟩
          have directions : sourceSlot.direction = .output ∧ targetSlot.direction = .input := by
            simpa [Slot.isOutput, Slot.isInput] using directed
          exact ⟨⟨sourceSlot, targetSlot, sourceHere, targetHere, directions.1, directions.2,
            by simpa using fitting⟩, apart, by simpa using unfed, by simpa using independent, rfl⟩
        next => contradiction
      next => contradiction
    next => contradiction
  next => contradiction

theorem reads_withConnection (graph : Graph) (added : Connection) (node source : NodeId) :
    (graph.withConnection added).Reads node source ↔
      graph.Reads node source ∨ added.target.node = node ∧ added.source.node = source := by
  simp only [reads_iff, mem_connections_withConnection, or_and_right, exists_or, exists_eq_left]

/-- A way that was not there before passes the new connection, and did not need to do so before it. -/
theorem path_of_withConnection {graph : Graph} {added : Connection} {node other : NodeId}
    (path : TransGen (graph.withConnection added).Reads node other) :
    TransGen graph.Reads node other ∨ ReflTransGen graph.Reads node added.target.node ∧
      ReflTransGen graph.Reads added.source.node other := by
  induction path with
  | single reads =>
    rcases (graph.reads_withConnection added _ _).1 reads with old | ⟨rfl, rfl⟩
    · exact .inl (.single old)
    · exact .inr ⟨.refl, .refl⟩
  | tail _ reads ih =>
    rcases (graph.reads_withConnection added _ _).1 reads with old | ⟨rfl, rfl⟩
    · exact ih.imp (fun path => path.tail old) fun ends => ⟨ends.1, ends.2.tail old⟩
    · rcases ih with path | ends
      · exact .inr ⟨path.to_reflTransGen, .refl⟩
      · exact .inr ⟨ends.1, .refl⟩

theorem WellConnected.connect {graph result : Graph} (sound : graph.WellConnected) {id : Guid}
    {source target : Endpoint} (ok : graph.connect id source target = .ok result) :
    result.WellConnected := by
  obtain ⟨⟨sourceSlot, targetSlot, sourceHere, targetHere, gives, takes, _⟩, apart, unfed, independent,
    rfl⟩ := connect_eq_ok ok
  have unread : ∀ connection ∈ graph.connections, connection.target ≠ target := by
    simpa [feeding?] using unfed
  have added := fun connection => (graph.mem_connections_withConnection ⟨id, source, target⟩ connection).1
  constructor
  · intro connection member
    rcases added connection member with old | rfl
    · exact sound.joined connection old
    · obtain ⟨sourceNode, sourceKnown, sourceFound⟩ := (graph.slot?_eq_some_iff _ _).1 sourceHere
      obtain ⟨targetNode, targetKnown, targetFound⟩ := (graph.slot?_eq_some_iff _ _).1 targetHere
      exact ⟨⟨sourceNode, sourceSlot, sourceKnown, sourceFound, gives⟩,
        ⟨targetNode, targetSlot, targetKnown, targetFound, takes⟩⟩
  · intro connection member
    rcases added connection member with old | rfl
    · exact sound.apart connection old
    · exact apart
  · rw [connections_withConnection, List.map_append]
    refine List.nodup_append.2 ⟨sound.single, by simp, ?_⟩
    intro place member last here same
    obtain ⟨connection, old, rfl⟩ := List.mem_map.1 member
    have last : last = target := by simpa using here
    exact unread connection old (same.trans last)
  · intro node cycle
    rcases path_of_withConnection cycle with path | ⟨toTarget, fromSource⟩
    · exact sound.acyclic node path
    · have dependent := (graph.dependsOn_iff source.node target.node).2 (fromSource.trans toTarget)
      simp [dependent] at independent

end NodeShader.Graph

import NodeShader.Proofs.Connection
import NodeShader.Proofs.Sync

/-! Editing a shader graph step by step, from a new one on. The definitions that wrappers stand for
may change between any two steps, and steps may be refused. The connections of the graph stay sound
all the way, so that it can always be put in order. -/
namespace NodeShader
open Relation

/-- One step of editing; each step that asks for definitions sees a view of its own. -/
inductive Edit where
  | addNode (node : Node)
  | connect (id : Guid) (source target : Endpoint)
  | removeNode (id : NodeId)
  | addProperty (property : Property)
  | removeProperty (guid : Guid)
  | addOutput
  | removeOutput
  | setSubGraph (view : View) (id : NodeId) (handle : Option Handle)
  | refreshWrappers (view : View)

namespace Edit

/-- What a step leaves; a refused one leaves the graph as its operation does. -/
def apply (graph : ShaderGraph) : Edit → ShaderGraph
  | addNode node => graph.addNode node
  | connect id source target =>
    match graph.connect id source target with
    | .ok result => result
    | .error _ => graph
  | removeNode id => (graph.removeNode id).2
  | addProperty property =>
    match graph.addProperty property with
    | .ok result => result
    | .error _ => graph
  | removeProperty guid => ((graph.removeProperty guid).map (·.2)).getD graph
  | addOutput => (graph.addOutput.map (·.2)).getD graph
  | removeOutput => (graph.removeOutput.map (·.2)).getD graph
  | setSubGraph view id handle => (graph.setSubGraph view id handle).1
  | refreshWrappers view => (graph.refreshWrappers view).1

/-- A node is added under a new id, and a run does not go on after a failed refresh. -/
def Admitted (graph : ShaderGraph) : Edit → Prop
  | addNode node => graph.node? node.id = none
  | refreshWrappers view => ∃ count, (graph.refreshWrappers view).2 = .ok count
  | _ => True

instance (graph : ShaderGraph) (edit : Edit) : Decidable (edit.Admitted graph) :=
  match edit with
  | addNode node => inferInstanceAs (Decidable (graph.node? node.id = none))
  | refreshWrappers view =>
    match outcome : (graph.refreshWrappers view).2 with
    | .ok count => .isTrue ⟨count, outcome⟩
    | .error cause => .isFalse fun ⟨count, ok⟩ => by simp [outcome] at ok
  | connect .. | removeNode .. | addProperty .. | removeProperty .. | addOutput | removeOutput
  | setSubGraph .. => .isTrue trivial

def AllAdmitted (graph : ShaderGraph) : List Edit → Prop
  | [] => True
  | edit :: rest => edit.Admitted graph ∧ AllAdmitted (edit.apply graph) rest

instance decidableAllAdmitted (graph : ShaderGraph) :
    (edits : List Edit) → Decidable (AllAdmitted graph edits)
  | [] => .isTrue trivial
  | edit :: rest =>
    have := decidableAllAdmitted (edit.apply graph) rest
    inferInstanceAs (Decidable (edit.Admitted graph ∧ AllAdmitted (edit.apply graph) rest))

end Edit

inductive ShaderGraph.New : ShaderGraph → Prop where
  | root (guid : Guid) (name : String) : New (.root guid name)
  | subGraph (guid : Guid) (name : String) (output : NodeId) : New (.subGraph guid name output)

/-- A node for the outlets of a graph, which takes values and gives none. -/
def Node.TakesOnly (node : Node) : Prop :=
  node.kind = .output ∧ ∀ id slot, node.slots.get? id = some slot → slot.direction = .input

@[simp] theorem ShaderGraph.toGraph_addNode (graph : ShaderGraph) (node : Node) :
    (graph.addNode node).toGraph = graph.toGraph.addNode node := rfl

@[simp] theorem ShaderGraph.toGraph_withGraph (graph : ShaderGraph) (inner : Graph) :
    (graph.withGraph inner).toGraph = inner := rfl

@[simp] theorem ShaderGraph.toGraph_modifyNode (graph : ShaderGraph) (id : NodeId)
    (change : Node → Node) :
    (graph.modifyNode id change).toGraph = graph.toGraph.modifyNode id change := rfl

/-- Nodes stand under their own ids, and the output node is there. -/
structure ShaderGraph.Housed (graph : ShaderGraph) : Prop where
  filed : ∀ id node, graph.node? id = some node → node.id = id
  output : ∀ id, graph.outputNode = some id → ∃ node, graph.node? id = some node ∧ node.TakesOnly

namespace ShaderGraph.Housed

theorem new {graph : ShaderGraph} (start : graph.New) : graph.Housed := by
  cases start with
  | root guid name =>
    constructor
    · intro id node known
      simp [root, Graph.empty, Graph.node?, Keyed.get?, Keyed.empty] at known
    · intro id is
      simp [root] at is
  | subGraph guid name output =>
    have only (id : NodeId) : (subGraph guid name output).node? id =
        if id = output then some (Node.outputNode output) else none :=
      Graph.empty.node?_addNode (Node.outputNode output) id
    constructor
    · intro id node known
      rw [only] at known
      split at known
      next same => rw [← Option.some.inj known, same]; rfl
      next => contradiction
    · intro id is
      cases is
      refine ⟨Node.outputNode output, by rw [only, if_pos rfl], rfl, ?_⟩
      intro key slot found
      simp [Node.outputNode, Node.make, SlotTable.get?, SlotTable.empty] at found

theorem of_nodes {graph changed : ShaderGraph} (housed : graph.Housed)
    (nodes : changed.nodes = graph.nodes) (output : changed.outputNode = graph.outputNode) :
    changed.Housed := by
  constructor
  · intro id node known
    rw [Graph.node?, nodes] at known
    exact housed.filed id node known
  · intro id is
    rw [output] at is
    obtain ⟨node, known, takes⟩ := housed.output id is
    exact ⟨node, by rw [Graph.node?, nodes]; exact known, takes⟩

theorem addNode {graph : ShaderGraph} (housed : graph.Housed) {node : Node}
    (fresh : graph.node? node.id = none) : (graph.addNode node).Housed := by
  constructor
  · intro id other known
    rw [toGraph_addNode, Graph.node?_addNode] at known
    split at known
    next same => rw [← Option.some.inj known, same]
    next => exact housed.filed id other known
  · intro id is
    obtain ⟨output, known, takes⟩ := housed.output id is
    have other : id ≠ node.id := fun same => by simp [same, fresh] at known
    refine ⟨output, ?_, takes⟩
    rw [toGraph_addNode, Graph.node?_addNode, if_neg other]
    exact known

theorem removeInner {graph : ShaderGraph} (housed : graph.Housed) {id : NodeId}
    (other : graph.outputNode ≠ some id) :
    (graph.withGraph (graph.toGraph.removeNode id)).Housed := by
  constructor
  · exact fun key node known => housed.filed key node (Graph.node?_of_removeNode known)
  · intro key is
    obtain ⟨output, known, takes⟩ := housed.output key is
    have apart : key ≠ id := fun same => other (same ▸ is)
    refine ⟨output, ?_, takes⟩
    rw [toGraph_withGraph, Graph.node?_removeNode, if_neg apart]
    exact known

theorem modifyNode {graph : ShaderGraph} (housed : graph.Housed) {id : NodeId} {node changed : Node}
    (known : graph.node? id = some node) (sameId : changed.id = node.id)
    (output : node.TakesOnly → changed.TakesOnly) :
    (graph.modifyNode id fun _ => changed).Housed := by
  constructor
  · intro key other found
    rw [toGraph_modifyNode, Graph.node?_modifyNode] at found
    split at found
    next same =>
      rw [same, known] at found
      rw [← Option.some.inj found, sameId, same]
      exact housed.filed id node known
    next => exact housed.filed key other found
  · intro key is
    obtain ⟨old, here, takes⟩ := housed.output key is
    rw [toGraph_modifyNode]
    by_cases same : key = id
    · subst same
      cases known.symm.trans here
      refine ⟨changed, ?_, output takes⟩
      rw [Graph.node?_modifyNode, if_pos rfl, known, Option.map_some]
    · refine ⟨old, ?_, takes⟩
      rw [Graph.node?_modifyNode, if_neg same]
      exact here

theorem readers_apart {graph : ShaderGraph} (housed : graph.Housed) (guid : Guid) :
    ∀ id ∈ graph.readers guid, graph.outputNode ≠ some id := by
  intro id member is
  obtain ⟨node, inside, rfl⟩ := List.mem_map.1 member
  obtain ⟨present, reads⟩ := List.mem_filter.1 inside
  obtain ⟨entry, filed, rfl⟩ := List.mem_map.1 present
  have known : graph.node? entry.1 = some entry.2 := (graph.nodes.get?_eq_some_iff _ _).2 filed
  rw [housed.filed entry.1 entry.2 known] at is
  obtain ⟨output, here, isOutput, _⟩ := housed.output entry.1 is
  rw [known] at here
  cases here
  simp [isOutput] at reads

end ShaderGraph.Housed

structure ShaderGraph.Kept (graph : ShaderGraph) : Prop where
  connected : graph.WellConnected
  housed : graph.Housed

/-- A node before and after it was brought up to date with a definition. -/
structure Node.Resynced (node changed : Node) (outcome : Except SlotError Bool) : Prop where
  id : changed.id = node.id
  output : node.TakesOnly → changed.TakesOnly
  keeps : outcome ≠ .ok true → node.slots.Keeps changed.slots

namespace Node

theorem refresh_resynced (view : View) (node : Node) :
    node.Resynced (node.refresh view).1 (node.refresh view).2 := by
  unfold refresh
  split
  next wrapper kind =>
    have other : ¬ node.TakesOnly := fun takes => absurd (kind.symm.trans takes.1) (by simp)
    exact ⟨rfl, fun takes => absurd takes other, wrapper.sync_keeps view node.slots⟩
  next => exact ⟨rfl, fun takes => takes, fun _ => .refl _⟩

theorem setSubGraph_resynced (view : View) (handle : Option Handle) (node : Node) :
    node.Resynced (node.setSubGraph view handle).1 (node.setSubGraph view handle).2 := by
  unfold setSubGraph
  split
  next wrapper kind =>
    split
    next => exact ⟨rfl, fun takes => takes, fun _ => .refl _⟩
    next =>
      have other : ¬ node.TakesOnly := fun takes => absurd (kind.symm.trans takes.1) (by simp)
      exact ⟨rfl, fun takes => absurd takes other, Wrapper.sync_keeps view _ node.slots⟩
  next => exact ⟨rfl, fun takes => takes, fun _ => .refl _⟩

end Node

namespace ShaderGraph.Kept

theorem new {graph : ShaderGraph} (start : graph.New) : graph.Kept where
  connected := by
    cases start with
    | root => exact .empty
    | subGraph => exact Graph.WellConnected.empty.addNode rfl
  housed := .new start

theorem addNode {graph : ShaderGraph} (kept : graph.Kept) {node : Node}
    (fresh : graph.node? node.id = none) : (graph.addNode node).Kept :=
  ⟨kept.connected.addNode fresh, kept.housed.addNode fresh⟩

theorem connect {graph result : ShaderGraph} (kept : graph.Kept) {id : Guid}
    {source target : Endpoint} (ok : graph.connect id source target = .ok result) : result.Kept := by
  unfold ShaderGraph.connect at ok
  obtain ⟨changed, inner, rfl⟩ := Outcome.map_eq_ok ok
  have sound := kept.connected.connect inner
  obtain ⟨_, _, _, _, rfl⟩ := Graph.connect_eq_ok inner
  exact ⟨sound, kept.housed.of_nodes rfl rfl⟩

theorem removeNode {graph : ShaderGraph} (kept : graph.Kept) (id : NodeId) :
    (graph.removeNode id).2.Kept := by
  unfold ShaderGraph.removeNode
  split
  next => exact kept
  next other => exact ⟨kept.connected.removeNode id, kept.housed.removeInner other⟩

theorem removeAll {graph : ShaderGraph} (kept : graph.Kept) {ids : List NodeId}
    (others : ∀ id ∈ ids, graph.outputNode ≠ some id) :
    (graph.withGraph (ids.foldl Graph.removeNode graph.toGraph)).Kept := by
  induction ids generalizing graph with
  | nil => exact kept
  | cons id rest ih =>
    have first : (graph.withGraph (graph.toGraph.removeNode id)).Kept :=
      ⟨kept.connected.removeNode id, kept.housed.removeInner (others id (by simp))⟩
    exact ih first fun other member => others other (by simp [member])

theorem withProperties {graph : ShaderGraph} (kept : graph.Kept) (properties : List Property) :
    { graph with properties }.Kept := ⟨kept.connected, kept.housed.of_nodes rfl rfl⟩

theorem addProperty {graph result : ShaderGraph} (kept : graph.Kept) {property : Property}
    (ok : graph.addProperty property = .ok result) : result.Kept := by
  unfold ShaderGraph.addProperty at ok
  obtain ⟨type, _, last⟩ := Outcome.bind_eq_ok ok
  cases last
  exact kept.withProperties _

theorem removeProperty {graph : ShaderGraph} (kept : graph.Kept) {guid : Guid}
    {result : Property × ShaderGraph} (removed : graph.removeProperty guid = some result) :
    result.2.Kept := by
  obtain ⟨property, _, rfl⟩ := Option.map_eq_some_iff.1 removed
  exact (kept.removeAll (kept.housed.readers_apart guid)).withProperties _

theorem modifyNode {graph : ShaderGraph} (kept : graph.Kept) {id : NodeId} {node changed : Node}
    (known : graph.node? id = some node) (sameId : changed.id = node.id)
    (output : node.TakesOnly → changed.TakesOnly) (keeps : node.slots.Keeps changed.slots) :
    (graph.modifyNode id fun _ => changed).Kept := by
  refine ⟨kept.connected.of_offers rfl ?_, kept.housed.modifyNode known sameId output⟩
  intro place direction offer
  obtain ⟨owner, slot, here, found, aimed⟩ := offer
  rw [toGraph_modifyNode]
  by_cases same : place.node = id
  · rw [same, known] at here
    cases here
    obtain ⟨other, kept, direction⟩ := keeps place.slot slot found
    refine ⟨changed, other, ?_, kept, direction.trans aimed⟩
    rw [Graph.node?_modifyNode, if_pos same, same, known, Option.map_some]
  · refine ⟨owner, slot, ?_, found, aimed⟩
    rw [Graph.node?_modifyNode, if_neg same]
    exact here

theorem modifyNode_prune {graph : ShaderGraph} (kept : graph.Kept) {id : NodeId}
    {node changed : Node} (known : graph.node? id = some node) (sameId : changed.id = node.id)
    (output : node.TakesOnly → changed.TakesOnly) :
    (graph.modifyNode id fun _ => changed).prune.Kept := by
  have pruned : (graph.modifyNode id fun _ => changed).toGraph.prune.WellConnected :=
    kept.connected.prune rfl
  exact ⟨pruned, (kept.housed.modifyNode known sameId output).of_nodes rfl rfl⟩

theorem addOutput {graph : ShaderGraph} (kept : graph.Kept) {result : Nat × ShaderGraph}
    (added : graph.addOutput = some result) : result.2.Kept := by
  unfold ShaderGraph.addOutput at added
  obtain ⟨id, is, added⟩ := Option.bind_eq_some_iff.1 added
  obtain ⟨node, known, added⟩ := Option.bind_eq_some_iff.1 added
  obtain ⟨⟨index, changed⟩, outlet, added⟩ := Option.bind_eq_some_iff.1 added
  cases added
  obtain ⟨old, here, takes⟩ := kept.housed.output id is
  cases known.symm.trans here
  unfold Node.addOutlet at outlet
  split at outlet
  next =>
    cases outlet
    have looked := node.slots.get?_add (Node.outlet (node.slots.inputs.length + 1))
    refine kept.modifyNode known rfl ?_ ?_
    · intro _
      refine ⟨takes.1, ?_⟩
      intro key slot found
      rw [Node.addSlot, looked] at found
      split at found
      next => rw [← Option.some.inj found]; rfl
      next => exact takes.2 key slot found
    · intro key slot found
      rw [Node.addSlot, looked, takes.2 key slot found]
      split
      next => exact ⟨_, rfl, rfl⟩
      next => exact ⟨slot, found, takes.2 key slot found⟩
  next => contradiction

theorem removeOutput {graph : ShaderGraph} (kept : graph.Kept) {result : Slot × ShaderGraph}
    (removed : graph.removeOutput = some result) : result.2.Kept := by
  unfold ShaderGraph.removeOutput at removed
  obtain ⟨id, is, removed⟩ := Option.bind_eq_some_iff.1 removed
  obtain ⟨node, known, removed⟩ := Option.bind_eq_some_iff.1 removed
  obtain ⟨⟨outlet, changed⟩, erased, removed⟩ := Option.bind_eq_some_iff.1 removed
  cases removed
  obtain ⟨old, here, takes⟩ := kept.housed.output id is
  cases known.symm.trans here
  unfold Node.removeOutlet at erased
  split at erased
  next =>
    obtain ⟨slot, _, equal⟩ := Option.map_eq_some_iff.1 erased
    cases equal
    refine kept.modifyNode_prune known rfl ?_
    intro _
    refine ⟨takes.1, ?_⟩
    intro key slot found
    rw [SlotTable.get?_erase] at found
    split at found
    next => contradiction
    next => exact takes.2 key slot found
  next => contradiction

theorem setSubGraph {graph : ShaderGraph} (kept : graph.Kept) (view : View) (id : NodeId)
    (handle : Option Handle) : (graph.setSubGraph view id handle).1.Kept := by
  unfold ShaderGraph.setSubGraph
  split
  next => exact kept
  next node known =>
    have resynced := node.setSubGraph_resynced view handle
    simp only
    split
    next => exact kept.modifyNode_prune known resynced.id resynced.output
    next quiet =>
      exact kept.modifyNode known resynced.id resynced.output
        (resynced.keeps fun changed => quiet changed)

end ShaderGraph.Kept

namespace ShaderGraph

def changes (view : View) (node : Node) : Bool := (node.refresh view).2.toOption = some true

theorem refreshEntries_eq_ok {view : View} {count total : Nat} {entries : List (NodeId × Node)}
    (ok : (refreshEntries view count entries).2 = .ok total) :
    (refreshEntries view count entries).1 =
      entries.map (fun entry => (entry.1, (entry.2.refresh view).1)) ∧
    total = count + entries.countP fun entry => changes view entry.2 := by
  induction entries generalizing count with
  | nil =>
    cases ok
    exact ⟨rfl, by simp⟩
  | cons entry rest ih =>
    obtain ⟨id, node⟩ := entry
    cases step : node.refresh view with
    | mk refreshed outcome =>
      cases outcome with
      | error cause => simp [refreshEntries, step] at ok
      | ok changed =>
        simp only [refreshEntries, step] at ok ⊢
        obtain ⟨same, counted⟩ := ih ok
        refine ⟨by rw [same, List.map_cons, step], ?_⟩
        rw [counted, List.countP_cons]
        cases changed <;> simp [changes, step, Except.toOption]
        omega

/-- A refresh that runs through changes the nodes alone, and prunes unless every slot stays. -/
theorem outcome_refreshWrappers (view : View) (graph : ShaderGraph) :
    (graph.refreshWrappers view).2 = (refreshEntries view 0 graph.nodes.entries).2 := by
  unfold refreshWrappers
  dsimp only
  split <;> simp_all

theorem entries_refreshWrappers (view : View) (graph : ShaderGraph) :
    (graph.refreshWrappers view).1.nodes.entries = (refreshEntries view 0 graph.nodes.entries).1 := by
  unfold refreshWrappers
  dsimp only
  split <;> rfl

/-- A refresh that runs through brings every wrapper up to date, and looks the connections through
unless all slots stay. -/
theorem refreshWrappers_of_ok {view : View} {graph : ShaderGraph} {count : Nat}
    (ok : (graph.refreshWrappers view).2 = .ok count) :
    let changed := graph.withGraph { graph.toGraph with
      nodes := graph.nodes.mapValues fun _ node => (node.refresh view).1 }
    count = graph.nodes.entries.countP (fun entry => changes view entry.2) ∧
      (graph.refreshWrappers view).1 = if count = 0 then changed else changed.prune := by
  have outcome := (outcome_refreshWrappers view graph).symm.trans ok
  obtain ⟨entries, counted⟩ := refreshEntries_eq_ok outcome
  have nodes : (⟨(refreshEntries view 0 graph.nodes.entries).1,
      by rw [refreshEntries_keys]; exact graph.nodes.distinct⟩ : Keyed NodeId Node) =
      graph.nodes.mapValues fun _ node => (node.refresh view).1 := by
    rw [Keyed.mk.injEq]
    exact entries
  refine ⟨by simpa using counted, ?_⟩
  unfold refreshWrappers
  dsimp only
  rw [nodes, outcome]
  cases count <;> rfl

theorem refreshWrappers_eq_ok {view : View} {graph : ShaderGraph} {count : Nat}
    (ok : (graph.refreshWrappers view).2 = .ok count) :
    ∃ changed : ShaderGraph, changed.filed = graph.filed ∧ changed.outputNode = graph.outputNode ∧
      (∀ id, changed.node? id = (graph.node? id).map fun node => (node.refresh view).1) ∧
      count = graph.nodes.entries.countP (fun entry => changes view entry.2) ∧
      (graph.refreshWrappers view).1 = if count = 0 then changed else changed.prune :=
  ⟨graph.withGraph { graph.toGraph with
    nodes := graph.nodes.mapValues fun _ node => (node.refresh view).1 }, rfl, rfl,
    fun id => Keyed.get?_mapValues graph.nodes _ id, refreshWrappers_of_ok ok⟩

theorem node?_refreshWrappers {view : View} {graph : ShaderGraph} {count : Nat}
    (ok : (graph.refreshWrappers view).2 = .ok count) (id : NodeId) :
    (graph.refreshWrappers view).1.node? id =
      (graph.node? id).map fun node => (node.refresh view).1 := by
  obtain ⟨changed, _, _, looked, _, result⟩ := refreshWrappers_eq_ok ok
  rw [result, ← looked]
  split <;> rfl

/-- After a refresh the connections that are left join what they should, if they did before. -/
theorem joined_refreshWrappers {view : View} {graph : ShaderGraph} {count : Nat}
    (joined : ∀ connection ∈ graph.connections,
      graph.Offers connection.source .output ∧ graph.Offers connection.target .input)
    (ok : (graph.refreshWrappers view).2 = .ok count) :
    let refreshed := (graph.refreshWrappers view).1
    refreshed.filed.Sublist graph.filed ∧ ∀ connection ∈ refreshed.connections,
      refreshed.Offers connection.source .output ∧ refreshed.Offers connection.target .input := by
  obtain ⟨changed, filed, _, looked, counted, result⟩ := refreshWrappers_eq_ok ok
  dsimp only
  rw [result]
  split
  next unchanged =>
    refine ⟨filed ▸ List.Sublist.refl _, ?_⟩
    have kept (place : Endpoint) (direction : Direction) (offer : graph.Offers place direction) :
        changed.Offers place direction := by
      obtain ⟨owner, slot, known, found, aimed⟩ := offer
      have quiet : (owner.refresh view).2 ≠ .ok true := by
        intro loud
        have member := (graph.nodes.get?_eq_some_iff _ _).1 known
        have still := List.countP_eq_zero.1 (counted.symm.trans unchanged) _ member
        simp [changes, loud, Except.toOption] at still
      obtain ⟨other, here, direction⟩ := (owner.refresh_resynced view).keeps quiet _ slot found
      exact ⟨_, other, by rw [looked, known]; rfl, here, direction.trans aimed⟩
    intro connection member
    have old : connection ∈ graph.connections := by
      simpa [Graph.connections, filed] using member
    exact (joined connection old).imp (kept _ _) (kept _ _)
  next =>
    refine ⟨filed ▸ List.filter_sublist, ?_⟩
    intro connection member
    obtain ⟨id, member⟩ := (Graph.mem_connections_iff _ connection).1 member
    exact (Graph.joins_iff changed.toGraph connection).1 (List.mem_filter.1 member).2

theorem Kept.refreshWrappers {graph : ShaderGraph} (kept : graph.Kept) {view : View} {count : Nat}
    (ok : (graph.refreshWrappers view).2 = .ok count) : (graph.refreshWrappers view).1.Kept := by
  obtain ⟨fewer, joined⟩ := joined_refreshWrappers kept.connected.joined ok
  refine ⟨kept.connected.of_sublist fewer joined, ?_, ?_⟩
  · intro id node known
    rw [node?_refreshWrappers ok] at known
    obtain ⟨old, here, rfl⟩ := Option.map_eq_some_iff.1 known
    rw [(old.refresh_resynced view).id]
    exact kept.housed.filed id old here
  · intro id is
    obtain ⟨changed, _, output, _, _, result⟩ := refreshWrappers_eq_ok ok
    have same : (graph.refreshWrappers view).1.outputNode = graph.outputNode := by
      rw [result, ← output]
      split <;> rfl
    obtain ⟨node, known, takes⟩ := kept.housed.output id (same ▸ is)
    exact ⟨(node.refresh view).1, by rw [node?_refreshWrappers ok, known]; rfl,
      (node.refresh_resynced view).output takes⟩

end ShaderGraph

namespace Edit

theorem apply_kept {graph : ShaderGraph} (kept : graph.Kept) {edit : Edit}
    (admitted : edit.Admitted graph) : (edit.apply graph).Kept := by
  cases edit with
  | addNode node => exact kept.addNode admitted
  | connect id source target =>
    simp only [apply]
    split
    next result ok => exact kept.connect ok
    next => exact kept
  | removeNode id => exact kept.removeNode id
  | addProperty property =>
    simp only [apply]
    split
    next result ok => exact kept.addProperty ok
    next => exact kept
  | removeProperty guid =>
    simp only [apply]
    cases removed : graph.removeProperty guid with
    | none => exact kept
    | some result => exact kept.removeProperty removed
  | addOutput =>
    simp only [apply]
    cases added : graph.addOutput with
    | none => exact kept
    | some result => exact kept.addOutput added
  | removeOutput =>
    simp only [apply]
    cases removed : graph.removeOutput with
    | none => exact kept
    | some result => exact kept.removeOutput removed
  | setSubGraph view id handle => exact kept.setSubGraph view id handle
  | refreshWrappers view =>
    obtain ⟨count, ok⟩ := admitted
    exact kept.refreshWrappers ok

theorem run_kept {graph : ShaderGraph} (kept : graph.Kept) {edits : List Edit}
    (admitted : AllAdmitted graph edits) : (edits.foldl apply graph).Kept := by
  induction edits generalizing graph with
  | nil => exact kept
  | cons edit rest ih => exact ih (apply_kept kept admitted.1) admitted.2

end Edit

/-- However a graph was edited, its connections are sound and it has an order. -/
theorem edited_wellConnected (start : ShaderGraph) (fresh : start.New) (edits : List Edit)
    (admitted : Edit.AllAdmitted start edits) :
    (edits.foldl Edit.apply start).WellConnected ∧
      ∃ order, (edits.foldl Edit.apply start).topologicalOrder = some order := by
  have kept := Edit.run_kept (.new fresh) admitted
  exact ⟨kept.connected, Option.isSome_iff_exists.1 kept.connected.topologicalOrder_isSome⟩

namespace Edit

def relay (id : NodeId) : Node :=
  { Node.make id "Relay" (.function ⟨"relay", "relay", none, false, .none⟩) with
    slots := SlotTable.empty.addAll
      [Slot.make (.positional 0) "In" "In" .input .vector4,
        Slot.make (.positional 1) "Out" "Out" .output .vector4] }

def lending : View :=
  (Assets.empty.store
    ⟨⟨7, 0⟩, "Lent", Edit.apply (.subGraph ⟨7, 1⟩ "Lent" ⟨7, 2⟩) .addOutput⟩).view

/-- Joins, a refused join that would close a cycle, and a wrapper whose output comes and goes with
the definition that it is bound to. -/
def session : List Edit :=
  [.addNode (relay ⟨1, 1⟩), .addNode (relay ⟨1, 2⟩), .addOutput,
    .connect ⟨2, 1⟩ ⟨⟨1, 1⟩, .positional 1⟩ ⟨⟨1, 2⟩, .positional 0⟩,
    .connect ⟨2, 2⟩ ⟨⟨1, 2⟩, .positional 1⟩ ⟨⟨1, 1⟩, .positional 0⟩,
    .connect ⟨2, 3⟩ ⟨⟨1, 2⟩, .positional 1⟩ ⟨⟨1, 0⟩, .positional 1⟩,
    .addNode (Node.make ⟨1, 3⟩ "Sub-graph" (.wrapper (.bound none))),
    .setSubGraph lending ⟨1, 3⟩ (some ⟨7, 0⟩),
    .connect ⟨2, 4⟩ ⟨⟨1, 3⟩, .positional 1⟩ ⟨⟨1, 1⟩, .positional 0⟩,
    .refreshWrappers lending, .refreshWrappers Assets.empty.view, .removeOutput]

end Edit

theorem session_wellConnected :
    let start := ShaderGraph.subGraph ⟨1, 9⟩ "Edited" ⟨1, 0⟩
    let reached := Edit.session.foldl Edit.apply start
    start.New ∧ Edit.AllAdmitted start Edit.session ∧ reached.WellConnected ∧
      ∃ order, reached.topologicalOrder = some order := by
  intro start reached
  have fresh : start.New := .subGraph ⟨1, 9⟩ "Edited" ⟨1, 0⟩
  have admitted : Edit.AllAdmitted start Edit.session := by decide +kernel
  exact ⟨fresh, admitted, edited_wellConnected start fresh Edit.session admitted⟩

end NodeShader

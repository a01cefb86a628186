import NodeShader.Proofs.Rejection

/-! What flagging wrappers changes and what it leaves. The flags have no part in references, in the
order of nodes or in the search for faults, so that a flagged graph is as safe as it was before; and
a node that is not flagged has been searched without finding a fault at any depth. -/
namespace NodeShader

namespace ShaderGraph

/-- The same graph with other nodes in the place of its own. -/
def mapNodes (change : NodeId → Node → Node) (graph : ShaderGraph) : ShaderGraph :=
  graph.withGraph { graph.toGraph with nodes := graph.nodes.mapValues change }

theorem mapNodes_mapNodes (first second : NodeId → Node → Node) (graph : ShaderGraph) :
    (graph.mapNodes first).mapNodes second =
      graph.mapNodes fun id node => second id (first id node) := by
  simp [mapNodes, withGraph, Keyed.mapValues]

theorem mapNodes_congr {first second : NodeId → Node → Node} {graph : ShaderGraph}
    (same : ∀ id, ∀ node ∈ graph.nodes.values, first id node = second id node) :
    graph.mapNodes first = graph.mapNodes second := by
  simp only [mapNodes, withGraph, Keyed.mapValues, mk.injEq, Graph.mk.injEq, Keyed.mk.injEq, and_true]
  refine List.map_congr_left fun entry member => ?_
  rw [same entry.1 entry.2 (List.mem_map.2 ⟨entry, member, rfl⟩)]

end ShaderGraph

namespace View

def flagNode (view : View) (node : Node) : Node :=
  if node.wrapper?.isSome then { node with hasError := view.isFaulty node } else node

theorem flagNode_kind (view : View) (node : Node) : (view.flagNode node).kind = node.kind := by
  unfold flagNode
  split <;> rfl

theorem flagNode_wrapper? (view : View) (node : Node) :
    (view.flagNode node).wrapper? = node.wrapper? := by
  rw [Node.wrapper?, flagNode_kind, ← Node.wrapper?]

theorem flagNode_id (view : View) (node : Node) : (view.flagNode node).id = node.id := by
  unfold flagNode
  split <;> rfl

theorem flagNode_enabled (view : View) (node : Node) :
    (view.flagNode node).enabled = node.enabled := by
  unfold flagNode
  split <;> rfl

theorem flagNode_slots (view : View) (node : Node) : (view.flagNode node).slots = node.slots := by
  unfold flagNode
  split <;> rfl

theorem node?_flag (view : View) (graph : ShaderGraph) (id : NodeId) :
    (view.flag graph).node? id = (graph.node? id).map view.flagNode :=
  Keyed.get?_mapValues graph.nodes _ id

/-- Behind each node of a flagged graph is one that differs in nothing but the flag. -/
theorem exists_of_node?_flag {view : View} {graph : ShaderGraph} {id : NodeId} {node : Node}
    (known : (view.flag graph).node? id = some node) :
    ∃ before, graph.node? id = some before ∧ before.id = node.id ∧ before.kind = node.kind ∧
      before.slots = node.slots := by
  rw [node?_flag] at known
  obtain ⟨before, present, rfl⟩ := Option.map_eq_some_iff.1 known
  exact ⟨before, present, (view.flagNode_id before).symm, (view.flagNode_kind before).symm,
    (view.flagNode_slots before).symm⟩

theorem values_flag (view : View) (graph : ShaderGraph) :
    (view.flag graph).nodes.values = graph.nodes.values.map view.flagNode := by
  simp [flag, ShaderGraph.withGraph, Keyed.values, Keyed.mapValues, flagNode, Function.comp_def]

theorem refers_flag_iff (view : View) (graph : ShaderGraph) (definition : Live) :
    view.Refers (view.flag graph) definition ↔ view.Refers graph definition := by
  simp [Refers, values_flag, flagNode_kind]

theorem reaches_flag_iff (view : View) (graph : ShaderGraph) (definition : Live) :
    Reaches view.Refers (view.flag graph) definition ↔ Reaches view.Refers graph definition :=
  ⟨fun path => path.imp fun next => (view.refers_flag_iff graph next).1,
    fun path => path.imp fun next => (view.refers_flag_iff graph next).2⟩

theorem Current.flag {view : View} {graph : ShaderGraph} (current : view.Current graph) :
    view.Current (view.flag graph) := by
  refine ⟨?_, current.stored⟩
  intro node member wrapper kind
  rw [values_flag] at member
  obtain ⟨before, known, rfl⟩ := List.mem_map.1 member
  exact current.here before known wrapper ((view.flagNode_kind before) ▸ kind)

theorem keys_flag (view : View) (graph : ShaderGraph) :
    (view.flag graph).nodes.keys = graph.nodes.keys := Keyed.keys_mapValues graph.nodes _

theorem Safe.flag {view : View} {graph : ShaderGraph} (safe : view.Safe graph) :
    view.Safe (view.flag graph) := by
  constructor
  · rw [Graph.topologicalOrder_isSome_iff, keys_flag]
    exact (Graph.topologicalOrder_isSome_iff graph.toGraph).1 safe.ordered
  · intro definition path
    exact safe.inner definition ((view.reaches_flag_iff graph definition).1 path)
  · intro definition path
    exact safe.apart definition ((view.reaches_flag_iff graph definition).1 path)

theorem eq_of_validate {view : View} {graph : ShaderGraph} {answer : Report × ShaderGraph}
    (ok : view.validate graph = .ok answer) : answer = (view.report graph, view.flag graph) := by
  obtain ⟨_, _, rest⟩ := Outcome.bind_eq_ok ok
  obtain ⟨_, last⟩ := Outcome.passed_of_eq_ok rest
  cases last
  rfl

theorem eq_flag_of_validate {view : View} {graph flagged : ShaderGraph} {report : Report}
    (ok : view.validate graph = .ok (report, flagged)) : flagged = view.flag graph :=
  congrArg Prod.snd (eq_of_validate ok)

/-- At no depth below the node something is missing or broken, as far as active nodes go. -/
def Intact (view : View) (node : Node) : Prop := ∃ unmarked, view.fault unmarked node = some false

private theorem eq_false_of_anyM {α : Type} {test : α → Option Bool} {items : List α}
    (cleared : items.anyM test = some false) : ∀ item ∈ items, test item = some false := by
  induction items with
  | nil => simp
  | cons item rest ih =>
    rw [List.anyM_cons] at cleared
    obtain ⟨found, here, later⟩ := Option.bind_eq_some_iff.1 cleared
    cases found with
    | true => simp at later
    | false => simpa [here] using ih later

/-- Where nothing was found at fault the definition was not being searched already, and neither was
anything found inside it. -/
theorem fault_eq_false {view : View} {unmarked : List Serial} {node : Node} {definition : Live}
    (cleared : view.fault unmarked node = some false)
    (resolved : node.wrapper?.bind view.resolve = some definition) :
    definition.serial ∈ unmarked ∧ ∀ entry ∈ definition.graph.active,
      entry.2.hasError = false ∧
        view.fault (without unmarked definition.serial) entry.2 = some false := by
  obtain ⟨wrapper, kind, resolved⟩ := Option.bind_eq_some_iff.1 resolved
  have bound : wrapper.handle ≠ none := fun unbound => by simp [resolve, unbound] at resolved
  rw [fault] at cleared
  simp only [kind, if_neg bound, resolved] at cleared
  split at cleared
  next inside =>
    refine ⟨inside, ?_⟩
    intro entry member
    have test := eq_false_of_anyM cleared entry member
    split at test
    next => simp at test
    next sound => exact ⟨by simpa using sound, test⟩
  next => contradiction

theorem Intact.inside {view : View} {node : Node} {definition : Live} (intact : view.Intact node)
    (resolved : node.wrapper?.bind view.resolve = some definition) :
    ∀ entry ∈ definition.graph.active, entry.2.hasError = false ∧ view.Intact entry.2 := by
  obtain ⟨unmarked, cleared⟩ := intact
  intro entry member
  obtain ⟨sound, below⟩ := (fault_eq_false cleared resolved).2 entry member
  exact ⟨sound, _, below⟩

theorem Intact.resolves {view : View} {node : Node} {wrapper : Wrapper}
    (intact : view.Intact node) (kind : node.kind = .wrapper wrapper)
    (bound : wrapper.handle ≠ none) : (view.resolve wrapper).isSome := by
  obtain ⟨unmarked, cleared⟩ := intact
  rw [fault] at cleared
  simp only [(node.wrapper?_eq_some_iff wrapper).2 kind, if_neg bound] at cleared
  split at cleared
  next => contradiction
  next definition found => simp [found]

theorem fault_eq_of_wrapper? (view : View) (unmarked : List Serial) {node other : Node}
    (same : node.wrapper? = other.wrapper?) : view.fault unmarked node = view.fault unmarked other := by
  rw [fault, same, ← fault]

theorem answered_of_validate {view : View} {graph : ShaderGraph}
    {answer : Report × ShaderGraph} (ok : view.validate graph = .ok answer) :
    ∀ node ∈ graph.nodes.values, view.fault view.serials node ≠ none := by
  obtain ⟨_, _, rest⟩ := Outcome.bind_eq_ok ok
  obtain ⟨passed, _⟩ := Outcome.passed_of_eq_ok rest
  simpa using passed

theorem intact_of_mem_sound {view : View} {graph : ShaderGraph}
    (answered : ∀ node ∈ graph.nodes.values, view.fault view.serials node ≠ none)
    {entry : NodeId × Node} (member : entry ∈ (view.flag graph).sound) : view.Intact entry.2 := by
  obtain ⟨active, unflagged⟩ := List.mem_filter.1 member
  have known := Graph.mem_values_of_mem_active active
  rw [values_flag] at known
  obtain ⟨node, before, same⟩ := List.mem_map.1 known
  refine ⟨view.serials, ?_⟩
  rw [← same, view.fault_eq_of_wrapper? view.serials (view.flagNode_wrapper? node)]
  cases kind : node.wrapper? with
  | none => simp [fault, kind]
  | some wrapper =>
    have sound : view.isFaulty node = false := by
      simpa [← same, flagNode, kind] using unflagged
    cases answer : view.fault view.serials node with
    | none => exact absurd answer (answered node before)
    | some found =>
      cases found with
      | false => rfl
      | true => simp [isFaulty, answer] at sound

end View
end NodeShader

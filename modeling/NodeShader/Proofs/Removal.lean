import NodeShader.Proofs.Rearranging
import NodeShader.Proofs.Sorting

/-! Removal of a disabled node. A reader of a disabled node falls back to its default as if nothing fed it,
so that the node can go without a trace in what is compiled; only the nodes that are left may be worked
off in another order. -/
namespace NodeShader

theorem Keyed.mapValues_erase {κ α : Type} [DecidableEq κ] (table : Keyed κ α) (key : κ)
    (change : κ → α → α) :
    (table.erase key).mapValues change = (table.mapValues change).erase key := by
  simp only [erase, mapValues, mk.injEq, List.filter_map]
  rfl

namespace Graph
variable {graph : Graph} {gone : NodeId}

theorem mem_connections_removeNode_iff (graph : Graph) (gone : NodeId) (connection : Connection) :
    connection ∈ (graph.removeNode gone).connections ↔
      connection ∈ graph.connections ∧ connection.source.node ≠ gone ∧
        connection.target.node ≠ gone := by
  simp [connections, removeNode, Connection.involves]

theorem mem_values_removeNode {node : Node} (member : node ∈ (graph.removeNode gone).nodes.values) :
    node ∈ graph.nodes.values := by
  obtain ⟨id, known⟩ := (Keyed.mem_values_iff _ node).1 member
  exact Keyed.mem_values_of_get? (node?_of_removeNode known)

theorem topologicalOrder_removeNode (ordered : graph.topologicalOrder.isSome) (gone : NodeId) :
    (graph.removeNode gone).topologicalOrder.isSome := by
  rw [topologicalOrder_isSome_iff] at ordered ⊢
  have fewer : (graph.removeNode gone).Reads ≤ graph.Reads := fun _ _ => reads_of_subset
    fun connection member => ((graph.mem_connections_removeNode_iff gone connection).1 member).1
  intro id member other path cycle
  obtain ⟨node, known⟩ := (Keyed.mem_keys_iff _ id).1 member
  exact ordered id ((Keyed.mem_keys_iff _ id).2 ⟨node, node?_of_removeNode known⟩) other
    (Relation.ReflTransGen.mono fewer _ _ path) (Relation.TransGen.mono fewer _ _ cycle)

theorem active_removeNode (disabled : ∀ node ∈ graph.node? gone, node.enabled = false) :
    (graph.removeNode gone).active.Perm graph.active := by
  refine ((graph.removeNode gone).active_perm.trans ?_).trans graph.active_perm.symm
  rw [removeNode, Keyed.erase, List.filter_filter]
  refine .of_eq (List.filter_congr fun entry listed => ?_)
  cases enabled : entry.2.enabled with
  | false => rfl
  | true =>
    have other : entry.1 ≠ gone := by
      rintro rfl
      have known := (graph.nodes.get?_eq_some_iff entry.1 entry.2).2 listed
      exact absurd (disabled entry.2 known) (by simp [enabled])
    simp [other]

theorem feeding?_eq_some_iff (single : (graph.connections.map (·.target)).Nodup) (target : Endpoint)
    (connection : Connection) : graph.feeding? target = some connection ↔
      connection ∈ graph.connections ∧ connection.target = target := by
  constructor
  · intro found
    exact ⟨List.mem_of_find?_eq_some found, by simpa using List.find?_some found⟩
  · rintro ⟨member, rfl⟩
    obtain ⟨first, found⟩ : ∃ first, graph.feeding? connection.target = some first :=
      Option.isSome_iff_exists.1 (List.find?_isSome.2 ⟨connection, member, by simp⟩)
    have same : first.target = connection.target := by simpa using List.find?_some found
    rw [found, List.inj_on_of_nodup_map single (List.mem_of_find?_eq_some found) member same]

theorem feeding?_removeNode_eq_some_iff (single : (graph.connections.map (·.target)).Nodup)
    {target : Endpoint} (other : target.node ≠ gone) (connection : Connection) :
    (graph.removeNode gone).feeding? target = some connection ↔
      graph.feeding? target = some connection ∧ connection.source.node ≠ gone := by
  have fewer : ((graph.removeNode gone).connections.map (·.target)).Nodup :=
    ((List.filter_sublist.map Prod.snd).map Connection.target).nodup single
  rw [feeding?_eq_some_iff fewer, feeding?_eq_some_iff single, mem_connections_removeNode_iff]
  constructor
  · rintro ⟨⟨member, apart, _⟩, into⟩
    exact ⟨⟨member, into⟩, apart⟩
  · rintro ⟨⟨member, rfl⟩, apart⟩
    exact ⟨⟨member, apart, other⟩, rfl⟩

end Graph

namespace ShaderGraph

/-- A disabled node that is not the output node. No enabled node carries the id under which it is filed,
for connections to it would feed that one. -/
structure Idle (graph : ShaderGraph) (gone : NodeId) : Prop where
  disabled : ∀ node ∈ graph.node? gone, node.enabled = false
  inner : graph.outputNode ≠ some gone
  own : ∀ node ∈ graph.nodes.values, node.enabled = true → node.id ≠ gone

variable {graph : ShaderGraph} {gone : NodeId}

theorem removeNode_of_ne (inner : graph.outputNode ≠ some gone) :
    (graph.removeNode gone).2 = graph.withGraph (graph.toGraph.removeNode gone) := by
  rw [removeNode, if_neg inner]

theorem Idle.source?_removeNode (idle : graph.Idle gone)
    (single : (graph.connections.map (·.target)).Nodup) {node : Node} (other : node.id ≠ gone)
    (slot : SlotId) :
    (graph.withGraph (graph.toGraph.removeNode gone)).source? node slot = graph.source? node slot := by
  apply Option.ext
  rintro ⟨source, place⟩
  rw [source?_eq_some_iff, source?_eq_some_iff]
  refine exists_congr fun connection => ?_
  rw [withGraph, Graph.feeding?_removeNode_eq_some_iff single other, Graph.node?_removeNode]
  by_cases same : connection.source.node = gone
  · -- What the removed node fed is not read from it before either.
    simp only [same, ne_eq, not_true_eq_false, and_false, false_and, false_iff, not_and]
    rintro _ known enabled
    exact absurd (idle.disabled source known) (by simp [enabled])
  · simp [same]

theorem Idle.rearranges (idle : graph.Idle gone) (single : (graph.connections.map (·.target)).Nodup) :
    (graph.removeNode gone).2.Rearranges graph := by
  rw [removeNode_of_ne idle.inner]
  refine ⟨Graph.active_removeNode idle.disabled, rfl, ?_, ?_⟩
  · have kept : (graph.withGraph (graph.toGraph.removeNode gone)).output? = graph.output? := by
      refine Option.bind_congr fun id output => ?_
      rw [withGraph, Graph.node?_removeNode, if_neg]
      rintro rfl
      exact idle.inner output
    simp only [outputs, kept]
  · intro entry active slot
    exact idle.source?_removeNode single (idle.own entry.2 (Graph.mem_values_of_mem_active active)
      (List.mem_filter.1 active).2) slot

theorem Idle.flag (idle : graph.Idle gone) (view : View) : (view.flag graph).Idle gone := by
  refine ⟨?_, idle.inner, ?_⟩
  · intro node known
    rw [View.node?_flag] at known
    obtain ⟨before, present, rfl⟩ := Option.map_eq_some_iff.1 known
    rw [View.flagNode_enabled, idle.disabled before present]
  · intro node member enabled
    rw [View.values_flag] at member
    obtain ⟨before, present, rfl⟩ := List.mem_map.1 member
    rw [View.flagNode_enabled] at enabled
    rw [View.flagNode_id]
    exact idle.own before present enabled

end ShaderGraph

namespace View
variable {view : View} {graph : ShaderGraph} {gone : NodeId}

theorem flag_removeNode (view : View) (inner : graph.outputNode ≠ some gone) :
    view.flag (graph.removeNode gone).2 = ((view.flag graph).removeNode gone).2 := by
  have flagged : (view.flag graph).outputNode ≠ some gone := inner
  rw [ShaderGraph.removeNode_of_ne inner, ShaderGraph.removeNode_of_ne flagged]
  simp only [flag, ShaderGraph.withGraph, Graph.removeNode, Keyed.mapValues_erase]

theorem refers_of_removeNode {definition : Live}
    (refers : view.Refers (graph.withGraph (graph.toGraph.removeNode gone)) definition) :
    view.Refers graph definition := by
  obtain ⟨node, member, wrapper, handle, kind, bound, stored⟩ := refers
  exact ⟨node, Graph.mem_values_removeNode member, wrapper, handle, kind, bound, stored⟩

/-- Fewer nodes refer to no more definitions, and fewer connections close no more cycles. -/
theorem validate_removeNode (alike : view.Alike) (inner : graph.outputNode ≠ some gone)
    {answer : Report × ShaderGraph} (ok : view.validate graph = .ok answer) :
    view.validate (graph.removeNode gone).2 = .ok (view.report (graph.removeNode gone).2,
      ((view.flag graph).removeNode gone).2) := by
  have answered := answered_of_validate ok
  obtain ⟨checked, searched, _⟩ := Outcome.bind_eq_ok ok
  obtain ⟨safe, apart⟩ := (checkCycles_passes_iff alike graph).1 ⟨checked, searched⟩
  rw [← view.flag_removeNode inner, ShaderGraph.removeNode_of_ne inner]
  have fewer {definition : Live} (path : Reaches view.Refers
      (graph.withGraph (graph.toGraph.removeNode gone)) definition) :
      Reaches view.Refers graph definition := path.imp fun _ => refers_of_removeNode
  obtain ⟨_, passed⟩ := (checkCycles_passes_iff alike
      (graph.withGraph (graph.toGraph.removeNode gone))).2
    ⟨⟨Graph.topologicalOrder_removeNode safe.ordered gone, fun _ path => safe.inner _ (fewer path),
      fun _ path => safe.apart _ (fewer path)⟩, fun _ path => apart _ (fewer path)⟩
  exact validate_of_checkCycles passed fun node member =>
    answered node (Graph.mem_values_removeNode member)

/-- A graph that compiles does so without a disabled node, to the same but for order. -/
theorem compile_removeNode (alike : view.Alike) {settings : Settings} {flagged : ShaderGraph}
    {compiled : Compiled} (idle : graph.Idle gone)
    (single : (graph.connections.map (·.target)).Nodup)
    (ok : view.compile settings graph = .ok (compiled, flagged)) :
    ∃ other, view.compile settings (graph.removeNode gone).2 =
        .ok (other, (flagged.removeNode gone).2) ∧
      view.Matches settings flagged compiled other := by
  obtain ⟨report, validated, _⟩ := compile_eq_ok ok
  obtain rfl := eq_flag_of_validate validated
  have again := @compile_eq_of_validate view settings _ _ _
    (validate_removeNode alike idle.inner validated)
  exact ⟨_, again, matches_of_compile ((idle.flag view).rearranges single) ok again⟩

/-- A disabled node stands between two others, of which the later one was added first and takes a
texture as well. -/
def bridged : ShaderGraph :=
  let named (name : String) (number : UInt64) := { Edit.relay ⟨number, 0⟩ with name }
  let map := Slot.make (.positional 2) "Map" "Map" .input .texture2D
  let nodes := [(named "Reader" 4).addSlot map, named "Source" 5,
    { named "Bridge" 6 with enabled := false }]
  let graph := nodes.foldl ShaderGraph.addNode (wrapping 3 "Root" ⟨3, 3⟩)
  graph.withGraph { graph.toGraph with
    filed := [(⟨7, 0⟩, ⟨⟨7, 0⟩, ⟨⟨5, 0⟩, .positional 1⟩, ⟨⟨6, 0⟩, .positional 0⟩⟩),
      (⟨8, 0⟩, ⟨⟨8, 0⟩, ⟨⟨6, 0⟩, .positional 1⟩, ⟨⟨4, 0⟩, .positional 0⟩⟩)] }

/-- The other two change places when the node goes. -/
theorem bridged_compile_removeNode :
    let left := (bridged.removeNode ⟨6, 0⟩).2
    copied.Alike ∧ bridged.Idle ⟨6, 0⟩ ∧ (bridged.connections.map (·.target)).Nodup ∧
      bridged.active.map (·.1) = [⟨3, 1⟩, ⟨5, 0⟩, ⟨4, 0⟩] ∧
      left.active.map (·.1) = [⟨3, 1⟩, ⟨4, 0⟩, ⟨5, 0⟩] ∧
      ∃ compiled flagged, copied.compile .standard bridged = .ok (compiled, flagged) ∧
        Unambiguous Prod.fst (copied.offers .standard flagged) ∧
        Unambiguous Uniform.name (copied.wanted flagged) ∧
        ∃ other, copied.compile .standard left = .ok (other, (flagged.removeNode ⟨6, 0⟩).2) ∧
          copied.Matches .standard flagged compiled other := by
  intro left
  have consistent : copied.Consistent := by decide +kernel
  have idle : bridged.Idle ⟨6, 0⟩ := ⟨by decide +kernel, by decide +kernel, by decide +kernel⟩
  have single : (bridged.connections.map (·.target)).Nodup := by decide +kernel
  have compiles : (copied.compile .standard bridged).toBool = true := by decide +kernel
  obtain ⟨⟨compiled, flagged⟩, ok⟩ := Outcome.exists_eq_ok compiles
  obtain ⟨_, validated, _⟩ := compile_eq_ok ok
  obtain rfl := eq_flag_of_validate validated
  exact ⟨consistent.alike, idle, single, by decide +kernel, by decide +kernel, compiled, _, ok,
    by decide +kernel, by decide +kernel, compile_removeNode consistent.alike idle single ok⟩

/-- The graph is well-formed and compiles, but without a disabled node it is rejected or the lines of
its entry function are others. -/
def Matters (view : View) (graph : ShaderGraph) (gone : NodeId) : Prop :=
  view.Fresh graph ∧ (∀ connection ∈ graph.connections, graph.joins connection = true) ∧
    (graph.connections.map (·.target)).Nodup ∧ graph.topologicalOrder.isSome ∧
    (graph.node? gone).map Node.isActive = some false ∧ graph.outputNode ≠ some gone ∧
    ∃ compiled flagged, view.compile .standard graph = .ok (compiled, flagged) ∧
      ∀ other changed, view.compile .standard (graph.removeNode gone).2 = .ok (other, changed) →
        ¬ (Text.lines other.entry.toList).Perm (Text.lines compiled.entry.toList)

/-- The lines of the entry function, or none for a rejected graph. -/
def entryLines (view : View) (graph : ShaderGraph) : List (List Char) :=
  match view.compile .standard graph with
  | .ok (compiled, _) => Text.lines compiled.entry.toList
  | .error _ => []

theorem entryLines_eq {compiled : Compiled} {flagged : ShaderGraph}
    (ok : view.compile .standard graph = .ok (compiled, flagged)) :
    view.entryLines graph = Text.lines compiled.entry.toList := by
  simp only [entryLines, ok]

theorem exists_compile_of_entryLines (compiles : (view.compile .standard graph).toBool = true)
    (differ : ¬ (view.entryLines (graph.removeNode gone).2).Perm (view.entryLines graph)) :
    ∃ compiled flagged, view.compile .standard graph = .ok (compiled, flagged) ∧
      ∀ other changed, view.compile .standard (graph.removeNode gone).2 = .ok (other, changed) →
        ¬ (Text.lines other.entry.toList).Perm (Text.lines compiled.entry.toList) := by
  obtain ⟨⟨compiled, flagged⟩, ok⟩ := Outcome.exists_eq_ok compiles
  refine ⟨compiled, flagged, ok, fun other changed otherOk => ?_⟩
  rwa [entryLines_eq ok, entryLines_eq otherOk] at differ

/-- A node that is filed under another id carries the id of a disabled one, to which a property is
connected. -/
def misfiledUser : ShaderGraph :=
  let slot (direction : Direction) := Slot.make (.positional 0) "Gain" "Gain" direction .vector1
  let reader := { Node.make ⟨1, 0⟩ "Gain" (.reader ⟨5, 0⟩) with
    slots := SlotTable.empty.add (slot .output) }
  let user := { Node.make ⟨2, 0⟩ "Use" (.function ⟨"use", "use", none, false, .none⟩) with
    slots := SlotTable.empty.add (slot .input) }
  { ShaderGraph.root ⟨9, 0⟩ "Root" with
    nodes := .ofList [(⟨1, 0⟩, reader), (⟨2, 0⟩, { user with enabled := false }), (⟨3, 0⟩, user)]
    filed := [(⟨4, 0⟩, ⟨⟨4, 0⟩, ⟨⟨1, 0⟩, .positional 0⟩, ⟨⟨2, 0⟩, .positional 0⟩⟩)]
    properties := [⟨⟨5, 0⟩, "Gain", "Gain", .float .zero⟩] }

/-- The first wrapper stands for the original, the second one for the changed copy. -/
def coveringUp : ShaderGraph :=
  let original := Node.make ⟨3, 1⟩ "Sub-graph" (.wrapper (.bound (some ⟨1, 1⟩)))
  let copy := Node.make ⟨3, 2⟩ "Sub-graph" (.wrapper (.bound (some ⟨2, 2⟩)))
  ((ShaderGraph.root ⟨3, 0⟩ "Root").addNode { original with enabled := false }).addNode copy

/-- A misfiled node loses what it reads. And a ring that was covered up by a graph of the same id, met
before, comes to light. -/
theorem misfiled_and_covered_matter :
    Assets.empty.view.Matters misfiledUser ⟨2, 0⟩ ∧
      (changed [{ Node.make ⟨1, 1⟩ "Broken" .output with hasError := true }]).Matters coveringUp
        ⟨3, 1⟩ := by
  refine ⟨⟨?_, ?_, ?_, ?_, ?_, ?_, exists_compile_of_entryLines ?_ ?_⟩,
    ⟨?_, ?_, ?_, ?_, ?_, ?_, exists_compile_of_entryLines ?_ ?_⟩⟩ <;> decide +kernel

end View
end NodeShader

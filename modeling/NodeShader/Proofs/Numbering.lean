import NodeShader.Proofs.Retyping

/-! The outlets of a sub-graph. They are numbered from one in the order in which they were added, and only
the last one can be taken away; so their number tells all about them, however the graph is edited in
between. Taking one away drops the connections into it and no others. -/
namespace NodeShader

namespace SlotTable

theorem insertEntry_of_above {id : SlotId} {slot : Slot} {entries : List (SlotId × Slot)}
    (above : ∀ entry ∈ entries, entry.1.value < id.value) :
    insertEntry id slot entries = entries ++ [(id, slot)] := by
  induction entries with
  | nil => rfl
  | cons head rest ih =>
    have less : head.1.value < id.value := above head (by simp)
    have later : ∀ entry ∈ rest, entry.1.value < id.value :=
      fun entry member => above entry (List.mem_cons_of_mem head member)
    rw [insertEntry, if_neg (by omega), if_neg (by omega), ih later, List.cons_append]

/-- A slot whose id is above those in use is filed last. -/
theorem entries_add_of_above {table : SlotTable} {slot : Slot}
    (above : ∀ entry ∈ table.entries, entry.1.value < slot.id.value) :
    (table.add slot).entries = table.entries ++ [(slot.id, slot)] := by
  have absent : table.get? slot.id = none := by
    apply Option.eq_none_iff_forall_ne_some.2
    intro other found
    exact Nat.lt_irrefl _ (above _ ((table.get?_eq_some_iff slot.id other).1 found))
  simp only [add, absent, insert, insertEntry_of_above above]

theorem entries_erase_last {table : SlotTable} {front : List (SlotId × Slot)} {id : SlotId} {slot : Slot}
    (split : table.entries = front ++ [(id, slot)]) (below : ∀ entry ∈ front, entry.1.value < id.value) :
    (table.erase id).entries = front := by
  have others : front.filter (fun entry => entry.1 ≠ id) = front := by
    apply List.filter_eq_self.2
    intro entry member
    have less := below entry member
    simp only [decide_eq_true_eq]
    intro same
    rw [same] at less
    exact Nat.lt_irrefl _ less
  have entries : (table.erase id).entries = table.entries.filter fun entry => entry.1 ≠ id := rfl
  rw [entries, split, List.filter_append, others]
  simp

end SlotTable

/-- An input of four components that are all zero, with its number in both of its names. -/
def Slot.numbered (number : Nat) : Slot where
  id := ⟨number⟩
  displayName := "Output " ++ toString number
  referenceName := "Output" ++ toString number
  direction := .input
  type := .vector4
  default := .vector4 (.replicate 4 .zero)

namespace Node

theorem outlet_eq (number : Nat) : outlet number = .numbered number := rfl

/-- The first outlets that an output node gets, under the ids that they are filed under. -/
def firstOutlets (count : Nat) : List (SlotId × Slot) :=
  (List.range count).map fun index => (⟨index + 1⟩, .numbered (index + 1))

theorem firstOutlets_succ (count : Nat) : firstOutlets (count + 1) =
    firstOutlets count ++ [(⟨count + 1⟩, .numbered (count + 1))] := by
  simp [firstOutlets, List.range_succ]

theorem lt_of_mem_firstOutlets {count : Nat} {entry : SlotId × Slot}
    (member : entry ∈ firstOutlets count) : entry.1.value < count + 1 := by
  obtain ⟨index, inside, rfl⟩ := List.mem_map.1 member
  exact Nat.succ_lt_succ (List.mem_range.1 inside)

/-- An output node that has the outlets up to a number, and no other slots. -/
structure Numbered (node : Node) (count : Nat) : Prop where
  kind : node.kind = .output
  outlets : node.slots.entries = firstOutlets count

namespace Numbered
variable {node : Node} {count : Nat} (numbered : node.Numbered count)
include numbered

theorem isOutput : node.isOutput = true := by simp [Node.isOutput, numbered.kind]

theorem wrapper? : node.wrapper? = none := by simp [Node.wrapper?, numbered.kind]

theorem length_inputs : node.slots.inputs.length = count := by
  have slots : node.slots.slots = (List.range count).map fun index => .numbered (index + 1) := by
    rw [SlotTable.slots, numbered.outlets, firstOutlets, List.map_map]
    rfl
  have inputs : node.slots.inputs = node.slots.slots := by
    apply List.filter_eq_self.2
    intro slot member
    rw [slots] at member
    obtain ⟨index, _, rfl⟩ := List.mem_map.1 member
    rfl
  rw [inputs, slots, List.length_map, List.length_range]

theorem addOutlet : ∃ grown, node.addOutlet = some (count + 1, grown) ∧ grown.Numbered (count + 1) := by
  refine ⟨node.addSlot (outlet (count + 1)), ?_, numbered.kind, ?_⟩
  · simp only [Node.addOutlet, numbered.isOutput, numbered.length_inputs, if_true]
  · have above : ∀ entry ∈ node.slots.entries, entry.1.value < (outlet (count + 1)).id.value := by
      rw [numbered.outlets]
      exact fun entry member => lt_of_mem_firstOutlets member
    rw [addSlot, SlotTable.entries_add_of_above above, numbered.outlets, firstOutlets_succ, outlet_eq]
    rfl

end Numbered

theorem Numbered.removeOutlet_zero {node : Node} (numbered : node.Numbered 0) :
    node.removeOutlet = none := by
  have none : node.slots.inputs = [] := List.length_eq_zero_iff.1 numbered.length_inputs
  simp [Node.removeOutlet, none]

theorem Numbered.removeOutlet_succ {node : Node} {count : Nat} (numbered : node.Numbered (count + 1)) :
    ∃ shrunk, node.removeOutlet = some (.numbered (count + 1), shrunk) ∧ shrunk.Numbered count ∧
      shrunk.slots = node.slots.erase (.positional (count + 1)) := by
  have split := numbered.outlets.trans (firstOutlets_succ count)
  have last : node.slots.get? (.positional (count + 1)) = some (.numbered (count + 1)) :=
    (node.slots.get?_eq_some_iff _ _).2 (split ▸ List.mem_append_right _ List.mem_cons_self)
  have some : node.slots.inputs ≠ [] := by
    rw [← List.length_pos_iff, numbered.length_inputs]
    exact Nat.succ_pos count
  refine ⟨{ node with slots := node.slots.erase (.positional (count + 1)), dirty := true }, ?_,
    ⟨numbered.kind, ?_⟩, rfl⟩
  · simp only [Node.removeOutlet, numbered.length_inputs, last]
    rw [if_pos ⟨numbered.isOutput, some⟩]
    rfl
  · exact SlotTable.entries_erase_last split fun entry member => lt_of_mem_firstOutlets member

end Node

namespace ShaderGraph

/-- The node that the graph designates is there, with the outlets up to a number. -/
structure Numbered (graph : ShaderGraph) (output : NodeId) (count : Nat) : Prop where
  designated : graph.outputNode = some output
  present : ∃ node, graph.node? output = some node ∧ node.Numbered count

/-- The same but for one node and the connections. -/
def AgreesOutside (graph changed : ShaderGraph) (output : NodeId) : Prop :=
  changed = graph.withGraph changed.toGraph ∧
    ∀ id, id ≠ output → changed.node? id = graph.node? id

theorem agreesOutside_modifyNode (graph : ShaderGraph) (output : NodeId) (change : Node → Node) :
    graph.AgreesOutside (graph.modifyNode output change) output := by
  refine ⟨rfl, fun id other => ?_⟩
  rw [toGraph_modifyNode, Graph.node?_modifyNode, if_neg other]

namespace Numbered
variable {graph : ShaderGraph} {output : NodeId} {count : Nat}

theorem new (guid : Guid) (name : String) (output : NodeId) :
    (subGraph guid name output).Numbered output 0 := by
  refine ⟨rfl, Node.outputNode output, ?_, rfl, rfl⟩
  exact (Graph.empty.node?_addNode (Node.outputNode output) output).trans (if_pos rfl)

/-- Editing elsewhere leaves the outlets alone. -/
theorem keep (numbered : graph.Numbered output count) {changed : ShaderGraph}
    (same : changed.outputNode = graph.outputNode)
    (kept : ∀ node, graph.node? output = some node → node.wrapper? = none →
      changed.node? output = some node) : changed.Numbered output count := by
  obtain ⟨designated, node, known, outlets⟩ := numbered
  exact ⟨same.trans designated, node, kept node known outlets.wrapper?, outlets⟩

theorem modifyNode (numbered : graph.Numbered output count) {node : Node} {other : Nat}
    (outlets : node.Numbered other) :
    (graph.modifyNode output fun _ => node).Numbered output other := by
  obtain ⟨designated, old, known, _⟩ := numbered
  refine ⟨designated, node, ?_, outlets⟩
  rw [toGraph_modifyNode, Graph.node?_modifyNode, if_pos rfl, known, Option.map_some]

theorem addOutput (numbered : graph.Numbered output count) :
    ∃ grown, graph.addOutput = some (count + 1, grown) ∧ grown.Numbered output (count + 1) ∧
      grown.filed = graph.filed ∧ graph.AgreesOutside grown output := by
  obtain ⟨node, known, outlets⟩ := numbered.present
  obtain ⟨grown, added, more⟩ := outlets.addOutlet
  refine ⟨graph.modifyNode output fun _ => grown, ?_, numbered.modifyNode more, rfl,
    graph.agreesOutside_modifyNode output _⟩
  simp [ShaderGraph.addOutput, numbered.designated, known, added]

theorem removeOutput_zero (numbered : graph.Numbered output 0) : graph.removeOutput = none := by
  obtain ⟨node, known, outlets⟩ := numbered.present
  simp [ShaderGraph.removeOutput, numbered.designated, known, outlets.removeOutlet_zero]

/-- An outlet that goes takes the connections into it along. Nothing starts at an outlet, and all other
slots are still there, so pruning finds nothing else to drop. -/
theorem joins_without_outlet (kept : graph.Kept) {node shrunk : Node} {last : SlotId}
    (designated : graph.outputNode = some output) (known : graph.node? output = some node)
    (erased : shrunk.slots = node.slots.erase last) {connection : Connection}
    (member : connection ∈ graph.connections) :
    (graph.toGraph.modifyNode output fun _ => shrunk).joins connection = true ↔
      connection.target ≠ ⟨output, last⟩ := by
  let changed := graph.toGraph.modifyNode output fun _ => shrunk
  have here : changed.node? output = some shrunk := by
    rw [Graph.node?_modifyNode, if_pos rfl, known, Option.map_some]
  have elsewhere {place : Endpoint} {direction : Direction} (other : place.node ≠ output)
      (offer : graph.Offers place direction) : changed.Offers place direction := by
    obtain ⟨owner, slot, present, found, aimed⟩ := offer
    refine ⟨owner, slot, ?_, found, aimed⟩
    rw [Graph.node?_modifyNode, if_neg other]
    exact present
  obtain ⟨gives, takes⟩ := kept.connected.joined connection member
  rw [Graph.joins_iff]
  constructor
  · rintro ⟨_, owner, slot, present, found, _⟩ same
    rw [same] at present found
    cases here.symm.trans present
    rw [erased, SlotTable.get?_erase, if_pos rfl] at found
    contradiction
  · intro other
    refine ⟨elsewhere ?_ gives, ?_⟩
    · intro same
      obtain ⟨owner, slot, present, found, aimed⟩ := gives
      obtain ⟨_, present', _, onlyTakes⟩ := kept.housed.output output designated
      rw [same] at present
      cases present.symm.trans present'
      exact absurd ((onlyTakes _ slot found).symm.trans aimed) (by simp)
    · by_cases same : connection.target.node = output
      · obtain ⟨owner, slot, present, found, aimed⟩ := takes
        have before : graph.node? connection.target.node = some node := by rw [same, known]
        have after : changed.node? connection.target.node = some shrunk := by rw [same, here]
        cases before.symm.trans present
        refine ⟨shrunk, slot, after, ?_, aimed⟩
        rw [erased, SlotTable.get?_erase, if_neg]
        · exact found
        · intro place
          exact other (by rw [← same, ← place])
      · exact elsewhere same takes

theorem removeOutput_succ (kept : graph.Kept) (numbered : graph.Numbered output (count + 1)) :
    ∃ shrunk, graph.removeOutput = some (.numbered (count + 1), shrunk) ∧
      shrunk.Numbered output count ∧
      shrunk.filed = graph.filed.filter (fun entry =>
        entry.2.target ≠ ⟨output, .positional (count + 1)⟩) ∧
      graph.AgreesOutside shrunk output := by
  obtain ⟨node, known, outlets⟩ := numbered.present
  obtain ⟨shrunk, removed, fewer, erased⟩ := outlets.removeOutlet_succ
  refine ⟨(graph.modifyNode output fun _ => shrunk).prune, ?_, ?_, ?_, ?_⟩
  · simp [ShaderGraph.removeOutput, numbered.designated, known, removed]
  · obtain ⟨designated, node, present, outlets⟩ := numbered.modifyNode fewer
    exact ⟨designated, node, present, outlets⟩
  · refine List.filter_congr fun entry member => ?_
    have connection : entry.2 ∈ graph.connections := List.mem_map.2 ⟨entry, member, rfl⟩
    rw [Bool.eq_iff_iff, decide_eq_true_eq]
    exact joins_without_outlet kept numbered.designated known erased connection
  · exact ⟨rfl, (graph.agreesOutside_modifyNode output fun _ => shrunk).2⟩

end Numbered
end ShaderGraph

theorem Graph.node?_foldl_removeNode {graph : Graph} {ids : List NodeId} {id : NodeId}
    (apart : id ∉ ids) : (ids.foldl removeNode graph).node? id = graph.node? id := by
  induction ids generalizing graph with
  | nil => rfl
  | cons gone rest ih =>
    rw [List.mem_cons, not_or] at apart
    rw [List.foldl_cons, ih apart.2, node?_removeNode, if_neg apart.1]

namespace Edit

/-- How many outlets there are after a step. -/
def tally (count : Nat) : Edit → Nat
  | addOutput => count + 1
  | removeOutput => count - 1
  | _ => count

/-- Only the two steps that are made for it change the output node. -/
theorem Does.node?_output {graph result : ShaderGraph} {edit : Edit} (does : edit.Does graph result)
    (kept : graph.Kept) {output : NodeId} (is : graph.outputNode = some output)
    (grows : edit ≠ .addOutput) (shrinks : edit ≠ .removeOutput) (stays : edit ≠ .removeNode output)
    {node : Node} (known : graph.node? output = some node) (plain : node.wrapper? = none) :
    result.node? output = some node := by
  cases does with
  | nothing | addProperty => exact known
  | addOutput => exact absurd rfl grows
  | removeOutput => exact absurd rfl shrinks
  | @addNode added fresh =>
    have other : output ≠ added.id := by
      rintro rfl
      exact absurd (known.symm.trans fresh) (by simp)
    rw [ShaderGraph.toGraph_addNode, Graph.node?_addNode, if_neg other]
    exact known
  | connect connected =>
    obtain ⟨_, _, _, _, rfl⟩ := Graph.connect_eq_ok connected
    exact known
  | removeNode id =>
    have apart : output ≠ id := fun same => stays (congrArg Edit.removeNode same.symm)
    rw [ShaderGraph.toGraph_withGraph, Graph.node?_removeNode, if_neg apart]
    exact known
  | removeProperty guid =>
    have apart : output ∉ graph.readers guid := fun reads =>
      kept.housed.readers_apart guid output reads is
    exact (Graph.node?_foldl_removeNode apart).trans known
  | @setSubGraph view id handle bound _ here left =>
    have rebound : (graph.modifyNode id fun _ => (bound.setSubGraph view handle).1).node? output =
        some node := by
      rw [ShaderGraph.toGraph_modifyNode, Graph.node?_modifyNode]
      split
      next same =>
        subst same
        cases known.symm.trans here
        rw [known, Option.map_some, Node.setSubGraph_of_plain view handle plain]
      next => exact known
    rcases left with rfl | rfl <;> exact rebound
  | @refreshWrappers view refreshed _ _ _ looked left =>
    have same : refreshed.node? output = some node := by
      rw [looked, known, Option.map_some, Node.refresh_of_plain view plain]
    rcases left with rfl | rfl <;> exact same

theorem apply_numbered {graph : ShaderGraph} {output : NodeId} {count : Nat} (kept : graph.Kept)
    (numbered : graph.Numbered output count) {edit : Edit} (admitted : edit.Admitted graph) :
    (edit.apply graph).Numbered output (edit.tally count) := by
  have does := does_apply admitted
  have leaves (grows : edit ≠ addOutput) (shrinks : edit ≠ removeOutput)
      (stays : edit ≠ removeNode output) : (edit.apply graph).Numbered output count := by
    apply numbered.keep does.outputNode
    intro node known plain
    exact does.node?_output kept numbered.designated grows shrinks stays known plain
  cases edit with
  | addOutput =>
    obtain ⟨grown, added, more, _⟩ := numbered.addOutput
    rw [apply, added]
    exact more
  | removeOutput =>
    cases count with
    | zero =>
      rw [apply, numbered.removeOutput_zero]
      exact numbered
    | succ count =>
      obtain ⟨shrunk, removed, fewer, _⟩ := numbered.removeOutput_succ kept
      rw [apply, removed]
      exact fewer
  | removeNode id =>
    by_cases here : id = output
    · rw [apply, ShaderGraph.removeNode, if_pos (by rw [numbered.designated, here])]
      exact numbered
    · exact leaves (by simp) (by simp) (by simpa using here)
  | addNode | connect | addProperty | removeProperty | setSubGraph | refreshWrappers =>
    exact leaves (by simp) (by simp) (by simp)

theorem run_numbered {graph : ShaderGraph} {output : NodeId} {count : Nat} (kept : graph.Kept)
    (numbered : graph.Numbered output count) {edits : List Edit}
    (admitted : AllAdmitted graph edits) :
    (edits.foldl apply graph).Numbered output (edits.foldl tally count) := by
  induction edits generalizing graph count with
  | nil => exact numbered
  | cons edit rest ih =>
    have next : (edit.apply graph).Kept := apply_kept kept admitted.1
    exact ih next (apply_numbered kept numbered admitted.1) admitted.2

theorem tally_le (edits : List Edit) (count : Nat) :
    edits.foldl tally count ≤ count + edits.length := by
  induction edits generalizing count with
  | nil => exact Nat.le_refl count
  | cons edit rest ih =>
    have step : edit.tally count ≤ count + 1 := by cases edit <;> simp only [tally] <;> omega
    have others := ih (edit.tally count)
    simp only [List.foldl_cons, List.length_cons]
    omega

end Edit

/-- The outlets of a graph are numbered from one up to a count, and so they stay when one is added or
taken away. -/
structure ShaderGraph.OutletsInRow (graph : ShaderGraph) (output : NodeId) (count : Nat) : Prop where
  numbered : graph.Numbered output count
  grows : ∃ grown, graph.addOutput = some (count + 1, grown) ∧ grown.Numbered output (count + 1) ∧
    grown.filed = graph.filed ∧ graph.AgreesOutside grown output
  stops : graph.removeOutput = none ↔ count = 0
  shrinks : ∀ slot shrunk, graph.removeOutput = some (slot, shrunk) →
    slot = .numbered count ∧ shrunk.Numbered output (count - 1) ∧
      shrunk.filed = graph.filed.filter (fun entry =>
        entry.2.target ≠ ⟨output, .positional count⟩) ∧
      graph.AgreesOutside shrunk output

theorem ShaderGraph.Numbered.outletsInRow {graph : ShaderGraph} {output : NodeId} {count : Nat}
    (kept : graph.Kept) (numbered : graph.Numbered output count) :
    graph.OutletsInRow output count := by
  refine ⟨numbered, numbered.addOutput, ?_, ?_⟩
  · cases count with
    | zero => simp [numbered.removeOutput_zero]
    | succ count =>
      obtain ⟨shrunk, removed, _⟩ := numbered.removeOutput_succ kept
      simp [removed]
  · intro slot shrunk removed
    cases count with
    | zero => exact absurd (numbered.removeOutput_zero.symm.trans removed) (by simp)
    | succ count =>
      obtain ⟨fewer, taken, rest⟩ := numbered.removeOutput_succ kept
      cases removed.symm.trans taken
      exact ⟨rfl, rest⟩

/-- However a sub-graph was edited, its outlets are in a row, and no more of them than there were steps. -/
theorem edited_outlets_in_row (guid : Guid) (name : String) (output : NodeId) (edits : List Edit)
    (admitted : Edit.AllAdmitted (.subGraph guid name output) edits) :
    let count := edits.foldl Edit.tally 0
    count ≤ edits.length ∧
      (edits.foldl Edit.apply (.subGraph guid name output)).OutletsInRow output count := by
  intro count
  have kept : (ShaderGraph.subGraph guid name output).Kept := .new (.subGraph guid name output)
  have numbered := Edit.run_numbered kept (.new guid name output) admitted
  refine ⟨?_, numbered.outletsInRow (Edit.run_kept kept admitted)⟩
  simpa using Edit.tally_le edits 0

namespace Edit

/-- Three outlets, two of them fed, with attempts to remove the output node and to take away a fourth
outlet; in between a wrapper comes, and a property goes with its reader. -/
def outletSession : List Edit :=
  [.removeOutput, .addNode (relay ⟨1, 1⟩), .addOutput, .addOutput, .removeOutput, .addOutput,
    .addOutput, .connect ⟨2, 1⟩ ⟨⟨1, 1⟩, .positional 1⟩ ⟨⟨1, 0⟩, .positional 1⟩,
    .connect ⟨2, 2⟩ ⟨⟨1, 1⟩, .positional 1⟩ ⟨⟨1, 0⟩, .positional 3⟩,
    .addProperty ⟨⟨3, 1⟩, "Strength", "Strength", .float .zero⟩,
    .addNode (Node.make ⟨1, 2⟩ "Property" (.reader ⟨3, 1⟩)), .removeNode ⟨1, 0⟩,
    .addNode (Node.make ⟨1, 3⟩ "Sub-graph" (.wrapper (.bound none))),
    .setSubGraph lending ⟨1, 3⟩ (some ⟨7, 0⟩), .removeProperty ⟨3, 1⟩, .refreshWrappers lending]

end Edit

theorem outletSession_in_row :
    let start := ShaderGraph.subGraph ⟨1, 9⟩ "Edited" ⟨1, 0⟩
    let reached := Edit.outletSession.foldl Edit.apply start
    let zeros := Value.vector4 #v[⟨0⟩, ⟨0⟩, ⟨0⟩, ⟨0⟩]
    Edit.AllAdmitted start Edit.outletSession ∧ reached.connections.length = 2 ∧
      Edit.outletSession.foldl Edit.tally 0 = 3 ∧ reached.OutletsInRow ⟨1, 0⟩ 3 ∧
      ∃ node, reached.node? ⟨1, 0⟩ = some node ∧ node.slots.entries =
        [(⟨1⟩, ⟨⟨1⟩, "Output 1", "Output1", .input, .vector4, zeros⟩),
          (⟨2⟩, ⟨⟨2⟩, "Output 2", "Output2", .input, .vector4, zeros⟩),
          (⟨3⟩, ⟨⟨3⟩, "Output 3", "Output3", .input, .vector4, zeros⟩)] := by
  intro start reached zeros
  have admitted : Edit.AllAdmitted start Edit.outletSession := by decide +kernel
  have two : reached.connections.length = 2 := by decide +kernel
  obtain ⟨_, row⟩ := edited_outlets_in_row ⟨1, 9⟩ "Edited" ⟨1, 0⟩ Edit.outletSession admitted
  obtain ⟨node, known, outlets⟩ := row.numbered.present
  exact ⟨admitted, two, rfl, row, node, known, outlets.outlets.trans (by decide +kernel)⟩

end NodeShader

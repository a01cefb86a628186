import NodeShader.Code.Block
import NodeShader.Proofs.Connection
import NodeShader.Proofs.Flagging
import NodeShader.Proofs.Sync

/-! Local variables in the code of a graph. A node reads those of the nodes that feed it, which stand
in front of it; each node declares one for every output it has, be it from its own slots, from the
outlets of the definition that it stands for, or as a zero where it is broken. This takes nodes and
outputs that are filed under their own ids, which the tables do not enforce. -/
namespace NodeShader
open Relation

def Reading.cell? : Reading → Option Local
  | .output cell _ _ => some cell
  | _ => none

def Argument.cell? : Argument → Option Local
  | .value _ reading => reading.cell?
  | _ => none

namespace Statement

def read : Statement → List Local
  | .call _ arguments => arguments.filterMap Argument.cell?
  | .assign _ value => value.cell?.toList
  | _ => []

def declared : Statement → List Local
  | .declare cell _ | .declareZero cell _ => [cell]
  | _ => []

end Statement

def Block.read (block : Block) : List Local := block.statements.flatMap Statement.read

def Block.declared (block : Block) : List Local := block.statements.flatMap Statement.declared

/-- What a block reads is declared in a block before it that is of the node it belongs to, and no
code of this node comes from there on. -/
def Block.Ready (before onward : List Block) (block : Block) : Prop :=
  ∀ cell ∈ block.read, (∃ source ∈ before, source.node = cell.node ∧ cell ∈ source.declared) ∧
    ∀ later ∈ onward, later.node ≠ cell.node

instance (before onward : List Block) (block : Block) : Decidable (block.Ready before onward) :=
  inferInstanceAs (Decidable (∀ cell ∈ block.read,
    (∃ source ∈ before, source.node = cell.node ∧ cell ∈ source.declared) ∧
      ∀ later ∈ onward, later.node ≠ cell.node))

def Routine.ReadsDeclared (routine : Routine) : Prop :=
  ∀ before block after, routine.blocks = before ++ block :: after →
    block.Ready before (block :: after)

instance (routine : Routine) : Decidable routine.ReadsDeclared :=
  decidable_of_iff
    (∀ index (_ : index < routine.blocks.length),
      routine.blocks[index].Ready (routine.blocks.take index) (routine.blocks.drop index))
    (by
      constructor
      · intro each before block after split
        have ready := each before.length (by simp [split])
        simpa [split] using ready
      · intro each index inside
        have split := List.drop_eq_getElem_cons inside
        rw [split]
        refine each _ _ _ ?_
        rw [← split, List.take_append_drop])

namespace ShaderGraph

/-- The connections join what they should without a cycle, output nodes only take values, and the
slots of wrappers are those that are derived from the definitions. -/
structure WellFormed (view : View) (graph : ShaderGraph) : Prop where
  joined : ∀ connection ∈ graph.connections,
    graph.Offers connection.source .output ∧ graph.Offers connection.target .input
  acyclic : ∀ id, ¬ TransGen graph.Reads id id
  outlets : ∀ id node, graph.node? id = some node → node.kind = .output →
    ∀ place slot, node.slots.get? place = some slot → slot.direction = .input
  derived : ∀ id node wrapper, graph.node? id = some node → node.kind = .wrapper wrapper →
    ∃ before changed, (wrapper.sync view before).outcome = .ok changed ∧
      node.slots = (wrapper.sync view before).slots

/-- Nodes are filed under their own ids, and so are the outputs of function nodes. -/
structure Labelled (graph : ShaderGraph) : Prop where
  nodes : ∀ id node, graph.node? id = some node → node.id = id
  outputs : ∀ id node call, graph.node? id = some node → node.kind = .function call →
    ∀ place slot, node.slots.get? place = some slot → slot.direction = .output → slot.id = place

theorem WellFormed.ordered {view : View} {graph : ShaderGraph} (sound : graph.WellFormed view) :
    graph.topologicalOrder.isSome :=
  graph.topologicalOrder_isSome_iff.2 fun _ _ other _ => sound.acyclic other

/-- What can be seen of this: the connections are in place, there is an order of the nodes, and to
derive the slots of wrappers again changes nothing. -/
def Checked (view : View) (graph : ShaderGraph) : Prop :=
  (∀ connection ∈ graph.connections, graph.joins connection = true) ∧
    graph.topologicalOrder.isSome ∧
    (∀ node ∈ graph.nodes.values, node.kind = .output → ∀ slot ∈ node.slots.slots,
      slot.direction = .input) ∧
    ∀ node ∈ graph.nodes.values, ∀ wrapper ∈ node.wrapper?,
      (wrapper.sync view node.slots).outcome.toBool = true ∧
        (wrapper.sync view node.slots).slots = node.slots

instance (view : View) (graph : ShaderGraph) : Decidable (graph.Checked view) :=
  inferInstanceAs (Decidable (_ ∧ _))

theorem acyclic_of_ordered {graph : ShaderGraph}
    (joined : ∀ connection ∈ graph.connections,
      graph.Offers connection.source .output ∧ graph.Offers connection.target .input)
    (ordered : graph.topologicalOrder.isSome) (id : NodeId) : ¬ TransGen graph.Reads id id := by
  intro cycle
  obtain ⟨next, reads, _⟩ := TransGen.head'_iff.1 cycle
  obtain ⟨connection, member, rfl, _⟩ := (graph.reads_iff id next).1 reads
  obtain ⟨node, _, known, _⟩ := (joined connection member).2
  exact graph.topologicalOrder_isSome_iff.1 ordered _
    ((graph.nodes.mem_keys_iff _).2 ⟨node, known⟩) _ .refl cycle

theorem WellFormed.of_checked {view : View} {graph : ShaderGraph} (checked : graph.Checked view) :
    graph.WellFormed view := by
  obtain ⟨joined, ordered, outlets, derived⟩ := checked
  have joins := fun connection member => (graph.joins_iff connection).1 (joined connection member)
  refine ⟨joins, acyclic_of_ordered joins ordered, ?_, ?_⟩
  · intro id node known kind place slot found
    have present := Keyed.mem_values_of_get? known
    exact outlets node present kind slot ((node.slots.mem_slots_iff slot).2 ⟨place, found⟩)
  · intro id node wrapper known kind
    have present := Keyed.mem_values_of_get? known
    obtain ⟨succeeds, same⟩ := derived node present wrapper
      ((node.wrapper?_eq_some_iff wrapper).2 kind)
    obtain ⟨changed, ok⟩ := Outcome.exists_eq_ok succeeds
    exact ⟨node.slots, changed, ok, same.symm⟩

theorem Labelled.of_entries {graph : ShaderGraph}
    (own : ∀ entry ∈ graph.nodes.entries, entry.2.id = entry.1 ∧
      ∀ filed ∈ entry.2.slots.entries, filed.2.id = filed.1) : graph.Labelled := by
  constructor
  · intro id node known
    exact (own _ ((graph.nodes.get?_eq_some_iff id node).1 known)).1
  · intro id node call known _ place slot found _
    have member := (graph.nodes.get?_eq_some_iff id node).1 known
    exact (own _ member).2 (place, slot) ((node.slots.get?_eq_some_iff place slot).1 found)

def Feeds (graph : ShaderGraph) (node : Node) (cell : Local) : Prop :=
  ∃ connection ∈ graph.connections, connection.target.node = node.id ∧
    ∃ source, graph.node? connection.source.node = some source ∧ source.enabled = true ∧
      (∀ property, source.kind ≠ .reader property) ∧ cell = source.localOf connection.source.slot

theorem source?_eq_some_iff (graph : ShaderGraph) (node : Node) (slot : SlotId) (source : Node)
    (place : SlotId) :
    graph.source? node slot = some (source, place) ↔
      ∃ connection, graph.feeding? ⟨node.id, slot⟩ = some connection ∧
        graph.node? connection.source.node = some source ∧ source.enabled = true ∧
        connection.source.slot = place := by
  unfold source?
  constructor
  · intro feeding
    obtain ⟨connection, found, feeding⟩ := Option.bind_eq_some_iff.1 feeding
    obtain ⟨other, known, feeding⟩ := Option.bind_eq_some_iff.1 feeding
    split at feeding
    next enabled =>
      cases feeding
      exact ⟨connection, found, known, enabled, rfl⟩
    next => contradiction
  · rintro ⟨connection, found, known, enabled, rfl⟩
    simp [found, known, enabled]

theorem feeds_of_reading {graph : ShaderGraph} {precision : Precision} {node : Node} {id : SlotId}
    {cell : Local} (reads : (graph.reading precision node id).cell? = some cell) :
    graph.Feeds node cell := by
  have literal (slot : Slot) : (defaultReading precision node id slot).cell? = none := by
    unfold defaultReading
    split <;> rfl
  unfold reading at reads
  split at reads
  next => contradiction
  next slot _ =>
    split at reads
    next reading fed =>
      obtain ⟨⟨source, place⟩, feeding, fed⟩ := Option.bind_eq_some_iff.1 fed
      obtain ⟨connection, found, known, enabled, rfl⟩ :=
        (graph.source?_eq_some_iff node id source place).1 feeding
      have into : connection.target = ⟨node.id, id⟩ := by simpa using List.find?_some found
      refine ⟨connection, List.mem_of_find?_eq_some found, by rw [into], source, known, enabled, ?_⟩
      obtain ⟨given, _, fed⟩ := Option.bind_eq_some_iff.1 fed
      split at fed
      next =>
        obtain ⟨property, _, fed⟩ := Option.bind_eq_some_iff.1 fed
        cases fed
        contradiction
      next other =>
        cases fed
        exact ⟨fun property kind => other property kind, (Option.some.inj reads).symm⟩
    next => simp [literal] at reads

private theorem read_declarations {α : Type} (items : List α) (cell : α → Local)
    (type : α → ValueType) :
    (items.map fun item => Statement.declare (cell item) (type item)).flatMap Statement.read = [] := by
  simp [List.flatMap_map, Statement.read]

theorem feeds_of_function {graph : ShaderGraph} {settings : Settings} {node : Node}
    {call : FunctionCall} {cell : Local}
    (reads : cell ∈ (graph.functionStatements settings node call).flatMap Statement.read) :
    graph.Feeds node cell := by
  rw [functionStatements, List.flatMap_append, read_declarations, List.nil_append,
    List.flatMap_singleton] at reads
  obtain ⟨argument, listed, read⟩ := List.mem_filterMap.1 reads
  simp only [List.mem_append, List.mem_map] at listed
  rcases listed with (⟨slot, _, rfl⟩ | context) | ⟨slot, _, rfl⟩
  · exact feeds_of_reading read
  · split at context
    next => rw [List.mem_singleton.1 context] at read; contradiction
    next => simp at context
  · contradiction

theorem feeds_of_propertyArgument {graph : ShaderGraph} {precision : Precision} {node : Node}
    {property : Property} {argument : Argument} {cell : Local}
    (carried : graph.propertyArgument precision node property = some argument)
    (read : argument.cell? = some cell) : graph.Feeds node cell := by
  unfold propertyArgument at carried
  split at carried
  next => contradiction
  next =>
    cases carried
    simp only [Argument.cell?] at read
    split at read
    next => exact feeds_of_reading read
    next => contradiction

theorem feeds_of_wrapper {graph : ShaderGraph} {settings : Settings} {node : Node}
    {definition : Definition} {cell : Local}
    (reads : cell ∈ (graph.wrapperStatements settings node definition).flatMap Statement.read) :
    graph.Feeds node cell := by
  rw [wrapperStatements, List.flatMap_append, read_declarations, List.nil_append,
    List.flatMap_singleton] at reads
  obtain ⟨argument, listed, read⟩ := List.mem_filterMap.1 reads
  simp only [List.mem_append, List.mem_map, List.mem_filterMap, List.mem_singleton] at listed
  rcases listed with (⟨property, _, carried⟩ | rfl) | ⟨outlet, _, rfl⟩
  · exact feeds_of_propertyArgument carried read
  · contradiction
  · contradiction

theorem feeds_of_mem_read {graph : ShaderGraph} {view : View} {settings : Settings} {node : Node}
    {cell : Local} (reads : cell ∈ (graph.statements view settings node).flatMap Statement.read) :
    graph.Feeds node cell := by
  unfold statements at reads
  split at reads
  next => simp [errorStatements, List.flatMap_map, Statement.read] at reads
  next =>
    split at reads
    next => exact feeds_of_function reads
    next =>
      split at reads
      next => exact feeds_of_wrapper reads
      next => simp at reads
    next =>
      rw [outputStatements, List.flatMap_map] at reads
      obtain ⟨slot, _, read⟩ := List.mem_flatMap.1 reads
      exact feeds_of_reading (Option.mem_toList.1 read)
    next => simp at reads

private theorem declared_declarations {α : Type} (items : List α) (cell : α → Local)
    (type : α → ValueType) :
    (items.map fun item => Statement.declare (cell item) (type item)).flatMap Statement.declared =
      items.map cell := by
  rw [List.flatMap_map, List.map_eq_flatMap]
  rfl

section
variable (graph : ShaderGraph) (settings : Settings) (node : Node)

theorem declared_errorStatements : (errorStatements node).flatMap Statement.declared =
    node.slots.outputs.map fun slot => node.localOf slot.id := by
  rw [errorStatements, List.flatMap_cons, List.flatMap_map, List.map_eq_flatMap]
  rfl

theorem declared_functionStatements (call : FunctionCall) :
    (graph.functionStatements settings node call).flatMap Statement.declared =
      node.slots.outputs.map fun slot => node.localOf slot.id := by
  rw [functionStatements, List.flatMap_append, declared_declarations]
  exact List.append_nil _

theorem declared_wrapperStatements (definition : Definition) :
    (graph.wrapperStatements settings node definition).flatMap Statement.declared =
      definition.graph.outputs.map fun outlet => node.localOf outlet.id := by
  rw [wrapperStatements, List.flatMap_append, declared_declarations]
  exact List.append_nil _

theorem declared_outputStatements :
    (graph.outputStatements settings node).flatMap Statement.declared = [] := by
  simp [outputStatements, List.flatMap_map, Statement.declared]

end

section
variable {graph : ShaderGraph} {view : View} {settings : Settings} {node : Node}

theorem mem_declared_broken (broken : node.hasError = true) {slot : Slot}
    (listed : slot ∈ node.slots.outputs) :
    node.localOf slot.id ∈ (graph.statements view settings node).flatMap Statement.declared := by
  simp only [statements, broken, if_true, declared_errorStatements]
  exact List.mem_map.2 ⟨slot, listed, rfl⟩

theorem mem_declared_function (sound : node.hasError = false) {call : FunctionCall}
    (kind : node.kind = .function call) {slot : Slot} (listed : slot ∈ node.slots.outputs) :
    node.localOf slot.id ∈ (graph.statements view settings node).flatMap Statement.declared := by
  simp only [statements, sound, Bool.false_eq_true, if_false, kind, declared_functionStatements]
  exact List.mem_map.2 ⟨slot, listed, rfl⟩

/-- A wrapper declares the outlets of what it stands for, whatever slots it has. -/
theorem mem_declared_wrapper_iff (sound : node.hasError = false) {wrapper : Wrapper}
    (kind : node.kind = .wrapper wrapper) (cell : Local) :
    cell ∈ (graph.statements view settings node).flatMap Statement.declared ↔
      ∃ definition, view.resolve wrapper = some definition ∧
        ∃ outlet ∈ definition.graph.outputs, node.localOf outlet.id = cell := by
  simp only [statements, sound, kind]
  cases resolved : view.resolve wrapper with
  | none => simp
  | some definition => simp [declared_wrapperStatements]

theorem node_of_mem_declared {cell : Local}
    (declared : cell ∈ (graph.statements view settings node).flatMap Statement.declared) :
    cell.node = node.id := by
  have own {slots : List Slot} (listed : cell ∈ slots.map fun slot => node.localOf slot.id) :
      cell.node = node.id := by
    obtain ⟨slot, _, rfl⟩ := List.mem_map.1 listed
    rfl
  unfold statements at declared
  split at declared
  next => exact own (declared_errorStatements node ▸ declared)
  next =>
    split at declared
    next call _ => exact own (declared_functionStatements graph settings node call ▸ declared)
    next wrapper _ =>
      split at declared
      next definition _ =>
        exact own (graph.declared_wrapperStatements settings node definition.toDefinition ▸ declared)
      next => simp at declared
    next => simp [declared_outputStatements] at declared
    next => simp at declared

end

theorem mem_outputs_of_get? {node : Node} {place : SlotId} {slot : Slot}
    (found : node.slots.get? place = some slot) (gives : slot.direction = .output) :
    slot ∈ node.slots.outputs :=
  List.mem_filter.2 ⟨(node.slots.mem_slots_iff slot).2 ⟨place, found⟩, by simp [Slot.isOutput, gives]⟩

theorem WellFormed.slot_id {view : View} {graph : ShaderGraph} (sound : graph.WellFormed view)
    (labelled : graph.Labelled) {id : NodeId} {node : Node} (known : graph.node? id = some node)
    (other : ∀ property, node.kind ≠ .reader property) {place : SlotId} {slot : Slot}
    (found : node.slots.get? place = some slot) (gives : slot.direction = .output) :
    slot.id = place := by
  cases kind : node.kind with
  | function call => exact labelled.outputs id node call known kind place slot found gives
  | reader property => exact absurd kind (other property)
  | wrapper wrapper =>
    obtain ⟨before, changed, ok, same⟩ := sound.derived id node wrapper known kind
    rw [same] at found
    exact (Wrapper.sync_slot ok found).1
  | output =>
    have takes := sound.outlets id node known kind place slot found
    simp [takes] at gives

/-- The code of a node declares a local variable for each of its outputs. -/
theorem WellFormed.mem_declared {view : View} {graph : ShaderGraph} (sound : graph.WellFormed view)
    (labelled : graph.Labelled) (current : view.Current graph) (settings : Settings) {id : NodeId}
    {node : Node} (known : graph.node? id = some node)
    (other : ∀ property, node.kind ≠ .reader property) {place : SlotId} {slot : Slot}
    (found : node.slots.get? place = some slot) (gives : slot.direction = .output) :
    node.localOf place ∈ (graph.statements view settings node).flatMap Statement.declared := by
  obtain rfl := sound.slot_id labelled known other found gives
  have listed := mem_outputs_of_get? found gives
  cases broken : node.hasError with
  | true => exact mem_declared_broken broken listed
  | false =>
    cases kind : node.kind with
    | function call => exact mem_declared_function broken kind listed
    | reader property => exact absurd kind (other property)
    | wrapper wrapper =>
      obtain ⟨before, changed, ok, same⟩ := sound.derived id node wrapper known kind
      rw [same] at found
      obtain ⟨_, definition, stored, given, _⟩ := Wrapper.sync_slot ok found
      obtain ⟨outlet, inside, own⟩ := given gives
      have present := Keyed.mem_values_of_get? known
      rw [← (current.here node present wrapper kind).resolve] at stored
      exact (mem_declared_wrapper_iff broken kind _).2
        ⟨definition, stored, outlet, inside, by rw [own]⟩
    | output =>
      have takes := sound.outlets id node known kind _ slot found
      simp [takes] at gives

/-- A local variable that is read stands for an output of a node whose code is written before and not
from there on. -/
theorem exists_source_of_read {graph : ShaderGraph} {view : View} {settings : Settings}
    (joined : ∀ connection ∈ graph.connections,
      graph.Offers connection.source .output ∧ graph.Offers connection.target .input)
    (ordered : graph.topologicalOrder.isSome)
    (own : ∀ id node, graph.node? id = some node → node.id = id) {name : String}
    {withProperties : Bool} {before after : List Block} {block : Block}
    (split : (graph.routine view settings name withProperties).blocks = before ++ block :: after)
    {cell : Local} (reads : cell ∈ block.read) :
    (∃ source slot, graph.node? cell.node = some source ∧ source.id = cell.node ∧
      (∀ property, source.kind ≠ .reader property) ∧
      source.slots.get? cell.slot = some slot ∧ slot.direction = .output ∧
      cell = source.localOf cell.slot ∧
      ⟨source.id, graph.statements view settings source⟩ ∈ before) ∧
    ∀ later ∈ block :: after, later.node ≠ cell.node := by
  obtain ⟨front, others, active, rfl, rest⟩ := List.map_eq_append_iff.1 split
  obtain ⟨entry, later, rfl, rfl, rfl⟩ := List.map_eq_cons_iff.1 rest
  obtain ⟨connection, member, into, source, known, enabled, other, rfl⟩ := feeds_of_mem_read reads
  have ownActive {entry : NodeId × Node} (inside : entry ∈ graph.active) : entry.2.id = entry.1 :=
    own entry.1 entry.2 (Graph.node?_of_mem_active inside)
  have feeds : graph.Reads entry.1 connection.source.node :=
    (graph.reads_iff _ _).2 ⟨connection, member, into.trans (ownActive (by simp [active])), rfl⟩
  obtain ⟨earlier, apart⟩ := Graph.active_sourcesFirst ordered active feeds known enabled
  have named : source.id = connection.source.node := own _ source known
  obtain ⟨node, slot, present, found, gives⟩ := (joined connection member).1
  cases known.symm.trans present
  refine ⟨⟨source, slot, by simpa [Node.localOf, named] using known, rfl, other, found, gives, rfl,
    List.mem_map.2 ⟨_, earlier, rfl⟩⟩, ?_⟩
  rw [← List.map_cons (f := fun entry : NodeId × Node =>
    Block.mk entry.2.id (graph.statements view settings entry.2))]
  intro block inside
  obtain ⟨entry', listed, rfl⟩ := List.mem_map.1 inside
  have shown : entry'.2.id = entry'.1 :=
    ownActive (by rw [active]; exact List.mem_append_right _ listed)
  exact fun same => apart entry' listed (shown ▸ same.trans named)

/-- The code of a well-formed graph reads local variables only where they are declared. -/
theorem WellFormed.routine_readsDeclared {view : View} {graph : ShaderGraph}
    (sound : graph.WellFormed view) (labelled : graph.Labelled) (current : view.Current graph)
    (settings : Settings) (name : String) (withProperties : Bool) :
    (graph.routine view settings name withProperties).ReadsDeclared := by
  intro before block after split cell reads
  obtain ⟨⟨source, slot, known, named, other, found, gives, is, earlier⟩, apart⟩ :=
    exists_source_of_read sound.joined sound.ordered labelled.nodes split reads
  refine ⟨⟨_, earlier, named, ?_⟩, apart⟩
  have declared := sound.mem_declared labelled current settings known other found gives
  rwa [← is] at declared

end ShaderGraph
end NodeShader

import NodeShader.Code.Uniforms
import NodeShader.Proofs.CallSite
import NodeShader.Proofs.Readings

/-! Textures that nothing feeds. An input for a texture falls back to a uniform of its own, whose name
is made up where code is written and once more where uniforms are collected. In a graph that is put
together properly the two agree at every node. -/
namespace NodeShader

def Reading.uniform? : Reading → Option String
  | .uniform name => some name
  | _ => none

def Argument.uniform? : Argument → Option String
  | .value _ reading => reading.uniform?
  | _ => none

/-- The uniforms that a statement passes on because an input falls back to its default. -/
def Statement.uniforms : Statement → List String
  | .call _ arguments => arguments.filterMap Argument.uniform?
  | .assign _ value => value.uniform?.toList
  | _ => []

def Routine.uniforms (routine : Routine) : List String :=
  routine.statements.flatMap Statement.uniforms

namespace ShaderGraph

/-- Connections join outputs and inputs that are there, readers take nothing and give a property that
the graph exposes, textures are not returned, and the slots of wrappers are those that are derived
from the definitions. -/
structure Wired (view : View) (graph : ShaderGraph) : Prop where
  joined : ∀ connection ∈ graph.connections,
    graph.Offers connection.source .output ∧ graph.Offers connection.target .input
  readers : ∀ id node property, graph.node? id = some node → node.kind = .reader property →
    node.slots.inputs = [] ∧ (graph.property? property).isSome
  outlets : ∀ id node, graph.node? id = some node → node.kind = .output →
    ∀ slot ∈ node.slots.inputs, slot.type.isTexture = false
  derived : ∀ id node wrapper, graph.node? id = some node → node.kind = .wrapper wrapper →
    ∃ before changed, (wrapper.sync view before).outcome = .ok changed ∧
      node.slots = (wrapper.sync view before).slots

/-- The inputs of all nodes but wrappers are filed under their own ids. -/
def InputsFiled (graph : ShaderGraph) : Prop :=
  ∀ id node, graph.node? id = some node → node.wrapper? = none →
    ∀ place slot, node.slots.get? place = some slot → slot.direction = .input → slot.id = place

/-- What of this can be seen at a node, when deriving its slots again changes nothing. -/
def nodeWired (view : View) (graph : ShaderGraph) (node : Node) : Bool :=
  match node.kind with
  | .function _ => true
  | .reader property => node.slots.inputs = [] && (graph.property? property).isSome
  | .wrapper wrapper =>
    (wrapper.sync view node.slots).outcome.toBool &&
      (wrapper.sync view node.slots).slots = node.slots
  | .output => node.slots.inputs.all fun slot => !slot.type.isTexture

theorem Wired.of_checked {view : View} {graph : ShaderGraph}
    (joins : ∀ connection ∈ graph.connections, graph.joins connection = true)
    (nodes : ∀ node ∈ graph.nodes.values, graph.nodeWired view node = true) : graph.Wired view := by
  have checked {id : NodeId} {node : Node} (known : graph.node? id = some node) :
      graph.nodeWired view node = true := nodes node (Keyed.mem_values_of_get? known)
  refine ⟨fun connection member => (graph.joins_iff connection).1 (joins connection member),
    ?_, ?_, ?_⟩
  · intro id node property known kind
    simpa [nodeWired, kind] using checked known
  · intro id node known kind
    simpa [nodeWired, kind] using checked known
  · intro id node wrapper known kind
    have synced := checked known
    simp only [nodeWired, kind] at synced
    obtain ⟨succeeds, same⟩ := Bool.and_eq_true_iff.1 synced
    obtain ⟨changed, ok⟩ := Outcome.exists_eq_ok succeeds
    exact ⟨node.slots, changed, ok, (of_decide_eq_true same).symm⟩

theorem InputsFiled.of_entries {graph : ShaderGraph}
    (own : ∀ node ∈ graph.nodes.values, ∀ filed ∈ node.slots.entries, filed.2.id = filed.1) :
    graph.InputsFiled := by
  intro id node known _ place slot found _
  exact own node (Keyed.mem_values_of_get? known) (place, slot)
    ((node.slots.get?_eq_some_iff place slot).1 found)

namespace Wired
variable {view : View} {graph : ShaderGraph}

/-- An input with a source reads it, so the collection of uniforms may go by the source alone. -/
theorem exists_fedReading (wired : graph.Wired view) {node source : Node} {id place : SlotId}
    (feeding : graph.source? node id = some (source, place)) (slot : Slot) :
    ∃ reading, graph.fedReading slot source place = some reading ∧ reading.uniform? = none := by
  obtain ⟨connection, found, known, _, rfl⟩ :=
    (graph.source?_eq_some_iff node id source place).1 feeding
  obtain ⟨⟨other, given, present, carries, _⟩, _⟩ :=
    wired.joined connection (List.mem_of_find?_eq_some found)
  cases known.symm.trans present
  cases kind : source.kind with
  | reader guid =>
    obtain ⟨property, exposed⟩ := Option.isSome_iff_exists.1 (wired.readers _ _ guid known kind).2
    exact ⟨.property property.referenceName given.type slot.type,
      by simp [fedReading, carries, kind, exposed], rfl⟩
  | _ =>
    exact ⟨.output (source.localOf connection.source.slot) given.type slot.type,
      by simp [fedReading, carries, kind], rfl⟩

theorem uniform?_reading (wired : graph.Wired view) (precision : Precision) {node : Node}
    {id : SlotId} {slot : Slot} (found : node.slots.get? id = some slot) :
    (graph.reading precision node id).uniform? =
      if slot.type.isTexture && graph.usesDefault node id then some (node.variableName id)
      else none := by
  unfold reading usesDefault
  simp only [found]
  cases feeding : graph.source? node id with
  | none =>
    cases texture : slot.type.isTexture <;> simp [defaultReading, texture, Reading.uniform?]
  | some fed =>
    obtain ⟨reading, reads, silent⟩ := wired.exists_fedReading feeding slot
    simp [reads, silent]

theorem get?_of_mem_inputs (wired : graph.Wired view) (filed : graph.InputsFiled) {id : NodeId}
    {node : Node} (known : graph.node? id = some node) {slot : Slot}
    (listed : slot ∈ node.slots.inputs) : node.slots.get? slot.id = some slot := by
  obtain ⟨present, takes⟩ := List.mem_filter.1 listed
  obtain ⟨place, found⟩ := (node.slots.mem_slots_iff slot).1 present
  have own : slot.id = place := by
    cases kind : node.kind with
    | wrapper wrapper =>
      obtain ⟨before, changed, ok, same⟩ := wired.derived id node wrapper known kind
      exact (Wrapper.sync_slot ok (same ▸ found)).1
    | _ =>
      exact filed id node known (by simp [Node.wrapper?, kind]) place slot found
        (of_decide_eq_true takes)
  rw [own, found]

/-- Uniforms are collected for the inputs that read one. -/
theorem mem_slotUniforms_iff (wired : graph.Wired view) (filed : graph.InputsFiled)
    (precision : Precision) {id : NodeId} {node : Node} (known : graph.node? id = some node)
    (name : String) :
    name ∈ (graph.slotUniforms node).map Uniform.name ↔ node.isOutput = false ∧
      ∃ slot ∈ node.slots.inputs, (graph.reading precision node slot.id).uniform? = some name := by
  have reads (slot : Slot) (listed : slot ∈ node.slots.inputs) :
      (graph.reading precision node slot.id).uniform? = some name ↔
        (slot.type.isTexture = true ∧ graph.usesDefault node slot.id = true) ∧
          node.variableName slot.id = name := by
    rw [wired.uniform?_reading precision (wired.get?_of_mem_inputs filed known listed)]
    simp
  simp only [slotUniforms, List.map_map, List.mem_map, List.mem_filter, Function.comp_apply,
    Bool.and_eq_true, Bool.not_eq_true']
  constructor
  · rintro ⟨slot, ⟨listed, ⟨texture, computes⟩, unfed⟩, named⟩
    exact ⟨computes, slot, listed, (reads slot listed).2 ⟨⟨texture, unfed⟩, named⟩⟩
  · rintro ⟨computes, slot, listed, read⟩
    obtain ⟨⟨texture, unfed⟩, named⟩ := (reads slot listed).1 read
    exact ⟨slot, ⟨listed, ⟨texture, computes⟩, unfed⟩, named⟩

end Wired

private theorem uniforms_declarations {α : Type} (items : List α) (cell : α → Local)
    (type : α → ValueType) :
    (items.map fun item => Statement.declare (cell item) (type item)).flatMap Statement.uniforms =
      [] := by
  simp [List.flatMap_map, Statement.uniforms]

theorem uniforms_errorStatements (node : Node) :
    (errorStatements node).flatMap Statement.uniforms = [] := by
  simp [errorStatements, List.flatMap_map, Statement.uniforms]

theorem mem_uniforms_function (graph : ShaderGraph) (settings : Settings) (node : Node)
    (call : FunctionCall) (name : String) :
    name ∈ (graph.functionStatements settings node call).flatMap Statement.uniforms ↔
      ∃ slot ∈ node.slots.inputs,
        (graph.reading settings.precision node slot.id).uniform? = some name := by
  rw [functionStatements, List.flatMap_append, uniforms_declarations, List.nil_append,
    List.flatMap_singleton]
  have context : (if call.takesContext then [Argument.context settings.contextArgument]
      else []).filterMap Argument.uniform? = [] := by
    split <;> rfl
  simp [Statement.uniforms, List.filterMap_append, List.filterMap_map, Function.comp_def,
    Argument.uniform?, context]

theorem mem_uniforms_wrapper (graph : ShaderGraph) (settings : Settings) (node : Node)
    (definition : Definition) (name : String) :
    name ∈ (graph.wrapperStatements settings node definition).flatMap Statement.uniforms ↔
      ∃ property type, (property, type) ∈ definition.graph.representable ∧
        (graph.passedFor settings.precision node property).uniform? = some name := by
  rw [wrapperStatements, List.flatMap_append, uniforms_declarations, List.nil_append,
    List.flatMap_singleton, propertyArguments_eq]
  simp [Statement.uniforms, List.filterMap_append, List.filterMap_map, Function.comp_def,
    Argument.uniform?]

namespace Wired
variable {view : View} {graph : ShaderGraph}

/-- A wrapper has an input for each property of the definition, and no others. -/
theorem exists_passed_iff (wired : graph.Wired view) (filed : graph.InputsFiled)
    (current : view.Current graph) (precision : Precision) {id : NodeId} {node : Node}
    {wrapper : Wrapper} {definition : Live} (known : graph.node? id = some node)
    (kind : node.kind = .wrapper wrapper) (resolved : view.resolve wrapper = some definition)
    (name : String) :
    (∃ property type, (property, type) ∈ definition.graph.representable ∧
        (graph.passedFor precision node property).uniform? = some name) ↔
      ∃ slot ∈ node.slots.inputs, (graph.reading precision node slot.id).uniform? = some name := by
  obtain ⟨before, changed, ok, same⟩ := wired.derived id node wrapper known kind
  have stored : wrapper.handle.bind view.lookup = some definition := by
    rw [← (current.here node (Keyed.mem_values_of_get? known) wrapper kind).resolve, resolved]
  constructor
  · rintro ⟨property, type, exposed, read⟩
    obtain ⟨slot, found, takes, _⟩ := Wrapper.sync_property ok stored
      ((definition.graph.mem_representable_iff property type).1 exposed).1
    have own := (Wrapper.sync_slot ok found).1
    -- The slot is there, so the wrapper passes what it reads and not the default of the property.
    rw [← same] at found
    refine ⟨slot, List.mem_filter.2 ⟨(node.slots.mem_slots_iff slot).2 ⟨_, found⟩, ?_⟩, ?_⟩
    · simp [Slot.isInput, takes]
    · rwa [passedFor, if_pos (by simp [found]), ← own] at read
  · rintro ⟨slot, listed, read⟩
    have found := wired.get?_of_mem_inputs filed known listed
    have takes : slot.direction = .input := of_decide_eq_true (List.mem_filter.1 listed).2
    obtain ⟨_, other, known, _, carried⟩ := Wrapper.sync_slot ok (same ▸ found)
    cases stored.symm.trans known
    obtain ⟨property, member, place, typed⟩ := carried takes
    refine ⟨property, slot.type,
      (definition.graph.mem_representable_iff property slot.type).2 ⟨member, typed⟩, ?_⟩
    rw [passedFor, place, if_pos (by simp [found]), read]

theorem inputs_eq_nil_of_missing (wired : graph.Wired view) (filed : graph.InputsFiled)
    (current : view.Current graph) {id : NodeId} {node : Node} {wrapper : Wrapper}
    (known : graph.node? id = some node) (kind : node.kind = .wrapper wrapper)
    (missing : view.resolve wrapper = none) : node.slots.inputs = [] := by
  obtain ⟨before, changed, ok, same⟩ := wired.derived id node wrapper known kind
  refine List.eq_nil_iff_forall_not_mem.2 fun slot listed => ?_
  have found := wired.get?_of_mem_inputs filed known listed
  obtain ⟨_, definition, stored, _⟩ := Wrapper.sync_slot ok (same ▸ found)
  rw [← (current.here node (Keyed.mem_values_of_get? known) wrapper kind).resolve, missing] at stored
  contradiction

theorem uniforms_outputStatements (wired : graph.Wired view) (filed : graph.InputsFiled)
    (settings : Settings) {id : NodeId} {node : Node} (known : graph.node? id = some node)
    (kind : node.kind = .output) :
    (graph.outputStatements settings node).flatMap Statement.uniforms = [] := by
  rw [outputStatements, List.flatMap_map, List.flatMap_eq_nil_iff]
  intro slot listed
  have plain := wired.outlets id node known kind slot listed
  have reads := wired.uniform?_reading settings.precision
    (wired.get?_of_mem_inputs filed known listed)
  simp [Statement.uniforms, reads, plain]

/-- The code of a node passes exactly the uniforms that are collected for it. -/
theorem mem_uniforms_iff (wired : graph.Wired view) (filed : graph.InputsFiled)
    (current : view.Current graph) (settings : Settings) {id : NodeId} {node : Node}
    (known : graph.node? id = some node) (sound : node.hasError = false) (name : String) :
    name ∈ (graph.statements view settings node).flatMap Statement.uniforms ↔
      name ∈ (graph.slotUniforms node).map Uniform.name := by
  rw [wired.mem_slotUniforms_iff filed settings.precision known]
  unfold statements
  rw [if_neg (by simp [sound])]
  cases kind : node.kind with
  | function call =>
    simpa [Node.isOutput, kind] using graph.mem_uniforms_function settings node call name
  | reader property => simp [(wired.readers id node property known kind).1]
  | output =>
    simp [Node.isOutput, kind, wired.uniforms_outputStatements filed settings known kind]
  | wrapper wrapper =>
    cases resolved : view.resolve wrapper with
    | none => simp [resolved, wired.inputs_eq_nil_of_missing filed current known kind resolved]
    | some definition =>
      simp only [resolved, Node.isOutput, kind, reduceCtorEq, decide_false, true_and,
        mem_uniforms_wrapper]
      exact wired.exists_passed_iff filed current settings.precision known kind resolved name

end Wired
end ShaderGraph
end NodeShader

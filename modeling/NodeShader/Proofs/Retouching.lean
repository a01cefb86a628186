import NodeShader.Compile
import NodeShader.Proofs.Expansion
import NodeShader.Proofs.Sync
import Mathlib.Data.List.Basic

/-! Graphs whose nodes were retouched: in what wrappers remember, or in flags. The order of the nodes, the
references and the search for rings do not see it, and neither does code, as far as retouched wrappers
stand for the retouched definitions that they stood for before. -/
namespace NodeShader

def Wrapper.forget (wrapper : Wrapper) : Wrapper := { wrapper with cached := none }

def NodeKind.forget : NodeKind → NodeKind
  | .wrapper bound => .wrapper bound.forget
  | kind => kind

@[simp] theorem Wrapper.forget_handle (wrapper : Wrapper) :
    wrapper.forget.handle = wrapper.handle := rfl

theorem filter_map_of {α β : Type} {change : α → β} {test : α → Bool} {other : β → Bool}
    {items : List α} (same : ∀ item ∈ items, other (change item) = test item) :
    (items.map change).filter other = (items.filter test).map change := by
  rw [List.filter_map]
  congr 1
  exact List.filter_congr same

/-- A change of nodes in nothing but the flags and what wrappers remember. -/
structure Retouch where
  change : Node → Node
  id : ∀ node, (change node).id = node.id
  name : ∀ node, (change node).name = node.name
  enabled : ∀ node, (change node).enabled = node.enabled
  slots : ∀ node, (change node).slots = node.slots
  kind : ∀ node, (change node).kind.forget = node.kind.forget

namespace Retouch

attribute [simp] id name enabled slots

variable (touch : Retouch) (node : Node)

@[simp] theorem variableName : (touch.change node).variableName = node.variableName := by
  funext slot
  simp [Node.variableName]

@[simp] theorem localOf : (touch.change node).localOf = node.localOf := by
  funext slot
  simp [Node.localOf]

theorem kinds : (node.wrapper? = none ∧ (touch.change node).kind = node.kind) ∨
    ∃ wrapper retouched, node.kind = .wrapper wrapper ∧
      (touch.change node).kind = .wrapper retouched ∧ retouched.handle = wrapper.handle := by
  have same := touch.kind node
  cases before : node.kind with
  | wrapper wrapper =>
    cases after : (touch.change node).kind with
    | wrapper retouched =>
      have inner : retouched.forget = wrapper.forget := by
        simpa [before, after, NodeKind.forget] using same
      have bound : retouched.forget.handle = wrapper.forget.handle := by rw [inner]
      exact .inr ⟨wrapper, retouched, rfl, rfl, bound⟩
    | function | reader | output => simp [before, after, NodeKind.forget] at same
  | function | reader | output =>
    refine .inl ⟨by simp [Node.wrapper?, before], ?_⟩
    cases after : (touch.change node).kind <;> simp_all [NodeKind.forget]

@[simp] theorem isOutput : (touch.change node).isOutput = node.isOutput := by
  rcases touch.kinds node with ⟨_, same⟩ | ⟨wrapper, retouched, before, after, _⟩
  · simp [Node.isOutput, same]
  · simp [Node.isOutput, before, after]

theorem handle? : (touch.change node).wrapper?.map Wrapper.handle =
    node.wrapper?.map Wrapper.handle := by
  rcases touch.kinds node with ⟨_, same⟩ | ⟨wrapper, retouched, before, after, bound⟩
  · simp [Node.wrapper?, same]
  · simp [Node.wrapper?, before, after, bound]

end Retouch

def ShaderGraph.retouch (touch : Retouch) (graph : ShaderGraph) : ShaderGraph :=
  graph.withGraph { graph.toGraph with
    nodes := graph.nodes.mapValues fun _ node => touch.change node }

def Live.retouch (touch : Retouch) (definition : Live) : Live :=
  { definition with graph := definition.graph.retouch touch }

def View.retouch (touch : Retouch) (view : View) : View :=
  { view with live := view.live.map (Live.retouch touch) }

def Event.retouch (touch : Retouch) : Event → Event
  | .meet graph site node => .meet (graph.retouch touch) site (touch.change node)
  | .complete definition => .complete (definition.retouch touch)

/-- The order of the nodes is found from the connections alone. -/
theorem Graph.visit_congr {graph other : Graph} (same : other.filed = graph.filed)
    (unmarked order : List NodeId) (id : NodeId) :
    other.visit unmarked order id = graph.visit unmarked order id := by
  have sources : other.sources = graph.sources := by
    funext id
    simp [Graph.sources, Graph.connections, same]
  induction unmarked, order, id using Graph.visit.induct with
  | case1 unmarked order id inside found =>
    rw [visit, visit, dif_pos inside, dif_pos inside, if_pos found, if_pos found]
  | case2 unmarked order id inside fresh ih =>
    rw [visit, visit, dif_pos inside, dif_pos inside, if_neg fresh, if_neg fresh, sources]
    congr 2
    funext order source
    exact ih order source
  | case3 unmarked order id outside =>
    rw [visit, visit, dif_neg outside, dif_neg outside]

namespace ShaderGraph
variable (touch : Retouch) (graph : ShaderGraph)

@[simp] theorem retouch_guid : (graph.retouch touch).guid = graph.guid := rfl
@[simp] theorem retouch_name : (graph.retouch touch).name = graph.name := rfl

theorem retouch_entries : (graph.retouch touch).nodes.entries =
    graph.nodes.entries.map (Prod.map id touch.change) := rfl

@[simp] theorem retouch_keys : (graph.retouch touch).nodes.keys = graph.nodes.keys :=
  Keyed.keys_mapValues graph.nodes _

@[simp] theorem retouch_values :
    (graph.retouch touch).nodes.values = graph.nodes.values.map touch.change := by
  simp [Keyed.values, retouch_entries, Function.comp_def]

@[simp] theorem retouch_node? (id : NodeId) :
    (graph.retouch touch).node? id = (graph.node? id).map touch.change :=
  Keyed.get?_mapValues graph.nodes _ id

@[simp] theorem retouch_topologicalOrder :
    (graph.retouch touch).topologicalOrder = graph.topologicalOrder := by
  have mentioned : (graph.retouch touch).mentioned = graph.mentioned := by
    simp only [Graph.mentioned, retouch_keys]
    rfl
  unfold Graph.topologicalOrder
  rw [retouch_keys, mentioned]
  congr 1
  funext order id
  have same : (graph.retouch touch).filed = graph.filed := rfl
  exact Graph.visit_congr same _ order id

@[simp] theorem retouch_active :
    (graph.retouch touch).active = graph.active.map (Prod.map id touch.change) := by
  have listed (entries : List (NodeId × Node)) :
      (entries.map (Prod.map id touch.change)).filter (fun entry => entry.2.enabled) =
        (entries.filter fun entry => entry.2.enabled).map (Prod.map id touch.change) :=
    filter_map_of fun entry _ => touch.enabled entry.2
  unfold Graph.active
  rw [retouch_topologicalOrder, ← listed]
  cases graph.topologicalOrder with
  | none => rfl
  | some order =>
    simp only [List.map_filterMap, retouch_node?, Option.map_map]
    rfl

@[simp] theorem retouch_output? :
    (graph.retouch touch).output? = graph.output?.map touch.change := by
  unfold output?
  cases known : graph.outputNode with
  | none => simp [retouch, withGraph, known]
  | some id =>
    have same : (graph.retouch touch).outputNode = some id := known
    simp [same]

@[simp] theorem retouch_outputs : (graph.retouch touch).outputs = graph.outputs := by
  unfold outputs
  rw [retouch_output?]
  cases graph.output? <;> simp

@[simp] theorem retouch_references : (graph.retouch touch).references = graph.references := by
  unfold references
  rw [retouch_values, List.filterMap_map]
  congr 1
  funext node
  rcases touch.kinds node with ⟨_, same⟩ | ⟨wrapper, retouched, before, after, bound⟩
  · simp [Node.wrapper?, same]
  · simp [Node.wrapper?, before, after, bound]

@[simp] theorem retouch_feeding? (target : Endpoint) :
    (graph.retouch touch).feeding? target = graph.feeding? target := rfl

@[simp] theorem retouch_source? (node : Node) (slot : SlotId) :
    (graph.retouch touch).source? (touch.change node) slot =
      (graph.source? node slot).map (Prod.map touch.change id) := by
  unfold source?
  rw [retouch_feeding?, touch.id]
  cases graph.feeding? ⟨node.id, slot⟩ with
  | none => rfl
  | some connection =>
    cases known : graph.node? connection.source.node with
    | none => simp [known]
    | some source => cases enabled : source.enabled <;> simp [known, enabled]

@[simp] theorem retouch_usesDefault (node : Node) (slot : SlotId) :
    (graph.retouch touch).usesDefault (touch.change node) slot = graph.usesDefault node slot := by
  simp [usesDefault]

@[simp] theorem retouch_fedReading (slot : Slot) (source : Node) (place : SlotId) :
    (graph.retouch touch).fedReading slot (touch.change source) place =
      graph.fedReading slot source place := by
  unfold fedReading
  rw [touch.slots, touch.localOf]
  rcases touch.kinds source with ⟨_, same⟩ | ⟨wrapper, retouched, before, after, _⟩
  · rw [same]
    rfl
  · rw [before, after]

@[simp] theorem retouch_reading (precision : Precision) (node : Node) (slot : SlotId) :
    (graph.retouch touch).reading precision (touch.change node) slot =
      graph.reading precision node slot := by
  unfold reading
  rw [touch.slots, retouch_source?]
  cases node.slots.get? slot with
  | none => rfl
  | some here => cases graph.source? node slot <;> simp [defaultReading]

theorem retouch_slotUniforms (node : Node) :
    (graph.retouch touch).slotUniforms (touch.change node) = graph.slotUniforms node := by
  simp [slotUniforms]

theorem retouch_functionStatements (settings : Settings) (node : Node) (call : FunctionCall) :
    (graph.retouch touch).functionStatements settings (touch.change node) call =
      graph.functionStatements settings node call := by
  simp [functionStatements]

/-- A call is written for the interface of a definition. -/
theorem wrapperStatements_retouch (settings : Settings) (node : Node) (definition : Live) :
    graph.wrapperStatements settings node (definition.retouch touch).toDefinition =
      graph.wrapperStatements settings node definition.toDefinition := by
  have outputs : (definition.retouch touch).graph.outputs = definition.graph.outputs :=
    retouch_outputs touch definition.graph
  rw [wrapperStatements, outputs]
  rfl

theorem retouch_wrapperStatements (settings : Settings) (node : Node) (definition : Definition) :
    (graph.retouch touch).wrapperStatements settings (touch.change node) definition =
      graph.wrapperStatements settings node definition := by
  have arguments : (graph.retouch touch).propertyArgument settings.precision (touch.change node) =
      graph.propertyArgument settings.precision node := by
    funext property
    simp [propertyArgument]
  simp only [wrapperStatements, arguments, touch.localOf]

theorem retouch_outputStatements (settings : Settings) (node : Node) :
    (graph.retouch touch).outputStatements settings (touch.change node) =
      graph.outputStatements settings node := by
  simp [outputStatements]

theorem retouch_errorStatements (node : Node) :
    errorStatements (touch.change node) = errorStatements node := by
  simp [errorStatements]

end ShaderGraph

@[simp] theorem Live.retouch_serial (touch : Retouch) (definition : Live) :
    (definition.retouch touch).serial = definition.serial := rfl
@[simp] theorem Live.retouch_handle (touch : Retouch) (definition : Live) :
    (definition.retouch touch).handle = definition.handle := rfl
@[simp] theorem Live.retouch_name (touch : Retouch) (definition : Live) :
    (definition.retouch touch).name = definition.name := rfl
@[simp] theorem Live.retouch_graph (touch : Retouch) (definition : Live) :
    (definition.retouch touch).graph = definition.graph.retouch touch := rfl

namespace View
variable (touch : Retouch) {view : View}

@[simp] theorem retouch_definition? (serial : Serial) :
    (view.retouch touch).definition? serial =
      (view.definition? serial).map (Live.retouch touch) :=
  definition?_mapLive (Live.retouch_serial touch) serial

@[simp] theorem retouch_lookup (handle : Handle) :
    (view.retouch touch).lookup handle = (view.lookup handle).map (Live.retouch touch) :=
  lookup_mapLive (Live.retouch_serial touch) handle

theorem retouch_resolve (wrapper : Wrapper) :
    (view.retouch touch).resolve wrapper = (view.resolve wrapper).map (Live.retouch touch) :=
  resolve_mapLive (Live.retouch_serial touch) (Live.retouch_handle touch) wrapper

@[simp] theorem retouch_serials : (view.retouch touch).serials = view.serials := by
  simp [serials, retouch, Function.comp_def]

@[simp] theorem retouch_handles : (view.retouch touch).handles = view.handles := by
  simp [handles, retouch, Function.comp_def]

@[simp] theorem retouch_guids : (view.retouch touch).guids = view.guids := by
  simp [guids, retouch, Function.comp_def]

theorem retouch_referenced (graph : ShaderGraph) :
    (view.retouch touch).referenced (graph.retouch touch) =
      (view.referenced graph).map (Live.retouch touch) := by
  rw [referenced, referenced, ShaderGraph.retouch_references, List.map_filterMap]
  congr 1
  funext reference
  exact retouch_lookup touch reference.2

theorem retouch_checkCycles (unmarked : List Guid) (path : List (Guid × String))
    (checked : List Guid) (graph : ShaderGraph) :
    (view.retouch touch).checkCycles unmarked path checked (graph.retouch touch) =
      view.checkCycles unmarked path checked graph := by
  induction unmarked, path, checked, graph using checkCycles.induct with
  | case1 unmarked path checked graph opened found =>
    rw [checkCycles, checkCycles, ShaderGraph.retouch_guid, dif_pos opened, dif_pos opened,
      if_pos found, if_pos found]
  | case2 unmarked path checked graph opened fresh cyclic =>
    rw [checkCycles, checkCycles, ShaderGraph.retouch_guid, dif_pos opened, dif_pos opened,
      if_neg fresh, if_neg fresh, ShaderGraph.retouch_topologicalOrder, if_pos cyclic,
      if_pos cyclic, ShaderGraph.retouch_name]
  | case3 unmarked path checked graph opened fresh ordered ih =>
    rw [checkCycles, checkCycles, ShaderGraph.retouch_guid, dif_pos opened, dif_pos opened,
      if_neg fresh, if_neg fresh, ShaderGraph.retouch_topologicalOrder, if_neg ordered,
      if_neg ordered, ShaderGraph.retouch_name, retouch_referenced, List.foldlM_map]
    congr 2
    funext checked definition
    exact ih checked definition
  | case4 unmarked path checked graph closed =>
    rw [checkCycles, checkCycles, ShaderGraph.retouch_guid, dif_neg closed, dif_neg closed,
      ShaderGraph.retouch_name]

/-- The search for rings does not see how the graph was retouched that it starts from. -/
theorem checkCycles_retouch (unmarked : List Guid) (path : List (Guid × String))
    (checked : List Guid) (graph : ShaderGraph) :
    view.checkCycles unmarked path checked (graph.retouch touch) =
      view.checkCycles unmarked path checked graph := by
  rw [checkCycles, checkCycles]
  simp only [ShaderGraph.retouch_guid, ShaderGraph.retouch_name, ShaderGraph.retouch_topologicalOrder,
    referenced, ShaderGraph.retouch_references]
  rfl

/-- The retouched node stands for the retouched definition. -/
def Tracks (touch : Retouch) (view : View) (node : Node) : Prop :=
  (touch.change node).wrapper?.bind (view.retouch touch).resolve =
    (node.wrapper?.bind view.resolve).map (Live.retouch touch)

theorem retouch_warnings {nodes : List Node} (tracks : ∀ node ∈ nodes, view.Tracks touch node)
    (warned : List Handle) :
    (view.retouch touch).warnings warned (nodes.map touch.change) = view.warnings warned nodes := by
  induction nodes generalizing warned with
  | nil => rfl
  | cons node rest ih =>
    have later (warned : List Handle) := ih (fun other member => tracks other (by simp [member])) warned
    have same := tracks node (by simp)
    have handle := touch.handle? node
    unfold Tracks at same
    rw [List.map_cons, warnings, warnings]
    cases before : node.wrapper? with
    | none =>
      have gone : (touch.change node).wrapper? = none := by simpa [before] using handle
      rw [gone]
      exact later warned
    | some wrapper =>
      obtain ⟨retouched, after, bound⟩ : ∃ retouched,
          (touch.change node).wrapper? = some retouched ∧ retouched.handle = wrapper.handle := by
        simpa [before] using handle
      rw [after]
      simp only [before, after, Option.bind_some] at same
      simp only [bound, same]
      cases wrapper.handle with
      | none => exact later warned
      | some handle =>
        cases view.resolve wrapper with
        | none => simp [later]
        | some definition => simp [later]

theorem retouch_statements {graph : ShaderGraph} (settings : Settings) {node : Node}
    (tracks : view.Tracks touch node) (flag : (touch.change node).hasError = node.hasError) :
    (graph.retouch touch).statements (view.retouch touch) settings (touch.change node) =
      graph.statements view settings node := by
  unfold ShaderGraph.statements
  rw [flag]
  split
  next => exact ShaderGraph.retouch_errorStatements touch node
  next =>
    rcases touch.kinds node with ⟨plain, same⟩ | ⟨wrapper, retouched, before, after, _⟩
    · rw [same]
      cases kind : node.kind with
      | function call => exact graph.retouch_functionStatements touch settings node call
      | reader property => rfl
      | output => exact graph.retouch_outputStatements touch settings node
      | wrapper wrapper => simp [(node.wrapper?_eq_some_iff wrapper).2 kind] at plain
    · have same : (view.retouch touch).resolve retouched =
          (view.resolve wrapper).map (Live.retouch touch) := by
        have tracked := tracks
        rw [Tracks, (node.wrapper?_eq_some_iff wrapper).2 before,
          ((touch.change node).wrapper?_eq_some_iff retouched).2 after] at tracked
        exact tracked
      rw [before, after]
      simp only [same]
      cases view.resolve wrapper with
      | none => rfl
      | some definition =>
        exact (graph.retouch_wrapperStatements touch settings node _).trans
          (graph.wrapperStatements_retouch touch settings node definition)

/-- What the retouched active nodes of a graph stand for are the retouched definitions, and no flag was
changed among them. -/
def Steady (touch : Retouch) (view : View) (graph : ShaderGraph) : Prop :=
  ∀ entry ∈ graph.active,
    view.Tracks touch entry.2 ∧ (touch.change entry.2).hasError = entry.2.hasError

theorem retouch_routine {graph : ShaderGraph} (steady : view.Steady touch graph) (settings : Settings)
    (name : String) (withProperties : Bool) :
    (graph.retouch touch).routine (view.retouch touch) settings name withProperties =
      graph.routine view settings name withProperties := by
  have blocks : ((graph.retouch touch).active.map fun entry => Block.mk entry.2.id
      ((graph.retouch touch).statements (view.retouch touch) settings entry.2)) =
      graph.active.map fun entry => ⟨entry.2.id, graph.statements view settings entry.2⟩ := by
    rw [ShaderGraph.retouch_active, List.map_map]
    refine List.map_congr_left fun entry active => ?_
    obtain ⟨tracks, flag⟩ := steady entry active
    simp only [Function.comp_apply, Prod.map_snd, touch.id,
      retouch_statements touch settings tracks flag]
  unfold ShaderGraph.routine
  rw [blocks, ShaderGraph.retouch_outputs]
  rfl

/-- A walk through retouched nodes is the retouched walk, if what it starts from holds also of the nodes
inside definitions, where the same ones are chosen. -/
theorem retouch_walk {chosen : Node → Bool} {holds : ShaderGraph → Node → Prop}
    (tracks : ∀ graph node, holds graph node → view.Tracks touch node)
    (inside : ∀ graph node definition, holds graph node →
      node.wrapper?.bind view.resolve = some definition → ∀ entry ∈ definition.graph.active,
        chosen (touch.change entry.2) = chosen entry.2 ∧ holds definition.graph entry.2)
    {opened : List Handle} {owner : Option Serial} {graph : ShaderGraph}
    {nodes : List (NodeId × Node)} (known : ∀ entry ∈ nodes, holds graph entry.2) :
    (view.retouch touch).walk chosen opened owner (graph.retouch touch)
        (nodes.map (Prod.map id touch.change)) =
      (view.walk chosen opened owner graph nodes).map (Event.retouch touch) := by
  induction opened, owner, graph, nodes using walk.induct chosen with
  | case1 opened owner graph nodes ih =>
    rw [walk, walk, List.flatMap_map, List.map_flatMap]
    refine List.flatMap_congr fun entry member => ?_
    have same := tracks graph entry.2 (known entry member)
    rw [Tracks] at same
    rw [Prod.map_snd, same, List.map_cons]
    refine congrArg (List.cons _) ?_
    cases resolved : entry.2.wrapper?.bind view.resolve with
    | none => rfl
    | some definition =>
      have below := inside graph entry.2 definition (known entry member) resolved
      by_cases opening : definition.handle ∈ opened
      · have chosenActive :
            ((definition.graph.retouch touch).active.filter fun inner => chosen inner.2) =
              (definition.graph.active.filter fun inner => chosen inner.2).map
                (Prod.map id touch.change) := by
          rw [ShaderGraph.retouch_active]
          exact filter_map_of fun inner active => (below inner active).1
        refine (dif_pos (show (definition.retouch touch).handle ∈ opened from opening)).trans ?_
        dsimp only
        rw [dif_pos opening, List.map_append, Live.retouch_graph, chosenActive]
        refine congrArg (· ++ [Event.complete (definition.retouch touch)])
          (ih definition opening ?_)
        exact fun inner listed => (below inner (List.mem_filter.1 listed).1).2
      · refine (dif_neg (show (definition.retouch touch).handle ∉ opened from opening)).trans ?_
        dsimp only
        rw [dif_neg opening, List.map_nil]

theorem retouch_foldl_register (settings : Settings) (functions : Functions) {events : List Event}
    (steady : ∀ definition, .complete definition ∈ events → view.Steady touch definition.graph) :
    (events.map (Event.retouch touch)).foldl (Event.register (view.retouch touch) settings) functions =
      events.foldl (Event.register view settings) functions := by
  rw [List.foldl_map]
  refine List.foldl_ext _ _ _ fun functions event member => ?_
  cases event with
  | meet owner site node =>
    simp only [Event.retouch, Event.register]
    rcases touch.kinds node with ⟨_, same⟩ | ⟨wrapper, retouched, before, after, _⟩
    · rw [same]
    · rw [before, after]
  | complete definition =>
    have same := retouch_routine touch (steady definition member) settings
      (functionName (some definition.toDefinition)) true
    exact congrArg (fun routine : Routine => functions.provide _ fun _ =>
      routine.text settings.precision) same

theorem retouch_uniforms (events : List Event) :
    (events.map (Event.retouch touch)).flatMap Event.uniforms = events.flatMap Event.uniforms := by
  rw [List.flatMap_map]
  refine List.flatMap_congr fun event _ => ?_
  cases event with
  | meet owner site node => exact owner.retouch_slotUniforms touch node
  | complete definition => rfl

theorem retouch_declared (events : List Event) :
    declared (events.map (Event.retouch touch)) = declared events := by
  rw [declared, declared, List.filterMap_map]
  refine List.filterMap_congr fun event _ => ?_
  cases event with
  | meet owner site node =>
    simp only [Function.comp_apply, Event.retouch]
    rcases touch.kinds node with ⟨_, same⟩ | ⟨wrapper, retouched, before, after, _⟩
    · rw [same]
    · rw [before, after]
  | complete definition => rfl

end View
end NodeShader

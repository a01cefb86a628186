import NodeShader.Code.Statement
import NodeShader.Expansion

/-! The code of single nodes and of whole graphs. -/
namespace NodeShader

/-- The name of the function generated for a definition, or of the one that stands for a missing
definition. -/
def functionName : Option Definition → String
  | some definition =>
    Text.identifier definition.name ++ "_" ++ definition.graph.guid.simple
  | none => "ERROR"

def Node.localOf (node : Node) (slot : SlotId) : Local :=
  ⟨node.id, slot, node.variableName slot⟩

namespace ShaderGraph

def source? (graph : ShaderGraph) (node : Node) (slot : SlotId) : Option (Node × SlotId) := do
  let connection ← graph.feeding? ⟨node.id, slot⟩
  let source ← graph.node? connection.source.node
  if source.enabled then some (source, connection.source.slot) else none

def usesDefault (graph : ShaderGraph) (node : Node) (slot : SlotId) : Bool :=
  (graph.source? node slot).isNone

/-- The reading of a fed slot; none when the feeding node reads an unknown property or lacks the
slot. -/
def fedReading (graph : ShaderGraph) (slot : Slot) (source : Node) (sourceSlot : SlotId) :
    Option Reading := do
  let given ← source.slots.get? sourceSlot
  match source.kind with
  | .reader guid => return .property (← graph.property? guid).referenceName given.type slot.type
  | _ => return .output (source.localOf sourceSlot) given.type slot.type

def defaultReading (precision : Precision) (node : Node) (id : SlotId) (slot : Slot) : Reading :=
  if slot.type.isTexture then .uniform (node.variableName id)
  else .literal ((slot.default.literal precision).getD "0")

def reading (graph : ShaderGraph) (precision : Precision) (node : Node) (id : SlotId) : Reading :=
  match node.slots.get? id with
  | none => .literal "0"
  | some slot =>
    match (graph.source? node id).bind fun source => graph.fedReading slot source.1 source.2 with
    | some reading => reading
    | none => defaultReading precision node id slot

def functionStatements (graph : ShaderGraph) (settings : Settings) (node : Node)
    (call : FunctionCall) : List Statement :=
  node.slots.outputs.map (fun slot => .declare (node.localOf slot.id) slot.type) ++
    [.call (settings.expand call.function)
      (node.slots.inputs.map (fun slot =>
          .value slot.type (graph.reading settings.precision node slot.id)) ++
        (if call.takesContext then [.context settings.contextArgument] else []) ++
        node.slots.outputs.map fun slot => .out (node.localOf slot.id))]

/-- The argument of a wrapper for a property of its definition: its slot's, or the default of the
property when the wrapper is out of date and has no slot for it. -/
def propertyArgument (graph : ShaderGraph) (precision : Precision) (node : Node)
    (property : Property) : Option Argument :=
  match property.slotType with
  | .error _ => none
  | .ok type =>
    some (.value type
      (if (node.slots.get? property.slotId).isSome then
        graph.reading precision node property.slotId
      else .literal ((property.literal precision).getD property.referenceName)))

def wrapperStatements (graph : ShaderGraph) (settings : Settings) (node : Node)
    (definition : Definition) : List Statement :=
  definition.graph.outputs.map (fun outlet => .declare (node.localOf outlet.id) outlet.type) ++
    [.call (functionName (some definition))
      (definition.graph.properties.filterMap (graph.propertyArgument settings.precision node) ++
        [.context settings.contextArgument] ++
        definition.graph.outputs.map fun outlet => .out (node.localOf outlet.id))]

def outputStatements (graph : ShaderGraph) (settings : Settings) (node : Node) : List Statement :=
  node.slots.inputs.map fun slot =>
    .assign slot.referenceName (graph.reading settings.precision node slot.id)

def errorStatements (node : Node) : List Statement :=
  .errorRemark node.name ::
    node.slots.outputs.map fun slot => .declareZero (node.localOf slot.id) slot.type

def statements (graph : ShaderGraph) (view : View) (settings : Settings) (node : Node) :
    List Statement :=
  if node.hasError then errorStatements node
  else match node.kind with
    | .function call => graph.functionStatements settings node call
    | .wrapper wrapper =>
      match view.resolve wrapper with
      | some definition => graph.wrapperStatements settings node definition.toDefinition
      | none => []
    | .output => graph.outputStatements settings node
    | .reader _ => []

def propertyParameters (graph : ShaderGraph) : List Parameter :=
  graph.properties.filterMap fun property =>
    match property.slotType with
    | .ok type => some (.property property.referenceName type)
    | .error _ => none

/-- The function of a graph: its properties if wanted, the context and its outlets as parameters,
and the code of its active nodes. -/
def routine (graph : ShaderGraph) (view : View) (settings : Settings) (name : String)
    (withProperties : Bool) : Routine where
  name := name
  parameters :=
    (if withProperties then graph.propertyParameters else []) ++
      [.context settings.contextType settings.contextArgument] ++
      graph.outputs.map fun outlet => .out outlet.referenceName outlet.type
  blocks := graph.active.map fun entry => ⟨entry.2.id, graph.statements view settings entry.2⟩

end ShaderGraph
end NodeShader

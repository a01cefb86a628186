import NodeShader.Archive.Value
import NodeShader.Assets

/-! The archived form of nodes and graphs. What a node has been marked with since it was archived
last, and what its wrapper remembers, are not part of it. -/
namespace NodeShader.Archive
open Ron

def nodeIdTree (named : Bool) (id : NodeId) : Tree := newtype named "NodeId" (guidTree id.guid)

def nodeIdReader : Reader NodeId := .newtype "NodeId" (NodeId.mk <$> .guid)

def handleTree (named : Bool) (handle : Handle) : Tree :=
  newtype named "AssetHandle" (guidTree handle.guid)

def handleReader : Reader Handle := .newtype "AssetHandle" (Handle.mk <$> .guid)

def connectionIdTree (named : Bool) (id : Guid) : Tree :=
  newtype named "ConnectionId" (guidTree id)

def connectionIdReader : Reader Guid := .newtype "ConnectionId" .guid

def functionTree (named : Bool) (call : FunctionCall) : Tree :=
  struct named "FunctionNode"
    [("node_type", .text call.nodeType),
     ("function", .text call.function),
     ("body", optionTree (call.body.map .text)),
     ("takes_context", boolTree call.takesContext),
     ("requirements", requirementsTree named call.requirements)]

def functionReader : Reader FunctionCall := .struct "FunctionNode" (FunctionCall.mk
  <$> .required "node_type" .text
  <*> .required "function" .text
  <*> .nullable "body" .text
  <*> .required "takes_context" .bool
  <*> .required "requirements" requirementsReader)

def readerTree (named : Bool) (property : Guid) : Tree :=
  struct named "PropertyNode" [("property", guidTree property)]

def readerReader : Reader Guid := .struct "PropertyNode" (.required "property" .guid)

def wrapperTree (named : Bool) (wrapper : Wrapper) : Tree :=
  struct named "SubGraphNode"
    [("reference", struct named "SubGraphReference"
      [("handle", optionTree (wrapper.handle.map (handleTree named)))]),
     ("input_order", .list (wrapper.inputOrder.map (slotIdTree named)))]

def referenceReader : Reader (Option Handle) :=
  .struct "SubGraphReference" (.nullable "handle" handleReader)

def wrapperReader : Reader Wrapper := .struct "SubGraphNode"
  ((fun handle inputOrder => ⟨handle, none, inputOrder⟩)
    <$> .required "reference" referenceReader
    <*> .defaulted "input_order" (.list slotIdReader) [])

def outputTree (named : Bool) : Tree := if named then .word "SubGraphOutputNode" else .unit

def kindTree (named : Bool) : NodeKind → Tree
  | .function call => .tuple (some "Function") [functionTree named call]
  | .reader property => .tuple (some "Property") [readerTree named property]
  | .wrapper wrapper => .tuple (some "SubGraph") [wrapperTree named wrapper]
  | .output => .tuple (some "SubGraphOutput") [outputTree named]

def kindReader : Reader NodeKind := .variant
  [("Function", .function <$> functionReader),
   ("Property", .reader <$> readerReader),
   ("SubGraph", .wrapper <$> wrapperReader),
   ("SubGraphOutput", (fun _ => .output) <$> .unit "SubGraphOutputNode")]

def nodeTree (named : Bool) (node : Node) : Tree :=
  struct named "Node"
    [("id", nodeIdTree named node.id),
     ("name", .text node.name),
     ("enabled", boolTree node.enabled),
     ("has_error", boolTree node.hasError),
     ("position", vectorTree [node.position.1, node.position.2]),
     ("slots", slotsTree named node.slots),
     ("kind", kindTree named node.kind)]

def nodeReader : Reader Node := .struct "Node"
  ((fun id name enabled hasError position slots kind =>
      ⟨id, name, enabled, hasError, false, position, slots, kind⟩)
    <$> .required "id" nodeIdReader
    <*> .required "name" .text
    <*> .required "enabled" .bool
    <*> .defaulted "has_error" .bool false
    <*> .defaulted "position" (.pair .single) (.zero, .zero)
    <*> .required "slots" slotsReader
    <*> .required "kind" kindReader)

def connectionTree (named : Bool) (connection : Connection) : Tree :=
  struct named "Connection"
    [("id", connectionIdTree named connection.id),
     ("from_node", nodeIdTree named connection.source.node),
     ("from_slot", slotIdTree named connection.source.slot),
     ("to_node", nodeIdTree named connection.target.node),
     ("to_slot", slotIdTree named connection.target.slot)]

def connectionReader : Reader Connection := .struct "Connection"
  ((fun id fromNode fromSlot toNode toSlot => ⟨id, ⟨fromNode, fromSlot⟩, ⟨toNode, toSlot⟩⟩)
    <$> .required "id" connectionIdReader
    <*> .required "from_node" nodeIdReader
    <*> .required "from_slot" slotIdReader
    <*> .required "to_node" nodeIdReader
    <*> .required "to_slot" slotIdReader)

def graphTree (named : Bool) (graph : Graph) : Tree :=
  struct named "Graph"
    [("nodes", .map (graph.nodes.entries.map fun entry =>
      (nodeIdTree named entry.1, nodeTree named entry.2))),
     ("connections", .map (graph.filed.map fun entry =>
      (connectionIdTree named entry.1, connectionTree named entry.2)))]

def graphReader : Reader Graph := .struct "Graph"
  ((fun nodes connections => ⟨.ofList nodes, (Keyed.ofList connections).entries⟩)
    <$> .required "nodes" (.table nodeIdReader nodeReader)
    <*> .required "connections" (.table connectionIdReader connectionReader))

def shaderGraphTree (named : Bool) (graph : ShaderGraph) : Tree :=
  struct named "ShaderGraph"
    [("guid", guidTree graph.guid),
     ("name", .text graph.name),
     ("graph", graphTree named graph.toGraph),
     ("properties", .list (graph.properties.map (propertyTree named))),
     ("output_node", optionTree (graph.outputNode.map (nodeIdTree named)))]

def shaderGraphReader : Reader ShaderGraph := .struct "ShaderGraph"
  ((fun guid name graph properties outputNode => ⟨graph, guid, name, properties, outputNode⟩)
    <$> .required "guid" .guid
    <*> .required "name" .text
    <*> .required "graph" graphReader
    <*> .required "properties" (.list propertyReader)
    <*> .nullable "output_node" nodeIdReader)

def definitionTree (named : Bool) (definition : Definition) : Tree :=
  struct named "SubGraphAsset"
    [("handle", handleTree named definition.handle),
     ("name", .text definition.name),
     ("graph", shaderGraphTree named definition.graph)]

def definitionReader : Reader Definition := .struct "SubGraphAsset" (Definition.mk
  <$> .required "handle" handleReader
  <*> .required "name" .text
  <*> .required "graph" shaderGraphReader)

end NodeShader.Archive

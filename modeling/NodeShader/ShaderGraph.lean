import NodeShader.Graph

/-! Shader graphs: a graph of nodes with the properties it exposes. A sub-graph has in addition one
designated output node, whose input slots, its outlets, are the values it returns. -/
namespace NodeShader

structure ShaderGraph extends Graph where
  guid : Guid
  name : String
  properties : List Property
  outputNode : Option NodeId
deriving DecidableEq

namespace ShaderGraph

def root (guid : Guid) (name : String) : ShaderGraph :=
  { Graph.empty with guid, name, properties := [], outputNode := none }

def subGraph (guid : Guid) (name : String) (output : NodeId) : ShaderGraph :=
  { Graph.empty.addNode (Node.outputNode output) with
    guid, name, properties := [], outputNode := some output }

def withGraph (graph : ShaderGraph) (inner : Graph) : ShaderGraph :=
  { graph with toGraph := inner }

def addNode (graph : ShaderGraph) (node : Node) : ShaderGraph :=
  graph.withGraph (graph.toGraph.addNode node)

def modifyNode (graph : ShaderGraph) (id : NodeId) (change : Node → Node) : ShaderGraph :=
  graph.withGraph (graph.toGraph.modifyNode id change)

/-- Removes a node with its connections, connections that mention an unknown node included; the
output node stays. -/
def removeNode (graph : ShaderGraph) (id : NodeId) : Option Node × ShaderGraph :=
  if graph.outputNode = some id then (none, graph)
  else (graph.node? id, graph.withGraph (graph.toGraph.removeNode id))

def connect (graph : ShaderGraph) (id : Guid) (source target : Endpoint) :
    Except ConnectionError ShaderGraph :=
  (graph.toGraph.connect id source target).map graph.withGraph

def prune (graph : ShaderGraph) : ShaderGraph := graph.withGraph graph.toGraph.prune

def property? (graph : ShaderGraph) (guid : Guid) : Option Property :=
  graph.properties.find? fun property => property.guid = guid

def addProperty (graph : ShaderGraph) (property : Property) : Except PropertyError ShaderGraph := do
  let _ ← property.slotType
  return { graph with properties := graph.properties ++ [property] }

def readers (graph : ShaderGraph) (guid : Guid) : List NodeId :=
  (graph.nodes.values.filter fun node => node.kind = .reader guid).map (·.id)

def removeProperty (graph : ShaderGraph) (guid : Guid) : Option (Property × ShaderGraph) :=
  (graph.property? guid).map fun property =>
    (property,
      { (graph.withGraph ((graph.readers guid).foldl Graph.removeNode graph.toGraph)) with
        properties := graph.properties.eraseP fun other => other.guid = guid })

def output? (graph : ShaderGraph) : Option Node := graph.outputNode.bind graph.node?

def outputs (graph : ShaderGraph) : List Slot :=
  match graph.output? with
  | some node => node.slots.inputs
  | none => []

def addOutput (graph : ShaderGraph) : Option (Nat × ShaderGraph) := do
  let id ← graph.outputNode
  let (index, changed) ← (← graph.node? id).addOutlet
  return (index, graph.modifyNode id fun _ => changed)

def removeOutput (graph : ShaderGraph) : Option (Slot × ShaderGraph) := do
  let id ← graph.outputNode
  let (slot, changed) ← (← graph.node? id).removeOutlet
  return (slot, (graph.modifyNode id fun _ => changed).prune)

/-- The handles that wrappers are bound to, those of disabled nodes included. -/
def references (graph : ShaderGraph) : List (NodeId × Handle) :=
  graph.nodes.values.filterMap fun node => do
    return (node.id, ← (← node.wrapper?).handle)

end ShaderGraph
end NodeShader

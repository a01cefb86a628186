import NodeShader.Keyed
import NodeShader.Node
import NodeShader.Without

/-! Nodes and the connections between their slots. A connection runs from an output slot to an
input slot, an input slot takes one connection, and connecting never closes a cycle. -/
namespace NodeShader

structure Endpoint where
  node : NodeId
  slot : SlotId
deriving DecidableEq

structure Connection where
  id : Guid
  source : Endpoint
  target : Endpoint
deriving DecidableEq

inductive ConnectionError where
  | nodeNotFound (node : NodeId)
  | slotNotFound (node : NodeId) (slot : SlotId)
  | wrongDirection
  | incompatibleSlots
  | slotAlreadyConnected (node : NodeId) (slot : SlotId)
  | selfLoop
  | wouldCreateCycle
deriving DecidableEq

def ConnectionError.message : ConnectionError → String
  | nodeNotFound node => "Node not found: " ++ node.guid.text
  | slotNotFound node slot => "Slot " ++ slot.text ++ " not found on node " ++ node.guid.text
  | wrongDirection => "Connections must run from an output slot to an input slot"
  | incompatibleSlots => "Incompatible slot types"
  | slotAlreadyConnected node slot =>
    "Slot " ++ slot.text ++ " on node " ++ node.guid.text ++ " is already connected"
  | selfLoop => "Self-loop not allowed"
  | wouldCreateCycle => "Connection would create a cycle"

namespace Connection

def involves (connection : Connection) (node : NodeId) : Bool :=
  connection.source.node = node || connection.target.node = node

end Connection

/-- Connections are filed under an id of their own, in the order in which they were made. -/
structure Graph where
  nodes : Keyed NodeId Node
  filed : List (Guid × Connection)
deriving DecidableEq

namespace Graph

def empty : Graph := ⟨.empty, []⟩

def connections (graph : Graph) : List Connection := graph.filed.map (·.2)

def node? (graph : Graph) (id : NodeId) : Option Node := graph.nodes.get? id

def addNode (graph : Graph) (node : Node) : Graph :=
  { graph with nodes := graph.nodes.insert node.id node }

def modifyNode (graph : Graph) (id : NodeId) (change : Node → Node) : Graph :=
  { graph with nodes := graph.nodes.modify id change }

def removeNode (graph : Graph) (id : NodeId) : Graph where
  nodes := graph.nodes.erase id
  filed := graph.filed.filter fun entry => !entry.2.involves id

def slot? (graph : Graph) (place : Endpoint) : Option Slot :=
  (graph.node? place.node).bind fun node => node.slots.get? place.slot

def feeding? (graph : Graph) (target : Endpoint) : Option Connection :=
  graph.connections.find? fun connection => connection.target = target

def connectionsOf (graph : Graph) (id : NodeId) : List Connection :=
  graph.connections.filter fun connection => connection.involves id

def joins (graph : Graph) (connection : Connection) : Bool :=
  (graph.slot? connection.source).any Slot.isOutput &&
    (graph.slot? connection.target).any Slot.isInput

def prune (graph : Graph) : Graph :=
  { graph with filed := graph.filed.filter fun entry => graph.joins entry.2 }

def sources (graph : Graph) (id : NodeId) : List NodeId :=
  (graph.connections.filter fun connection => connection.target.node = id).map (·.source.node)

/-- Every id that occurs in the graph, nodes that connections only mention included. -/
def mentioned (graph : Graph) : List NodeId :=
  graph.nodes.keys ++ graph.connections.map (·.source.node) ++
    graph.connections.map (·.target.node)

theorem sources_length_le (graph : Graph) (id : NodeId) :
    (graph.sources id).length ≤ graph.filed.length := by
  rw [sources, List.length_map]
  refine Nat.le_trans (List.length_filter_le _ _) ?_
  simp [connections]

/-- Walks the connections backwards from the nodes on the stack until the goal turns up. -/
def reaches (graph : Graph) (unseen stack : List NodeId) (goal : NodeId) : Bool :=
  match stack with
  | [] => false
  | current :: rest =>
    if current = goal then true
    else if _ : current ∈ unseen then
      graph.reaches (without unseen current) (graph.sources current ++ rest) goal
    else graph.reaches unseen rest goal
termination_by unseen.length * (graph.filed.length + 1) + stack.length
decreasing_by
  · have fewer : (without unseen current).length + 1 ≤ unseen.length := length_without_lt ‹current ∈ unseen›
    have bounded := graph.sources_length_le current
    have product := Nat.mul_le_mul_right (graph.filed.length + 1) fewer
    rw [Nat.add_mul] at product
    simp only [List.length_append, List.length_cons]
    omega
  · simp

/-- Whether a node reads from another one, directly or through others; every node does from
itself. -/
def dependsOn (graph : Graph) (node dependency : NodeId) : Bool :=
  graph.reaches graph.mentioned [node] dependency

/-- Visits a node after everything it reads from, given the nodes that are not on the way to it and
those already in the order. Coming back to the way that led here means a cycle. -/
def visit (graph : Graph) (unmarked order : List NodeId) (id : NodeId) : Option (List NodeId) :=
  if _ : id ∈ unmarked then
    if id ∈ order then some order
    else
      ((graph.sources id).foldlM (fun order source => graph.visit (without unmarked id) order source)
        order).map (· ++ [id])
  else none
termination_by unmarked.length
decreasing_by exact length_without_lt ‹id ∈ unmarked›

def topologicalOrder (graph : Graph) : Option (List NodeId) :=
  graph.nodes.keys.foldlM (fun order id => graph.visit graph.mentioned order id) []

/-- The enabled nodes, sources first; in a cyclic graph in the order in which they were added. -/
def active (graph : Graph) : List (NodeId × Node) :=
  let ordered := match graph.topologicalOrder with
    | some order => order.filterMap fun id => (graph.node? id).map (id, ·)
    | none => graph.nodes.entries
  ordered.filter fun entry => entry.2.enabled

/-- Connects two slots under a new id. Of several things wrong with a request the first in this
order is reported. -/
def connect (graph : Graph) (id : Guid) (source target : Endpoint) :
    Except ConnectionError Graph := do
  let some sourceNode := graph.node? source.node | throw (.nodeNotFound source.node)
  let some targetNode := graph.node? target.node | throw (.nodeNotFound target.node)
  let some sourceSlot := sourceNode.slots.get? source.slot
    | throw (.slotNotFound source.node source.slot)
  let some targetSlot := targetNode.slots.get? target.slot
    | throw (.slotNotFound target.node target.slot)
  if !sourceSlot.isOutput || !targetSlot.isInput then throw .wrongDirection
  if !sourceSlot.type.connectsTo targetSlot.type then throw .incompatibleSlots
  if source.node = target.node then throw .selfLoop
  if (graph.feeding? target).isSome then throw (.slotAlreadyConnected target.node target.slot)
  if graph.dependsOn source.node target.node then throw .wouldCreateCycle
  return { graph with filed := graph.filed ++ [(id, ⟨id, source, target⟩)] }

end Graph
end NodeShader

import NodeShader.Catalogue
import NodeShader.Project

/-! A small project to start from: a sub-graph that tints the vertex colour, used twice by the root
graph. -/
namespace NodeShader.Demo

structure Ids where
  root : Guid
  first : NodeId
  handle : Handle
  second : NodeId
  add : NodeId
  firstConnection : Guid
  secondConnection : Guid
  tinted : Guid
  output : NodeId
  reader : NodeId
  tint : Guid
  color : NodeId
  multiply : NodeId
  readerConnection : Guid
  colorConnection : Guid
  outputConnection : Guid
deriving DecidableEq

def Ids.ofSupply (guid : Nat → Guid) : Ids :=
  ⟨guid 0, ⟨guid 1⟩, ⟨guid 2⟩, ⟨guid 3⟩, ⟨guid 4⟩, guid 5, guid 6, guid 7, ⟨guid 8⟩, ⟨guid 9⟩,
    guid 10, ⟨guid 11⟩, ⟨guid 12⟩, guid 13, guid 14, guid 15⟩

def tint (ids : Ids) : Property where
  guid := ids.tint
  displayName := "Tint"
  referenceName := "Tint"
  value := .color #v[⟨0x3F800000⟩, ⟨0x3F000000⟩, ⟨0x3E800000⟩, ⟨0x3F800000⟩]

def node (id : NodeId) (template : String) : Option Node :=
  (Catalogue.standard.get? template).map fun template => template.instantiate id

def position (index : Nat) : SlotId := .positional index

def tintedGraph (ids : Ids) : Option ShaderGraph := do
  let exposed ← ((ShaderGraph.subGraph ids.tinted "Tinted" ids.output).addProperty
    (tint ids)).toOption
  let (_, graph) ← exposed.addOutput
  let reader ← (Node.readerOf ids.reader (tint ids)).toOption
  let graph := graph.addNode reader
  let graph := graph.addNode (← node ids.color "vertex_color")
  let graph := graph.addNode (← node ids.multiply "multiply")
  let graph ← (graph.connect ids.readerConnection ⟨ids.reader, position 0⟩
    ⟨ids.multiply, position 0⟩).toOption
  let graph ← (graph.connect ids.colorConnection ⟨ids.color, position 0⟩
    ⟨ids.multiply, position 1⟩).toOption
  (graph.connect ids.outputConnection ⟨ids.multiply, position 2⟩
    ⟨ids.output, position 1⟩).toOption

def rootGraph (ids : Ids) (view : View) : Option ShaderGraph := do
  let first ← (Node.wrapperOf view ids.first (some ids.handle)).toOption
  let second ← (Node.wrapperOf view ids.second (some ids.handle)).toOption
  let add ← node ids.add "add"
  let graph := ShaderGraph.root ids.root "Demo"
  let graph := graph.addNode first
  let graph := graph.addNode { second with position := (.zero, ⟨0x42F00000⟩) }
  let graph := graph.addNode { add with position := (⟨0x43700000⟩, ⟨0x42700000⟩) }
  let graph ← (graph.connect ids.firstConnection ⟨ids.first, position 1⟩
    ⟨ids.add, position 0⟩).toOption
  (graph.connect ids.secondConnection ⟨ids.second, position 1⟩ ⟨ids.add, position 1⟩).toOption

def project (ids : Ids) : Option Project := do
  let tinted := { handle := ids.handle, name := "Tinted", graph := ← tintedGraph ids }
  let root ← rootGraph ids (Assets.empty.store tinted).view
  return { settings := .standard, root, definitions := [tinted] }

end NodeShader.Demo

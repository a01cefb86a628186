import NodeShader.Wrapper

/-! The walk through a graph and the definitions that its wrappers stand for. A definition is
entered once for every wrapper met, but never inside itself: handles that are being expanded are
closed until the expansion is complete. -/
namespace NodeShader

/-- The walk meets active nodes, and leaves a definition when all inside it has been met. -/
inductive Event where
  | meet (graph : ShaderGraph) (site : Site) (node : Node)
  | complete (definition : Live)

/-- Walks through nodes of a graph. `chosen` says which nodes of a definition are met, `closed`
handles are left out. -/
def View.walk (view : View) (chosen : Node → Bool) (opened : List Handle) (owner : Option Serial)
    (graph : ShaderGraph) (nodes : List (NodeId × Node)) : List Event :=
  nodes.flatMap fun entry =>
    .meet graph ⟨owner, entry.1⟩ entry.2 ::
      match entry.2.wrapper?.bind view.resolve with
      | none => []
      | some definition =>
        if _ : definition.handle ∈ opened then
          view.walk chosen (without opened definition.handle) (some definition.serial)
            definition.graph (definition.graph.active.filter fun inner => chosen inner.2) ++
            [.complete definition]
        else []
termination_by opened.length
decreasing_by exact length_without_lt ‹definition.handle ∈ opened›

def ShaderGraph.sound (graph : ShaderGraph) : List (NodeId × Node) :=
  graph.active.filter fun entry => !entry.2.hasError

/-- The walk of code generation: broken nodes are left out at every depth. -/
def View.soundWalk (view : View) (graph : ShaderGraph) : List Event :=
  view.walk (fun node => !node.hasError) view.handles none graph graph.sound

/-- The walk of requirement queries, from some nodes of a graph through all active nodes below. -/
def View.fullWalk (view : View) (graph : ShaderGraph) (nodes : List (NodeId × Node)) : List Event :=
  view.walk (fun _ => true) view.handles none graph nodes

def metSites (events : List Event) : List Site :=
  events.filterMap fun event =>
    match event with
    | .meet _ site _ => some site
    | .complete _ => none

def declared (events : List Event) : List Requirements :=
  events.filterMap fun event =>
    match event with
    | .meet _ _ node =>
      match node.kind with
      | .function call => some call.requirements
      | _ => none
    | .complete _ => none

def View.requirement (view : View) (graph : ShaderGraph) (nodes : List (NodeId × Node))
    (capability : Capability) : Requirement :=
  Requirements.combined (declared (view.fullWalk graph nodes)) capability

def View.requirements (view : View) (graph : ShaderGraph) (nodes : List (NodeId × Node)) :
    Requirements :=
  .ofList (declared (view.fullWalk graph nodes))

end NodeShader

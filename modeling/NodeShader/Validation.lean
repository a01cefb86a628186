import NodeShader.Expansion

/-! Checks that come before code generation. References that lead back to a graph on the way to
them, and cyclic connections, reject the graph; wrappers at fault are flagged and reported. -/
namespace NodeShader

inductive ValidationError where
  /-- The names along the cycle; first and last are of one graph. -/
  | cyclicSubGraph (chain : List String)
  | graphCycle (graph : String)
  /-- A definition expands into itself though no graph id repeats on the way. -/
  | endlessNesting
deriving DecidableEq

def ValidationError.message : ValidationError → String
  | cyclicSubGraph chain => "Cyclic sub-graph reference: " ++ String.intercalate " -> " chain
  | graphCycle graph => "Graph '" ++ graph ++ "' contains a cycle"
  | endlessNesting => "Sub-graph nesting does not end"

inductive Warning where
  | missingSubGraph (node : String) (handle : Handle)
  | noOutputNode (definition : String)
deriving DecidableEq

def Warning.message : Warning → String
  | missingSubGraph node handle =>
    "Node '" ++ node ++ "' references a missing sub-graph AssetHandle(" ++ handle.guid.text ++ ")"
  | noOutputNode definition => "Sub-graph '" ++ definition ++ "' has no output node"

structure Report where
  flagged : List NodeId
  warnings : List Warning
deriving DecidableEq

def Report.isClean (report : Report) : Bool := report.flagged.isEmpty && report.warnings.isEmpty

namespace View

def guids (view : View) : List Guid := view.live.map fun definition => definition.graph.guid

def serials (view : View) : List Serial := view.live.map fun definition => definition.serial

def referenced (view : View) (graph : ShaderGraph) : List Live :=
  graph.references.filterMap fun reference => view.lookup reference.2

/-- Searches the references depth first by graph id, given the ids that are not on the way, the
way with its names, and the ids already found in order; answers with the latter. -/
def checkCycles (view : View) (unmarked : List Guid) (path : List (Guid × String))
    (checked : List Guid) (graph : ShaderGraph) : Except ValidationError (List Guid) :=
  if _ : graph.guid ∈ unmarked then
    if graph.guid ∈ checked then .ok checked
    else if graph.topologicalOrder.isNone then .error (.graphCycle graph.name)
    else
      ((view.referenced graph).foldlM (fun checked definition =>
        view.checkCycles (without unmarked graph.guid) (path ++ [(graph.guid, graph.name)]) checked
          definition.graph) checked).map (graph.guid :: ·)
  else
    .error (.cyclicSubGraph
      ((path.dropWhile fun step => step.1 ≠ graph.guid).map (·.2) ++ [graph.name]))
termination_by unmarked.length
decreasing_by exact length_without_lt ‹graph.guid ∈ unmarked›

/-- Whether a wrapper misses its definition or expands, at some depth, to an active node at fault.
The search takes the first one and has no answer when a definition turns up inside itself. -/
def fault (view : View) (unmarked : List Serial) (node : Node) : Option Bool :=
  match node.wrapper? with
  | none => some false
  | some wrapper =>
    if wrapper.handle = none then some false
    else match view.resolve wrapper with
      | none => some true
      | some definition =>
        if _ : definition.serial ∈ unmarked then
          definition.graph.active.anyM fun entry =>
            if entry.2.hasError then some true
            else view.fault (without unmarked definition.serial) entry.2
        else none
termination_by unmarked.length
decreasing_by exact length_without_lt ‹definition.serial ∈ unmarked›

def upTo {α : Type} (wanted : α → Bool) : List α → List α
  | [] => []
  | item :: rest => if wanted item then [item] else item :: upTo wanted rest

def faultSites (view : View) (unmarked : List Serial) (site : Site) (node : Node) : List Site :=
  match node.wrapper? with
  | none => []
  | some wrapper =>
    site :: match view.resolve wrapper with
      | none => []
      | some definition =>
        if _ : definition.serial ∈ unmarked then
          let inner := without unmarked definition.serial
          let met := upTo (fun entry : NodeId × Node =>
            entry.2.hasError || view.fault inner entry.2 ≠ some false) definition.graph.active
          (met.filter fun entry => !entry.2.hasError).flatMap fun entry =>
            view.faultSites (without unmarked definition.serial)
              ⟨some definition.serial, entry.1⟩ entry.2
        else []
termination_by unmarked.length
decreasing_by exact length_without_lt ‹definition.serial ∈ unmarked›

/-- One warning for a node whose definition is missing, and one for each definition without an
output node. -/
def warnings (view : View) (warned : List Handle) : List Node → List Warning
  | [] => []
  | node :: rest =>
    match node.wrapper? with
    | none => view.warnings warned rest
    | some wrapper =>
      match wrapper.handle, view.resolve wrapper with
      | none, _ => view.warnings warned rest
      | some handle, none => .missingSubGraph node.name handle :: view.warnings warned rest
      | some _, some definition =>
        if definition.graph.output?.isNone && !warned.contains definition.handle then
          .noOutputNode definition.name :: view.warnings (definition.handle :: warned) rest
        else view.warnings warned rest

def isFaulty (view : View) (node : Node) : Bool := view.fault view.serials node = some true

def flag (view : View) (graph : ShaderGraph) : ShaderGraph :=
  graph.withGraph { graph.toGraph with
    nodes := graph.nodes.mapValues fun _ node =>
      if node.wrapper?.isSome then { node with hasError := view.isFaulty node } else node }

def report (view : View) (graph : ShaderGraph) : Report where
  flagged := (graph.nodes.values.filter view.isFaulty).map (·.id)
  warnings := view.warnings [] graph.nodes.values

def validate (view : View) (graph : ShaderGraph) :
    Except ValidationError (Report × ShaderGraph) := do
  let _ ← view.checkCycles (graph.guid :: view.guids) [] [] graph
  if graph.nodes.values.any fun node => view.fault view.serials node = none then
    throw .endlessNesting
  return (view.report graph, view.flag graph)

def validationSites (view : View) (graph : ShaderGraph) : List Site :=
  graph.nodes.entries.flatMap fun entry =>
    view.faultSites view.serials ⟨none, entry.1⟩ entry.2

end View
end NodeShader

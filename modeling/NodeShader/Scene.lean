import NodeShader.Compile

/-! A graph at hand together with the assets it refers to. An operation answers, and leaves behind
what the wrappers that it resolved remember from then on, in the graph and in the definitions. -/
namespace NodeShader

structure Scene where
  graph : ShaderGraph
  assets : Assets

namespace Scene

def settle (view : View) (sites : List Site) (scene : Scene) : Scene where
  graph := view.settleGraph sites none scene.graph
  assets := scene.assets.settle view sites

def withGraph (scene : Scene) (graph : ShaderGraph) : Scene := { scene with graph }

def validate (view : View) (scene : Scene) : Except ValidationError Report × Scene :=
  match view.validate scene.graph with
  | .error cause => (.error cause, scene)
  | .ok (report, flagged) =>
    (.ok report, (scene.withGraph flagged).settle view (view.validationSites scene.graph))

def compilationSites (view : View) (graph : ShaderGraph) : List Site :=
  metSites (view.soundWalk graph) ++ metSites (view.fullWalk graph graph.sound)

def compileInto (view : View) (settings : Settings) (functions : Functions) (scene : Scene) :
    Except ValidationError (Compiled × Functions) × Scene :=
  match view.compileInto settings functions scene.graph with
  | .error cause => (.error cause, scene)
  | .ok (compiled, functions, flagged) =>
    (.ok (compiled, functions), (scene.withGraph flagged).settle view
      (view.validationSites scene.graph ++ compilationSites view flagged))

def compile (view : View) (settings : Settings) (scene : Scene) :
    Except ValidationError Compiled × Scene :=
  match scene.compileInto view settings .empty with
  | (.error cause, after) => (.error cause, after)
  | (.ok (compiled, functions), after) =>
    (.ok { compiled with functions := functions.entries }, after)

/-- What a run of the compiler leaves behind. -/
theorem compile_eq (view : View) (settings : Settings) (scene : Scene) :
    scene.compile view settings =
      match view.compile settings scene.graph with
      | .error cause => (.error cause, scene)
      | .ok (compiled, flagged) => (.ok compiled, (scene.withGraph flagged).settle view
          (view.validationSites scene.graph ++ compilationSites view flagged)) := by
  unfold Scene.compile Scene.compileInto View.compile
  cases view.compileInto settings .empty scene.graph <;> rfl

def generate (view : View) (settings : Settings) (functions : Functions) (scene : Scene) :
    Functions × Scene :=
  (view.generate settings functions scene.graph,
    scene.settle view (metSites (view.soundWalk scene.graph)))

def uniforms (view : View) (scene : Scene) : Uniforms × Scene :=
  (view.uniforms scene.graph, scene.settle view (metSites (view.soundWalk scene.graph)))

def routine (view : View) (settings : Settings) (name : String) (withProperties : Bool)
    (scene : Scene) : Routine × Scene :=
  (scene.graph.routine view settings name withProperties,
    scene.settle view (scene.graph.sound.map fun entry => ⟨none, entry.1⟩))

def statements (view : View) (settings : Settings) (id : NodeId) (node : Node) (scene : Scene) :
    List Statement × Scene :=
  (scene.graph.statements view settings node,
    scene.settle view (if node.hasError then [] else [⟨none, id⟩]))

def requirements (view : View) (scene : Scene) : Requirements × Scene :=
  (view.requirements scene.graph scene.graph.active,
    scene.settle view (metSites (view.fullWalk scene.graph scene.graph.active)))

def requirement (view : View) (nodes : List (NodeId × Node)) (capability : Capability)
    (scene : Scene) : Requirement × Scene :=
  (view.requirement scene.graph nodes capability,
    scene.settle view (metSites (view.fullWalk scene.graph nodes)))

def resolve (view : View) (id : NodeId) (wrapper : Wrapper) (scene : Scene) :
    Option Live × Scene :=
  (view.resolve wrapper, scene.settle view [⟨none, id⟩])

end Scene
end NodeShader

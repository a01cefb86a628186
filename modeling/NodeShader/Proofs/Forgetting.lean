import NodeShader.Proofs.Overlooking

/-! The same graphs and definitions with nothing remembered. Where wrappers remember nothing outdated
this makes no difference: each of them stands for the same definition as before. -/
namespace NodeShader

def Node.forget (node : Node) : Node := { node with kind := node.kind.forget }

def ShaderGraph.forget (graph : ShaderGraph) : ShaderGraph :=
  graph.withGraph { graph.toGraph with nodes := graph.nodes.mapValues fun _ node => node.forget }

def Live.forget (definition : Live) : Live := { definition with graph := definition.graph.forget }

def View.forget (view : View) : View := { view with live := view.live.map Live.forget }

def Retouch.forgetting : Retouch where
  change := Node.forget
  id _ := rfl
  name _ := rfl
  enabled _ := rfl
  slots _ := rfl
  kind node := by
    unfold Node.forget
    cases node.kind <;> rfl

theorem Node.forget_wrapper? (node : Node) :
    node.forget.wrapper? = node.wrapper?.map Wrapper.forget := by
  unfold wrapper? forget
  cases node.kind <;> rfl

namespace View
variable {view : View}

/-- A wrapper that remembers nothing outdated stands for the same definition as before. -/
theorem Recalls.resolve_forget {wrapper : Wrapper} (recalls : view.Recalls wrapper) :
    view.forget.resolve wrapper.forget = (view.resolve wrapper).map Live.forget := by
  rw [recalls.resolve, Wrapper.forget, resolve_forgetful, Option.map_bind]
  congr 1
  funext handle
  exact retouch_lookup .forgetting handle

theorem Current.resolve_forget {graph : ShaderGraph} (current : view.Current graph) {node : Node}
    (member : node ∈ graph.nodes.values) :
    node.forget.wrapper?.bind view.forget.resolve =
      (node.wrapper?.bind view.resolve).map Live.forget := by
  rw [Node.forget_wrapper?]
  cases kind : node.wrapper? with
  | none => rfl
  | some wrapper =>
    exact (current.here node member wrapper ((node.wrapper?_eq_some_iff wrapper).1 kind)).resolve_forget

theorem Current.inside {graph : ShaderGraph} (current : view.Current graph) {node : Node}
    (member : node ∈ graph.nodes.values) {definition : Live}
    (resolved : node.wrapper?.bind view.resolve = some definition) :
    view.Current definition.graph :=
  current.reaches (current.reaches_of_unfolds member ⟨definition, resolved, .inl rfl⟩)

theorem overlooks_forgetting : view.Overlooks .forgetting fun graph node =>
    view.Current graph ∧ node ∈ graph.nodes.values where
  flag _ := rfl
  flagging _ _ := rfl
  tracks _ _ here := here.1.resolve_forget here.2
  inside _ _ _ here resolved _ active :=
    ⟨here.1.inside here.2 resolved, Graph.mem_values_of_mem_active active⟩

/-- Where nothing outdated is remembered compilation gives the same answer as with nothing
remembered at all, also beside other compilations. -/
theorem Current.compileInto_forget {graph : ShaderGraph} (current : view.Current graph)
    (settings : Settings) (functions : Functions) :
    view.forget.compileInto settings functions graph.forget =
      (view.compileInto settings functions graph).map
        fun answer => (answer.1, answer.2.1, answer.2.2.forget) :=
  overlooks_forgetting.compileInto (fun _ member => ⟨current, member⟩)
    (fun _ member => ⟨current.flag, member⟩) settings functions

theorem Current.compile_forget {graph : ShaderGraph} (current : view.Current graph)
    (settings : Settings) :
    view.forget.compile settings graph.forget =
      (view.compile settings graph).map fun answer => (answer.1, answer.2.forget) :=
  overlooks_forgetting.compile (fun _ member => ⟨current, member⟩)
    (fun _ member => ⟨current.flag, member⟩) settings

end View
end NodeShader

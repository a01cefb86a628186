import NodeShader.Proofs.Retouching
import NodeShader.Proofs.Seeking

/-! Changes that go unnoticed. Nodes are retouched in what their wrappers remember, so that each of them
stands for the same definition as before, but for the changes inside. That is all that validation, the
walks and the code of nodes take from it, so that the same comes out of compilation. -/
namespace NodeShader

theorem Retouch.bound (touch : Retouch) (node : Node) :
    (touch.change node).wrapper?.bind Wrapper.handle = node.wrapper?.bind Wrapper.handle := by
  rcases touch.kinds node with ⟨_, same⟩ | ⟨wrapper, retouched, before, after, bound⟩
  · simp only [Node.wrapper?, same]
  · simp [Node.wrapper?, before, after, bound]

theorem Retouch.isSome_wrapper? (touch : Retouch) (node : Node) :
    (touch.change node).wrapper?.isSome = node.wrapper?.isSome := by
  rw [← Option.isSome_map, touch.handle?, Option.isSome_map]

theorem ShaderGraph.retouch_sound {touch : Retouch}
    (flag : ∀ node, (touch.change node).hasError = node.hasError) (graph : ShaderGraph) :
    (graph.retouch touch).sound = graph.sound.map (Prod.map id touch.change) := by
  rw [sound, sound, retouch_active]
  exact filter_map_of fun entry _ => congrArg (!·) (flag entry.2)

private theorem anyM_map_eq {α β : Type} {change : α → β} {test : α → Option Bool}
    {other : β → Option Bool} {items : List α}
    (same : ∀ item ∈ items, other (change item) = test item) :
    (items.map change).anyM other = items.anyM test := by
  induction items with
  | nil => rfl
  | cons item rest ih =>
    rw [List.map_cons, List.anyM_cons, List.anyM_cons, same item (by simp),
      ih fun other member => same other (by simp [member])]

namespace View

/-- The nodes of which something holds stand for the retouched definitions, inside which it holds as
well; and flags have no part in the change. -/
structure Overlooks (view : View) (touch : Retouch) (holds : ShaderGraph → Node → Prop) : Prop where
  flag : ∀ node, (touch.change node).hasError = node.hasError
  flagging : ∀ (node : Node) (hasError : Bool),
    touch.change { node with hasError } = { touch.change node with hasError }
  tracks : ∀ graph node, holds graph node → view.Tracks touch node
  inside : ∀ graph node definition, holds graph node →
    node.wrapper?.bind view.resolve = some definition →
      ∀ entry ∈ definition.graph.active, holds definition.graph entry.2

namespace Overlooks
variable {view : View} {touch : Retouch} {holds : ShaderGraph → Node → Prop} {graph : ShaderGraph}

/-- By induction on the number of definitions that are not being expanded. -/
theorem fault (overlooks : view.Overlooks touch holds) {node : Node} (here : holds graph node)
    (unmarked : List Serial) :
    (view.retouch touch).fault unmarked (touch.change node) = view.fault unmarked node := by
  induction within : unmarked.length using Nat.strong_induction_on generalizing unmarked graph node with
  | _ count ih =>
    have tracks := overlooks.tracks graph node here
    rw [Tracks] at tracks
    cases resolved : node.wrapper?.bind view.resolve with
    | none =>
      rw [resolved, Option.map_none] at tracks
      rw [fault_of_unresolved unmarked resolved, fault_of_unresolved unmarked tracks, touch.bound]
    | some definition =>
      rw [resolved, Option.map_some] at tracks
      rw [fault_of_resolved resolved, fault_of_resolved tracks, Live.retouch_serial]
      split
      next opened =>
        rw [Live.retouch_graph, ShaderGraph.retouch_active]
        refine anyM_map_eq fun entry active => ?_
        have below := overlooks.inside graph node definition here resolved entry active
        have inner := ih _ (within ▸ length_without_lt opened) below _ rfl
        simp only [judge, Prod.map_snd, overlooks.flag, inner]
      next => rfl

theorem isFaulty (overlooks : view.Overlooks touch holds) {node : Node} (here : holds graph node) :
    (view.retouch touch).isFaulty (touch.change node) = view.isFaulty node := by
  rw [View.isFaulty, View.isFaulty, retouch_serials, overlooks.fault here]

theorem flagNode (overlooks : view.Overlooks touch holds) {node : Node} (here : holds graph node) :
    (view.retouch touch).flagNode (touch.change node) = touch.change (view.flagNode node) := by
  rw [View.flagNode, View.flagNode, overlooks.isFaulty here, touch.isSome_wrapper?]
  split
  next => exact (overlooks.flagging node _).symm
  next => rfl

variable (known : ∀ node ∈ graph.nodes.values, holds graph node)
include known

theorem flag_retouch (overlooks : view.Overlooks touch holds) :
    (view.retouch touch).flag (graph.retouch touch) = (view.flag graph).retouch touch := by
  show (graph.mapNodes fun _ => touch.change).mapNodes (fun _ => (view.retouch touch).flagNode) =
    (graph.mapNodes fun _ => view.flagNode).mapNodes fun _ => touch.change
  rw [ShaderGraph.mapNodes_mapNodes, ShaderGraph.mapNodes_mapNodes]
  exact ShaderGraph.mapNodes_congr fun _ node member => overlooks.flagNode (known node member)

theorem report (overlooks : view.Overlooks touch holds) :
    (view.retouch touch).report (graph.retouch touch) = view.report graph := by
  have flagged : (graph.nodes.values.map touch.change).filter (view.retouch touch).isFaulty =
      (graph.nodes.values.filter view.isFaulty).map touch.change :=
    filter_map_of fun node member => overlooks.isFaulty (known node member)
  have warnings : (view.retouch touch).warnings [] (graph.nodes.values.map touch.change) =
      view.warnings [] graph.nodes.values :=
    retouch_warnings touch (fun node member => overlooks.tracks graph node (known node member)) []
  rw [View.report, View.report, ShaderGraph.retouch_values, flagged, warnings, List.map_map]
  congr 1
  exact List.map_congr_left fun node _ => touch.id node

theorem validate (overlooks : view.Overlooks touch holds) :
    (view.retouch touch).validate (graph.retouch touch) =
      (view.validate graph).map fun answer => (answer.1, answer.2.retouch touch) := by
  have answered : (graph.retouch touch).nodes.values.any
      (fun node => (view.retouch touch).fault (view.retouch touch).serials node = none) =
      graph.nodes.values.any fun node => view.fault view.serials node = none := by
    rw [ShaderGraph.retouch_values, List.any_map, retouch_serials, List.any_eq, List.any_eq]
    refine decide_eq_decide.2 (exists_congr fun node => and_congr_right fun member => ?_)
    rw [Function.comp_apply, overlooks.fault (known node member)]
  rw [View.validate, View.validate, answered, overlooks.report known, overlooks.flag_retouch known,
    retouch_guids, ShaderGraph.retouch_guid, retouch_checkCycles]
  cases view.checkCycles (graph.guid :: view.guids) [] [] graph with
  | error cause => rfl
  | ok checked =>
    dsimp only [bind, Except.bind]
    split <;> rfl

theorem walk (overlooks : view.Overlooks touch holds) {chosen : Node → Bool}
    (blind : ∀ node, chosen (touch.change node) = chosen node) {nodes : List (NodeId × Node)}
    (listed : ∀ entry ∈ nodes, entry.2 ∈ graph.nodes.values) (opened : List Handle)
    (owner : Option Serial) :
    (view.retouch touch).walk chosen opened owner (graph.retouch touch)
        (nodes.map (Prod.map id touch.change)) =
      (view.walk chosen opened owner graph nodes).map (Event.retouch touch) := by
  refine retouch_walk touch overlooks.tracks ?_ fun entry member => known entry.2 (listed entry member)
  intro graph node definition here resolved entry active
  exact ⟨blind entry.2, overlooks.inside graph node definition here resolved entry active⟩

theorem soundWalk (overlooks : view.Overlooks touch holds) :
    (view.retouch touch).soundWalk (graph.retouch touch) =
      (view.soundWalk graph).map (Event.retouch touch) := by
  rw [View.soundWalk, View.soundWalk, retouch_handles, ShaderGraph.retouch_sound overlooks.flag]
  exact overlooks.walk known (fun node => congrArg (!·) (overlooks.flag node))
    (fun _ member => mem_values_of_mem_sound member) _ _

theorem fullWalk (overlooks : view.Overlooks touch holds) :
    (view.retouch touch).fullWalk (graph.retouch touch) (graph.retouch touch).sound =
      (view.fullWalk graph graph.sound).map (Event.retouch touch) := by
  rw [View.fullWalk, View.fullWalk, retouch_handles, ShaderGraph.retouch_sound overlooks.flag]
  exact overlooks.walk known (fun _ => rfl) (fun _ member => mem_values_of_mem_sound member) _ _

omit known in
theorem steady (overlooks : view.Overlooks touch holds)
    (active : ∀ entry ∈ graph.active, holds graph entry.2) : view.Steady touch graph :=
  fun entry member => ⟨overlooks.tracks graph entry.2 (active entry member), overlooks.flag entry.2⟩

/-- A definition that a node unfolds to is met only where the change is overlooked. -/
theorem steady_of_complete (overlooks : view.Overlooks touch holds) {definition : Live}
    (left : .complete definition ∈ view.soundWalk graph) : view.Steady touch definition.graph := by
  obtain ⟨entry, listed, unfolds⟩ := walk_traced _ left
  have here := known entry.2 (mem_values_of_mem_sound listed)
  have below : ∀ inner ∈ definition.graph.active, holds definition.graph inner.2 := by
    refine @Unfolds.induction view entry.2 (fun definition => ∀ inner ∈ definition.graph.active,
      holds definition.graph inner.2) ?_ ?_ definition unfolds
    · exact fun definition resolved => overlooks.inside graph entry.2 definition here resolved
    · rintro between definition below ⟨inner, active, resolved⟩
      exact overlooks.inside between.graph inner.2 definition (below inner active) resolved
  exact overlooks.steady below

theorem generate (overlooks : view.Overlooks touch holds) (settings : Settings)
    (functions : Functions) :
    (view.retouch touch).generate settings functions (graph.retouch touch) =
      view.generate settings functions graph := by
  rw [View.generate, View.generate, overlooks.soundWalk known]
  exact retouch_foldl_register touch settings functions
    fun definition left => overlooks.steady_of_complete known left

theorem emit (overlooks : view.Overlooks touch holds) (settings : Settings) (functions : Functions)
    (report : Report) :
    (view.retouch touch).emit settings functions report (graph.retouch touch) =
      view.emit settings functions report graph := by
  have uniforms : (view.retouch touch).uniforms (graph.retouch touch) = view.uniforms graph := by
    rw [View.uniforms, View.uniforms, overlooks.soundWalk known, retouch_uniforms]
    rfl
  have requirements : (view.retouch touch).requirements (graph.retouch touch)
      (graph.retouch touch).sound = view.requirements graph graph.sound := by
    rw [View.requirements, View.requirements, overlooks.fullWalk known, retouch_declared]
  have steady := overlooks.steady fun entry active => known entry.2 (Graph.mem_values_of_mem_active active)
  rw [View.emit, View.emit, uniforms, requirements, retouch_routine touch steady,
    overlooks.generate known]

/-- The answer does not show the change. -/
theorem compileInto (overlooks : view.Overlooks touch holds)
    (flagged : ∀ node ∈ (view.flag graph).nodes.values, holds (view.flag graph) node)
    (settings : Settings) (functions : Functions) :
    (view.retouch touch).compileInto settings functions (graph.retouch touch) =
      (view.compileInto settings functions graph).map
        fun answer => (answer.1, answer.2.1, answer.2.2.retouch touch) := by
  rw [View.compileInto, View.compileInto, overlooks.validate known]
  cases validated : view.validate graph with
  | error cause => rfl
  | ok answer =>
    obtain ⟨report, marked⟩ := answer
    obtain rfl := eq_flag_of_validate validated
    simp only [Except.map, bind, Except.bind, overlooks.emit flagged]
    rfl

theorem compile (overlooks : view.Overlooks touch holds)
    (flagged : ∀ node ∈ (view.flag graph).nodes.values, holds (view.flag graph) node)
    (settings : Settings) :
    (view.retouch touch).compile settings (graph.retouch touch) =
      (view.compile settings graph).map fun answer => (answer.1, answer.2.retouch touch) := by
  rw [View.compile, View.compile, overlooks.compileInto known flagged]
  cases view.compileInto settings .empty graph <;> rfl

end Overlooks
end View
end NodeShader

import NodeShader.Proofs.Registration
import NodeShader.Proofs.Rings

/-! What the walks of code generation come to when nothing was checked before. They end though
references may form rings, with no more definitions nested than there are stored handles, and every
name that some sound node calls for enters the table, in the graph itself and in all definitions that
sound wrappers lead to. -/
namespace NodeShader.View
variable {view : View} {settings : Settings} {graph : ShaderGraph} {node : Node} {definition : Live}

/-- A sound node of the graph itself, or of a definition that sound wrappers lead to. -/
def Involves (view : View) (graph : ShaderGraph) (node : Node) : Prop :=
  ∃ owner, (owner = graph ∨ ∃ definition,
      Reaches (view.Leads fun node => !node.hasError) graph definition ∧ definition.graph = owner) ∧
    ∃ entry ∈ owner.sound, entry.2 = node

theorem exists_involves_iff : (∃ node, view.Involves graph node ∧
      node.wrapper?.bind view.resolve = some definition) ↔
    Reaches (view.Leads fun node => !node.hasError) graph definition := by
  constructor
  · rintro ⟨_, ⟨owner, rfl | ⟨outer, path, rfl⟩, entry, sound, rfl⟩, resolved⟩
    · exact .direct (leads_iff.2 ⟨entry, sound, resolved⟩)
    · exact .further path (leads_iff.2 ⟨entry, sound, resolved⟩)
  · intro path
    cases path with
    | direct leads =>
      obtain ⟨entry, sound, resolved⟩ := leads_iff.1 leads
      exact ⟨entry.2, ⟨graph, .inl rfl, entry, sound, rfl⟩, resolved⟩
    | further path leads =>
      obtain ⟨entry, sound, resolved⟩ := leads_iff.1 leads
      exact ⟨entry.2, ⟨_, .inr ⟨_, path, rfl⟩, entry, sound, rfl⟩, resolved⟩

theorem met_soundWalk_iff (tidy : view.Tidy) (placed : view.Placed graph.sound) (node : Node) :
    (∃ owner site, .meet owner site node ∈ view.soundWalk graph) ↔ view.Involves graph node := by
  refine (exists_meet_mem_walk_iff tidy placed node).trans ?_
  constructor
  · rintro (⟨entry, sound, rfl⟩ | ⟨definition, enters, inner, active, rfl, taken⟩)
    · exact ⟨graph, .inl rfl, entry, sound, rfl⟩
    · exact ⟨_, .inr ⟨definition, Enters.iff_reaches.1 enters, rfl⟩, inner,
        List.mem_filter.2 ⟨active, taken⟩, rfl⟩
  · rintro ⟨owner, rfl | ⟨definition, path, rfl⟩, entry, sound, rfl⟩
    · exact .inl ⟨entry, sound, rfl⟩
    · obtain ⟨active, taken⟩ := List.mem_filter.1 sound
      exact .inr ⟨definition, Enters.iff_reaches.2 path, entry, active, rfl, taken⟩

theorem left_soundWalk_iff (tidy : view.Tidy) (placed : view.Placed graph.sound)
    (definition : Live) : .complete definition ∈ view.soundWalk graph ↔
      ∃ node, view.Involves graph node ∧ node.wrapper?.bind view.resolve = some definition :=
  (complete_mem_walk_iff tidy placed).trans (Enters.iff_reaches.trans exists_involves_iff.symm)

/-- A function node calls for its function when it is met, and a wrapper for that of its definition when
this is left. -/
theorem functionOf_eq_some_iff (owner : ShaderGraph) (site : Site) (name : String) :
    view.functionOf settings node = some name ↔
      Event.function? settings (.meet owner site node) = some name ∨
        ∃ definition, node.wrapper?.bind view.resolve = some definition ∧
          Event.function? settings (.complete definition) = some name := by
  cases kind : node.kind <;>
    simp [functionOf, Event.function?, Node.wrapper?, kind, Option.map_eq_some_iff]

theorem exists_function?_soundWalk_iff (tidy : view.Tidy) (placed : view.Placed graph.sound)
    (name : String) :
    (∃ event ∈ view.soundWalk graph, event.function? settings = some name) ↔
      ∃ node, view.Involves graph node ∧ view.functionOf settings node = some name := by
  constructor
  · rintro ⟨event, member, called⟩
    cases event with
    | meet owner site node =>
      exact ⟨node, (met_soundWalk_iff tidy placed node).1 ⟨owner, site, member⟩,
        (functionOf_eq_some_iff owner site name).2 (.inl called)⟩
    | complete definition =>
      obtain ⟨node, involved, resolved⟩ := (left_soundWalk_iff tidy placed definition).1 member
      exact ⟨node, involved,
        (functionOf_eq_some_iff graph ⟨none, node.id⟩ name).2 (.inr ⟨definition, resolved, called⟩)⟩
  · rintro ⟨node, involved, called⟩
    obtain ⟨owner, site, met⟩ := (met_soundWalk_iff tidy placed node).2 involved
    rcases (functionOf_eq_some_iff owner site name).1 called with called | ⟨definition, resolved, called⟩
    · exact ⟨_, met, called⟩
    · exact ⟨_, (left_soundWalk_iff tidy placed definition).2 ⟨node, involved, resolved⟩, called⟩

/-- Functions and uniforms are collected on a walk that ends with no more definitions nested than there
are stored handles, and the functions are those that involved nodes call for. -/
structure Enrolled (view : View) (settings : Settings) (graph : ShaderGraph) : Prop where
  ends : ∃ events,
    view.nest (fun node => !node.hasError) view.stored.size [] none graph graph.sound = some events ∧
      (∀ functions, view.generate settings functions graph =
        events.foldl (Event.register view settings) functions) ∧
      view.uniforms graph = (graph.properties.filterMap Property.uniform? ++
        events.flatMap Event.uniforms).foldl Uniforms.add .empty
  names : ∀ name, name ∈ (view.generate settings .empty graph).keys ↔
    ∃ node, view.Involves graph node ∧ view.functionOf settings node = some name

/-- Code generation comes to its end and misses no function, whether or not references form rings. -/
theorem generation_enrolled {assets : Assets} (reached : assets.Reached) {graph : ShaderGraph}
    (current : assets.view.Current graph) (settings : Settings) :
    assets.view.Enrolled settings graph := by
  have coherent := coherent_of_reached reached
  have tidy := current.settled.tidy coherent
  have placed := current.placed coherent fun _ member => mem_values_of_mem_sound member
  refine ⟨⟨_, nest_size_eq_walk tidy placed, fun _ => rfl, rfl⟩, fun name => ?_⟩
  rw [← exists_function?_soundWalk_iff tidy placed]
  refine (assets.view.mem_keys_foldl_register_iff settings .empty _ name).trans ?_
  simp [Keyed.keys, Keyed.empty, soundWalk]

def bodied (id : Guid) (function : String) : Node :=
  Node.make ⟨id⟩ "Call" (.function ⟨"call", function, some "void call() \x7b\x7d", false, .none⟩)

/-- Two definitions that stand inside each other; a function node of one of them is broken. -/
def ringed : Assets :=
  let left := (wrapping 1 "Left" ⟨2, 2⟩).addNode (bodied ⟨1, 2⟩ "tint")
  let right := ((wrapping 2 "Right" ⟨1, 1⟩).addNode (bodied ⟨2, 2⟩ "glow")).addNode
    { bodied ⟨2, 3⟩ "fade" with hasError := true }
  Assets.empty.storeAll [⟨⟨1, 1⟩, "Left", left⟩, ⟨⟨2, 2⟩, "Right", right⟩]

theorem generation_ringed_enrolled :
    let graph := wrapping 3 "Root" ⟨1, 1⟩
    ringed.Reached ∧ ringed.view.Current graph ∧
      (ringed.view.generate .standard .empty graph).keys =
        ["glow", functionName (some ⟨⟨2, 2⟩, "Right", .root ⟨2, 0⟩ "Right"⟩), "tint",
          functionName (some ⟨⟨1, 1⟩, "Left", .root ⟨1, 0⟩ "Left"⟩)] ∧
      ringed.view.Enrolled .standard graph := by
  intro graph
  have reached : ringed.Reached := Assets.Reached.empty.storeAll _
  have current : ringed.view.Current graph := by decide +kernel
  exact ⟨reached, current, by decide +kernel, generation_enrolled reached current .standard⟩

end NodeShader.View

import NodeShader.Project
import NodeShader.Proofs.Binding
import NodeShader.Proofs.Refresh

/-! Projects as they are compiled. The wrappers of the root are refreshed before, those inside the
definitions of the project are left as they were saved; what such a wrapper was saved with and the
definition that it stands for does not have any more is the only thing that emitted code reads without
a declaration. -/
namespace NodeShader

/-- The output of a wrapper that is not an outlet of what it stands for. -/
def ShaderGraph.Outdated (view : View) (graph : ShaderGraph) (cell : Local) : Prop :=
  ∃ node wrapper, graph.node? cell.node = some node ∧ node.hasError = false ∧
    node.kind = .wrapper wrapper ∧ ∀ definition, view.resolve wrapper = some definition →
      ∀ outlet ∈ definition.graph.outputs, outlet.id ≠ cell.slot

/-- What the routine reads is declared before, all but what is lost, which is declared nowhere. -/
structure Routine.ReadsBut (lost : Local → Prop) (routine : Routine) : Prop where
  before : ∀ before block after, routine.blocks = before ++ block :: after →
    ∀ cell ∈ block.read,
      (∃ source ∈ before, source.node = cell.node ∧ (cell ∈ source.declared ↔ ¬ lost cell)) ∧
        ∀ later ∈ block :: after, later.node ≠ cell.node
  nowhere : ∀ cell, lost cell → ∀ block ∈ routine.blocks, cell ∉ block.declared

namespace ShaderGraph
variable {view : View} {graph : ShaderGraph} {settings : Settings}

theorem not_outdated {node : Node} {cell : Local} (known : graph.node? cell.node = some node)
    (whole : node.hasError = true ∨ ∀ wrapper, node.kind ≠ .wrapper wrapper) :
    ¬ graph.Outdated view cell := by
  rintro ⟨_, wrapper, same, sound, kind, _⟩
  cases known.symm.trans same
  rcases whole with broken | other
  · simp [broken] at sound
  · exact other wrapper kind

/-- The code of a node declares each of its outputs that is not outdated, and nothing that is. -/
theorem Saved.mem_declared_iff (saved : graph.Saved) {id : NodeId} {node : Node}
    (known : graph.node? id = some node) (other : ∀ property, node.kind ≠ .reader property)
    {place : SlotId} {slot : Slot} (found : node.slots.get? place = some slot)
    (gives : slot.direction = .output) :
    node.localOf place ∈ (graph.statements view settings node).flatMap Statement.declared ↔
      ¬ graph.Outdated view (node.localOf place) := by
  obtain rfl := saved.outputs id node known place slot found gives
  have here : graph.node? (node.localOf slot.id).node = some node := by
    rw [Node.localOf, saved.nodes id node known]
    exact known
  have listed := mem_outputs_of_get? found gives
  cases broken : node.hasError with
  | true => exact iff_of_true (mem_declared_broken broken listed) (not_outdated here (.inl broken))
  | false =>
    cases kind : node.kind with
    | function call =>
      exact iff_of_true (mem_declared_function broken kind listed)
        (not_outdated here (.inr (by simp [kind])))
    | reader property => exact absurd kind (other property)
    | wrapper wrapper =>
      rw [mem_declared_wrapper_iff broken kind]
      constructor
      · rintro ⟨definition, resolved, outlet, inside, same⟩ ⟨_, _, same', _, wraps, lost⟩
        cases here.symm.trans same'
        cases kind.symm.trans wraps
        exact lost definition resolved outlet inside (congrArg Local.slot same)
      · intro fresh
        by_contra absent
        refine fresh ⟨node, wrapper, here, broken, kind, ?_⟩
        intro definition resolved outlet inside same
        exact absent ⟨definition, resolved, outlet, inside, congrArg node.localOf same⟩
    | output =>
      have takes := saved.outlets id node known kind _ slot found
      simp [takes] at gives

/-- The code of a graph as it was saved reads nothing undeclared but outdated outputs. -/
theorem Saved.routine_readsBut (saved : graph.Saved) (view : View) (settings : Settings)
    (name : String) (withProperties : Bool) :
    (graph.routine view settings name withProperties).ReadsBut (graph.Outdated view) := by
  constructor
  · intro before block after split cell reads
    obtain ⟨⟨source, slot, known, named, other, found, gives, is, earlier⟩, apart⟩ :=
      exists_source_of_read saved.joined saved.ordered saved.nodes split reads
    have declared : cell ∈ (graph.statements view settings source).flatMap Statement.declared ↔
        ¬ graph.Outdated view cell := is ▸ saved.mem_declared_iff known other found gives
    exact ⟨⟨_, earlier, named, declared⟩, apart⟩
  · rintro cell ⟨node, wrapper, known, sound, kind, lost⟩ block inside declared
    obtain ⟨entry, active, rfl⟩ := List.mem_map.1 inside
    have present := Graph.node?_of_mem_active active
    have same : cell.node = entry.1 :=
      (node_of_mem_declared declared).trans (saved.nodes entry.1 entry.2 present)
    rw [same, present] at known
    cases known
    obtain ⟨definition, resolved, outlet, given, rfl⟩ :=
      (mem_declared_wrapper_iff sound kind cell).1 declared
    exact lost definition resolved outlet given rfl

end ShaderGraph

theorem Assets.mem_of_mem_live_storeAll {assets : Assets} {definitions : List Definition}
    {definition : Live} (member : definition ∈ (assets.storeAll definitions).live) :
    definition ∈ assets.live ∨ definition.toDefinition ∈ definitions := by
  induction definitions generalizing assets with
  | nil => exact .inl member
  | cons first rest ih =>
    rcases ih member with here | later
    · rcases List.mem_append.1 (List.mem_filter.1 here).1 with old | new
      · exact .inl old
      · exact .inr (by simp [List.mem_singleton.1 new])
    · exact .inr (List.mem_cons_of_mem _ later)

theorem Scene.compile_eq_ok {view : View} {settings : Settings} {scene : Scene}
    {compiled : Compiled} (ok : (scene.compile view settings).1 = .ok compiled) :
    ∃ flagged, view.compile settings scene.graph = .ok (compiled, flagged) := by
  rw [compile_eq] at ok
  split at ok
  next => contradiction
  next made flagged run =>
    cases ok
    exact ⟨flagged, run⟩

namespace Project

/-- No wrapper inside a definition remembers anything, as when a project is read from a file. -/
def Forgetful (project : Project) : Prop :=
  ∀ definition ∈ project.definitions, ∀ node ∈ definition.graph.nodes.values,
    ∀ wrapper ∈ node.wrapper?, wrapper.cached = none

instance (project : Project) : Decidable project.Forgetful :=
  inferInstanceAs (Decidable (∀ definition ∈ project.definitions,
    ∀ node ∈ definition.graph.nodes.values, ∀ wrapper ∈ node.wrapper?, wrapper.cached = none))

/-- The root and the definitions are graphs as they are saved. -/
structure Saved (project : Project) : Prop where
  root : project.root.Saved
  definitions : ∀ definition ∈ project.definitions, definition.graph.Saved

theorem Saved.of_ready {project : Project} (root : project.root.Ready)
    (definitions : ∀ definition ∈ project.definitions, definition.graph.Ready) : project.Saved :=
  ⟨.of_ready root, fun definition member => .of_ready (definitions definition member)⟩

variable {project : Project} {settings : Settings} {compiled : Compiled}

theorem mem_definitions_of_lookup {handle : Handle} {definition : Live}
    (stored : project.assets.view.lookup handle = some definition) :
    definition.toDefinition ∈ project.definitions :=
  (Assets.mem_of_mem_live_storeAll (View.mem_live_of_lookup stored)).resolve_left (by simp [Assets.empty])

theorem compile_eq_ok (ok : project.compile settings = .ok compiled) :
    ∃ root count flagged, project.root.refreshWrappers project.assets.view = (root, .ok count) ∧
      project.assets.view.compile settings root = .ok (compiled, flagged) := by
  unfold compile at ok
  dsimp only at ok
  split at ok
  next => contradiction
  next root count refreshed =>
    split at ok
    next => contradiction
    next answer after compiles =>
      cases ok
      obtain ⟨flagged, run⟩ := Scene.compile_eq_ok (congrArg Prod.fst compiles)
      exact ⟨root, count, flagged, refreshed, run⟩

end Project

/-- The entry function reads local variables only behind their declarations. So do the functions that
come with it but for outdated outputs of wrappers, which they do not declare at all. -/
structure Compiled.ReadsBut (view : View) (settings : Settings) (root : ShaderGraph)
    (compiled : Compiled) : Prop where
  text : compiled.entry =
    (root.routine view settings settings.entryPoint false).text settings.precision
  entry : (root.routine view settings settings.entryPoint false).ReadsDeclared
  functions : ∀ name body, (name, body) ∈ compiled.functions →
    view.Brings settings root name body ∨ ∃ handle definition,
      view.lookup handle = some definition ∧ name = functionName (some definition.toDefinition) ∧
      body = (definition.graph.routine view settings name true).text settings.precision ∧
      (definition.graph.routine view settings name true).ReadsBut (definition.graph.Outdated view)

/-- A project whose graphs are sound as they were saved compiles to code in which nothing is read
without a declaration but outdated outputs of wrappers inside definitions. -/
theorem Project.compiled_readsBut {project : Project} {settings : Settings} {compiled : Compiled}
    (forgetful : project.Forgetful) (saved : project.Saved)
    (ok : project.compile settings = .ok compiled) :
    let view := project.assets.view
    ∃ root count, project.root.refreshWrappers view = (root, .ok count) ∧
      compiled.ReadsBut view settings (view.flag root) := by
  intro view
  obtain ⟨root, count, flagged, refreshed, run⟩ := compile_eq_ok ok
  have outcome : (project.root.refreshWrappers view).2 = .ok count := by rw [refreshed]
  have same : root = (project.root.refreshWrappers view).1 := by rw [refreshed]
  have current : view.Current root := by
    refine same ▸ View.Current.refreshWrappers ?_ outcome
    intro handle definition stored node member wrapper kind _ remembered _ known
    have nothing := forgetful _ (mem_definitions_of_lookup stored) node member wrapper
      ((node.wrapper?_eq_some_iff wrapper).2 kind)
    simp [nothing] at known
  have sound : root.WellFormed view := same ▸ saved.root.wellFormed_refreshWrappers outcome
  have labelled : root.Labelled := same ▸ saved.root.labelled_refreshWrappers outcome
  refine ⟨root, count, refreshed, ?_⟩
  obtain ⟨report, validated, made⟩ := View.compile_eq_ok run
  obtain rfl := View.eq_flag_of_validate validated
  refine ⟨by rw [made]; rfl, ?_, ?_⟩
  · exact sound.flag.routine_readsDeclared (labelled.flag view) current.flag settings _ false
  · intro name body listed
    refine (brought_or_stored current run listed).imp_right ?_
    rintro ⟨handle, definition, stored, named, text⟩
    have saved := saved.definitions _ (mem_definitions_of_lookup stored)
    exact ⟨handle, definition, stored, named, text, saved.routine_readsBut view settings name true⟩

/-- A definition with one outlet inside another one, whose wrapper was saved when there were two; the
outer definition returns the first or the second of them. -/
def aged (index : Nat) : Project :=
  let withOutlet (number : UInt64) (name : String) : ShaderGraph :=
    (ShaderGraph.subGraph ⟨number, 0⟩ name ⟨⟨number, 9⟩⟩).modifyNode ⟨⟨number, 9⟩⟩ fun node =>
      node.addSlot (Node.outlet 1)
  let wrapper := { Node.make ⟨⟨2, 1⟩⟩ "Sub-graph" (.wrapper (.bound (some ⟨⟨1, 1⟩⟩))) with
    slots := SlotTable.empty.addAll [outletSlot (Node.outlet 1), outletSlot (Node.outlet 2)] }
  let outer := { (withOutlet 2 "Outer").addNode wrapper with
    filed := [(⟨3, 3⟩, ⟨⟨3, 3⟩, ⟨⟨⟨2, 1⟩⟩, .positional index⟩, ⟨⟨⟨2, 9⟩⟩, .positional 1⟩⟩)] }
  { settings := .standard, root := View.wrapping 4 "Root" ⟨⟨2, 2⟩⟩,
    definitions := [⟨⟨⟨1, 1⟩⟩, "Inner", withOutlet 1 "Inner"⟩, ⟨⟨⟨2, 2⟩⟩, "Outer", outer⟩] }

theorem aged_readsBut :
    let project := aged 1
    let view := project.assets.view
    project.Forgetful ∧ project.Saved ∧ ∃ compiled, project.compile .standard = .ok compiled ∧
      compiled.functions.map (·.1) = ["Inner_00000000000000010000000000000000",
        "Outer_00000000000000020000000000000000"] ∧
      ∃ root count, project.root.refreshWrappers view = (root, .ok count) ∧
        compiled.ReadsBut view .standard (view.flag root) := by
  intro project view
  have forgetful : project.Forgetful := by decide +kernel
  have saved : project.Saved := .of_ready (by decide +kernel) (by decide +kernel)
  have answer : (project.compile .standard).map (·.functions.map (·.1)) =
      .ok ["Inner_00000000000000010000000000000000",
        "Outer_00000000000000020000000000000000"] := by decide +kernel
  obtain ⟨compiled, ok, names⟩ := Outcome.map_eq_ok answer
  exact ⟨forgetful, saved, compiled, ok, names, Project.compiled_readsBut forgetful saved ok⟩

/-- The second outlet is gone, and the function of the outer definition reads it nevertheless. -/
theorem aged_readsUndeclared :
    let project := aged 2
    let view := project.assets.view
    project.Forgetful ∧ project.Saved ∧ ∃ compiled, project.compile .standard = .ok compiled ∧
      ∃ handle definition, view.lookup handle = some definition ∧
        let name := functionName (some definition.toDefinition)
        let routine := definition.graph.routine view .standard name true
        (name, routine.text .float) ∈ compiled.functions ∧ ¬ routine.ReadsDeclared := by
  intro project view
  let outer : Live := (view.lookup ⟨⟨2, 2⟩⟩).get (by decide +kernel)
  let name := functionName (some outer.toDefinition)
  let routine := outer.graph.routine view .standard name true
  have answer : (project.compile .standard).map (fun compiled =>
      decide ((name, routine.text .float) ∈ compiled.functions)) = .ok true := by decide +kernel
  obtain ⟨compiled, ok, listed⟩ := Outcome.map_eq_ok answer
  exact ⟨by decide +kernel, .of_ready (by decide +kernel) (by decide +kernel), compiled, ok, _, outer,
    (Option.some_get _).symm, of_decide_eq_true listed, by decide +kernel⟩

end NodeShader

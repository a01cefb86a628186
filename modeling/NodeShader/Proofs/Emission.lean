import NodeShader.Demo
import NodeShader.Proofs.Editing
import NodeShader.Proofs.Readings
import NodeShader.Proofs.Registration

/-! The code that compilation emits. The entry function and the functions of all definitions that
come with it read local variables only behind their declarations; where an id is not the one that
its owner is filed under, they may do otherwise. -/
namespace NodeShader

namespace ShaderGraph
variable {view : View} {graph : ShaderGraph}

theorem offers_flag_iff (view : View) (graph : ShaderGraph) (place : Endpoint)
    (direction : Direction) :
    (view.flag graph).Offers place direction ↔ graph.Offers place direction := by
  simp only [Graph.Offers, view.node?_flag]
  constructor
  · rintro ⟨node, slot, known, found, is⟩
    obtain ⟨before, present, rfl⟩ := Option.map_eq_some_iff.1 known
    exact ⟨before, slot, present, view.flagNode_slots before ▸ found, is⟩
  · rintro ⟨node, slot, known, found, is⟩
    exact ⟨_, slot, Option.map_eq_some_iff.2 ⟨node, known, rfl⟩,
      (view.flagNode_slots node).symm ▸ found, is⟩

theorem WellFormed.flag (sound : graph.WellFormed view) :
    (view.flag graph).WellFormed view := by
  refine ⟨?_, sound.acyclic, ?_, ?_⟩
  · intro connection member
    simp only [offers_flag_iff]
    exact sound.joined connection member
  · intro id node known kind
    obtain ⟨before, present, _, sort, slots⟩ := View.exists_of_node?_flag known
    exact slots ▸ sound.outlets id before present (sort.trans kind)
  · intro id node wrapper known kind
    obtain ⟨before, present, _, sort, slots⟩ := View.exists_of_node?_flag known
    exact slots ▸ sound.derived id before wrapper present (sort.trans kind)

theorem Labelled.flag (view : View) (labelled : graph.Labelled) : (view.flag graph).Labelled := by
  constructor
  · intro id node known
    obtain ⟨before, present, own, _⟩ := View.exists_of_node?_flag known
    exact own ▸ labelled.nodes id before present
  · intro id node call known kind
    obtain ⟨before, present, _, sort, slots⟩ := View.exists_of_node?_flag known
    exact slots ▸ labelled.outputs id before call present (sort.trans kind)

end ShaderGraph

def Event.Provides (view : View) (settings : Settings) (name body : String) : Event → Prop
  | meet _ _ node => ∃ call text, node.kind = .function call ∧ call.body = some text ∧
      name = settings.expand call.function ∧ body = blockText (settings.expand text)
  | complete definition => name = functionName (some definition.toDefinition) ∧
      body = (definition.graph.routine view settings name true).text settings.precision

theorem Functions.mem_entries_provide {functions : Functions} {key name text : String}
    {body : Unit → String} (member : (name, text) ∈ (functions.provide key body).entries) :
    (name, text) ∈ functions.entries ∨ name = key ∧ text = body () := by
  rw [entries_provide] at member
  split at member
  next => exact .inl member
  next => simpa using member

namespace View
variable (view : View) (settings : Settings)

theorem mem_entries_register {functions : Functions} {event : Event} {name body : String}
    (member : (name, body) ∈ (event.register view settings functions).entries) :
    (name, body) ∈ functions.entries ∨ event.Provides view settings name body := by
  cases event with
  | complete definition =>
    rcases Functions.mem_entries_provide member with old | ⟨rfl, rfl⟩
    · exact .inl old
    · exact .inr ⟨rfl, rfl⟩
  | meet owner site node =>
    simp only [Event.register] at member
    split at member
    next call kind =>
      unfold FunctionCall.register at member
      split at member
      next text given =>
        rcases Functions.mem_entries_provide member with old | ⟨rfl, rfl⟩
        · exact .inl old
        · exact .inr ⟨call, text, kind, given, rfl, rfl⟩
      next => exact .inl member
    next => exact .inl member

theorem mem_entries_foldl_register {functions : Functions} {events : List Event}
    {name body : String}
    (member : (name, body) ∈ (events.foldl (Event.register view settings) functions).entries) :
    (name, body) ∈ functions.entries ∨
      ∃ event ∈ events, event.Provides view settings name body := by
  induction events generalizing functions with
  | nil => exact .inl member
  | cons event rest ih =>
    rcases ih member with here | ⟨later, inside, provides⟩
    · rcases view.mem_entries_register settings here with old | provides
      · exact .inl old
      · exact .inr ⟨event, by simp, provides⟩
    · exact .inr ⟨later, by simp [inside], provides⟩

end View

/-- A function that comes with a graph is the text of a function that a node calls, or the function
of a stored definition, which reads local variables only behind their declarations. -/
def View.Supplied (view : View) (settings : Settings) (graph : ShaderGraph) (name body : String) :
    Prop :=
  (∃ owner, (owner = graph ∨ view.Filed owner) ∧ ∃ node ∈ owner.nodes.values, ∃ call text,
    node.kind = .function call ∧ call.body = some text ∧ name = settings.expand call.function ∧
      body = blockText (settings.expand text)) ∨
  ∃ handle definition, view.lookup handle = some definition ∧
    name = functionName (some definition.toDefinition) ∧
    body = (definition.graph.routine view settings name true).text settings.precision ∧
    (definition.graph.routine view settings name true).ReadsDeclared

/-- The entry function of the graph as it was emitted, and the functions that come with it, read
local variables only behind their declarations. -/
structure Compiled.ReadsDeclared (view : View) (settings : Settings) (graph : ShaderGraph)
    (compiled : Compiled) : Prop where
  text : compiled.entry =
    (graph.routine view settings settings.entryPoint false).text settings.precision
  entry : (graph.routine view settings settings.entryPoint false).ReadsDeclared
  functions : ∀ name body, (name, body) ∈ compiled.functions →
    view.Supplied settings graph name body

/-- Well-formed graphs whose nodes and outputs are filed under their own ids compile to code that
reads local variables only behind their declarations. -/
theorem compiled_readsDeclared {view : View} {settings : Settings} {graph flagged : ShaderGraph}
    {compiled : Compiled} (current : view.Current graph) (sound : graph.WellFormed view)
    (labelled : graph.Labelled)
    (stored : ∀ handle definition, view.lookup handle = some definition →
      definition.graph.WellFormed view ∧ definition.graph.Labelled)
    (ok : view.compile settings graph = .ok (compiled, flagged)) :
    compiled.ReadsDeclared view settings flagged := by
  obtain ⟨report, validated, rfl⟩ := View.compile_eq_ok ok
  obtain rfl := View.eq_flag_of_validate validated
  refine ⟨rfl, ?_, ?_⟩
  · exact sound.flag.routine_readsDeclared (labelled.flag view) current.flag settings _ false
  · intro name body member
    rcases view.mem_entries_foldl_register settings member with start | ⟨event, inside, provides⟩
    · simp [Keyed.empty] at start
    · have origin := View.soundWalk_origin current.flag event inside
      cases event with
      | meet owner site node => exact .inl ⟨owner, origin.1, node, origin.2, provides⟩
      | complete definition =>
        obtain ⟨handle, known⟩ := origin
        obtain ⟨named, text⟩ := provides
        obtain ⟨sound, labelled⟩ := stored handle definition known
        have current : view.Current definition.graph :=
          ⟨current.stored handle definition known, current.stored⟩
        exact .inr ⟨handle, definition, known, named, text,
          sound.routine_readsDeclared labelled current settings name true⟩

def demonstration : Project :=
  (Demo.project (.ofSupply fun n => ⟨UInt64.ofNat n, 0⟩)).get (by decide +kernel)

theorem demonstration_readsDeclared :
    let view := demonstration.assets.view
    view.Current demonstration.root ∧ demonstration.root.WellFormed view ∧
      demonstration.root.Labelled ∧
      (∀ handle definition, view.lookup handle = some definition →
        definition.graph.WellFormed view ∧ definition.graph.Labelled) ∧
      ∃ compiled flagged,
        view.compile .standard demonstration.root = .ok (compiled, flagged) ∧
          compiled.ReadsDeclared view .standard flagged := by
  intro view
  have current : view.Current demonstration.root := by decide +kernel
  have sound : demonstration.root.WellFormed view := .of_checked (by decide +kernel)
  have labelled : demonstration.root.Labelled := .of_entries (by decide +kernel)
  have inner : ∀ handle definition, view.lookup handle = some definition →
      definition.graph.Checked view ∧ ∀ entry ∈ definition.graph.nodes.entries,
        entry.2.id = entry.1 ∧ ∀ filed ∈ entry.2.slots.entries, filed.2.id = filed.1 := by
    decide +kernel
  have stored : ∀ handle definition, view.lookup handle = some definition →
      definition.graph.WellFormed view ∧ definition.graph.Labelled :=
    fun handle definition known => ⟨.of_checked (inner handle definition known).1,
      .of_entries (inner handle definition known).2⟩
  have compiles : (view.compile .standard demonstration.root).toBool = true := by decide +kernel
  obtain ⟨⟨compiled, flagged⟩, ok⟩ := Outcome.exists_eq_ok compiles
  exact ⟨current, sound, labelled, stored, compiled, flagged, ok,
    compiled_readsDeclared current sound labelled stored ok⟩

/-- A node whose output is filed under another id than its own feeds a second one. -/
def misfiledOutput : ShaderGraph :=
  let out := Slot.make ⟨2⟩ "Out" "Out" .output .vector4
  let source := { Edit.relay ⟨1, 0⟩ with slots := SlotTable.empty.insert ⟨5⟩ out }
  let graph := ((ShaderGraph.root ⟨9, 0⟩ "Root").addNode source).addNode (Edit.relay ⟨2, 0⟩)
  graph.withGraph { graph.toGraph with
    filed := [(⟨3, 0⟩, ⟨⟨3, 0⟩, ⟨⟨1, 0⟩, ⟨5⟩⟩, ⟨⟨2, 0⟩, ⟨0⟩⟩⟩)] }

/-- Two nodes are filed under the ids of each other, and a third one feeds the last. -/
def misfiledNode : ShaderGraph :=
  { ShaderGraph.root ⟨9, 0⟩ "Root" with
    nodes := .ofList [(⟨1, 0⟩, Edit.relay ⟨3, 0⟩), (⟨2, 0⟩, Edit.relay ⟨2, 0⟩),
      (⟨3, 0⟩, Edit.relay ⟨1, 0⟩)]
    filed := [(⟨4, 0⟩, ⟨⟨4, 0⟩, ⟨⟨2, 0⟩, ⟨1⟩⟩, ⟨⟨3, 0⟩, ⟨0⟩⟩⟩)] }

/-- Well-formed as it is, the graph compiles to an entry function that reads what it has not
declared. -/
def ShaderGraph.ReadsUndeclared (view : View) (graph : ShaderGraph) : Prop :=
  view.Current graph ∧ graph.WellFormed view ∧
    (∀ handle definition, view.lookup handle = some definition →
      definition.graph.WellFormed view) ∧
    ∃ compiled flagged, view.compile .standard graph = .ok (compiled, flagged) ∧
      compiled.entry = (flagged.routine view .standard Settings.standard.entryPoint false).text
        Settings.standard.precision ∧
      ¬ (flagged.routine view .standard Settings.standard.entryPoint false).ReadsDeclared

theorem ShaderGraph.ReadsUndeclared.of_checked {graph : ShaderGraph}
    (current : Assets.empty.view.Current graph) (checked : graph.Checked Assets.empty.view)
    (compiles : (Assets.empty.view.compile .standard graph).toBool = true)
    (undeclared : ¬ ((Assets.empty.view.flag graph).routine Assets.empty.view .standard
      Settings.standard.entryPoint false).ReadsDeclared) :
    graph.ReadsUndeclared Assets.empty.view := by
  refine ⟨current, .of_checked checked, ?_, ?_⟩
  · intro handle definition known
    simp [View.lookup, Assets.view, Assets.empty, Keyed.get?, Keyed.empty] at known
  · obtain ⟨⟨compiled, flagged⟩, ok⟩ := Outcome.exists_eq_ok compiles
    obtain ⟨report, validated, same⟩ := View.compile_eq_ok ok
    obtain rfl := View.eq_flag_of_validate validated
    exact ⟨compiled, _, ok, by rw [same]; rfl, undeclared⟩

theorem misfiled_readsUndeclared :
    misfiledOutput.ReadsUndeclared Assets.empty.view ∧
      misfiledNode.ReadsUndeclared Assets.empty.view :=
  ⟨.of_checked (by decide +kernel) (by decide +kernel) (by decide +kernel) (by decide +kernel),
    .of_checked (by decide +kernel) (by decide +kernel) (by decide +kernel) (by decide +kernel)⟩

end NodeShader

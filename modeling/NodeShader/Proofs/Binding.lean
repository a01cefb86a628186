import NodeShader.Proofs.Defaults
import NodeShader.Proofs.Emission

/-! Uniforms that come with a compiled graph. They are the properties of the graph and the uniforms
that emitted code falls back to, in the entry function or in the function of a definition at any
depth: none of these is missing, and there are no others. -/
namespace NodeShader

namespace Uniforms

theorem entries_add (uniforms : Uniforms) (uniform : Uniform) :
    (uniforms.add uniform).entries =
      if uniform.name ∈ uniforms.keys then uniforms.entries
      else uniforms.entries ++ [(uniform.name, uniform)] :=
  uniforms.entries_insert_unless_contains uniform.name uniform

theorem mem_of_mem_foldl_add {listed : List Uniform} {uniforms : Uniforms}
    {entry : String × Uniform} (member : entry ∈ (listed.foldl add uniforms).entries) :
    entry ∈ uniforms.entries ∨ entry.2 ∈ listed ∧ entry.2.name = entry.1 := by
  induction listed generalizing uniforms with
  | nil => exact .inl member
  | cons uniform rest ih =>
    rcases ih member with here | ⟨later, named⟩
    · rw [entries_add] at here
      split at here
      next => exact .inl here
      next =>
        rcases List.mem_append.1 here with old | new
        · exact .inl old
        · rw [List.mem_singleton.1 new]
          exact .inr ⟨List.mem_cons_self, rfl⟩
    · exact .inr ⟨List.mem_cons_of_mem _ later, named⟩

theorem mem_keys_add_iff (uniforms : Uniforms) (uniform : Uniform) (name : String) :
    name ∈ (uniforms.add uniform).keys ↔ name ∈ uniforms.keys ∨ name = uniform.name := by
  rw [Keyed.keys, entries_add]
  split
  next known =>
    exact ⟨.inl, fun either => either.elim id fun same => same ▸ known⟩
  next => simp [Keyed.keys]

theorem mem_keys_foldl_add {listed : List Uniform} {uniforms : Uniforms} {uniform : Uniform}
    (member : uniform ∈ listed) : uniform.name ∈ (listed.foldl add uniforms).keys := by
  have kept (rest : List Uniform) (uniforms : Uniforms) (known : uniform.name ∈ uniforms.keys) :
      uniform.name ∈ (rest.foldl add uniforms).keys := by
    induction rest generalizing uniforms with
    | nil => exact known
    | cons other rest ih => exact ih _ ((mem_keys_add_iff uniforms other _).2 (.inl known))
  obtain ⟨before, after, rfl⟩ := List.append_of_mem member
  rw [List.foldl_append, List.foldl_cons]
  exact kept after _ ((mem_keys_add_iff _ uniform _).2 (.inr rfl))

end Uniforms

namespace View

theorem mem_of_mem_uniforms {view : View} {graph : ShaderGraph} {uniform : Uniform}
    (member : uniform ∈ (view.uniforms graph).values) :
    (∃ property ∈ graph.properties, property.uniform? = some uniform) ∨
      ∃ owner site node, Event.meet owner site node ∈ view.soundWalk graph ∧
        uniform ∈ owner.slotUniforms node := by
  obtain ⟨entry, filed, rfl⟩ := List.mem_map.1 member
  rcases Uniforms.mem_of_mem_foldl_add filed with start | ⟨listed, _⟩
  · simp [Keyed.empty] at start
  · rcases List.mem_append.1 listed with exposed | collected
    · exact .inl (List.mem_filterMap.1 exposed)
    · obtain ⟨event, inside, given⟩ := List.mem_flatMap.1 collected
      cases event with
      | meet owner site node => exact .inr ⟨owner, site, node, inside, given⟩
      | complete => simp [Event.uniforms] at given

theorem exists_uniform_of_meet {view : View} {graph owner : ShaderGraph} {site : Site} {node : Node}
    (met : Event.meet owner site node ∈ view.soundWalk graph) {name : String}
    (collected : name ∈ (owner.slotUniforms node).map Uniform.name) :
    ∃ uniform ∈ (view.uniforms graph).values, uniform.name = name := by
  obtain ⟨uniform, given, rfl⟩ := List.mem_map.1 collected
  have listed : uniform.name ∈ (view.uniforms graph).keys :=
    Uniforms.mem_keys_foldl_add
      (List.mem_append_right _ (List.mem_flatMap.2 ⟨_, met, given⟩))
  obtain ⟨⟨key, other⟩, filed, rfl⟩ := List.mem_map.1 listed
  rcases Uniforms.mem_of_mem_foldl_add filed with start | ⟨_, named⟩
  · simp [Keyed.empty] at start
  · exact ⟨other, List.mem_map.2 ⟨_, filed, rfl⟩, named⟩

theorem function?_of_provides {view : View} {settings : Settings} {name body : String}
    {event : Event} (provides : event.Provides view settings name body) :
    event.function? settings = some name := by
  cases event with
  | meet owner site node =>
    obtain ⟨call, text, kind, given, rfl, _⟩ := provides
    simp [Event.function?, kind, given]
  | complete definition => exact congrArg some provides.1.symm

/-- The function of a stored definition is registered when the walk has left the definition, and no
other text is registered under its name. -/
theorem mem_generate_iff {view : View} {settings : Settings} {graph : ShaderGraph}
    (distinct : view.Distinct) (current : view.Current graph)
    (apart : view.NamesApart settings graph) {handle : Handle} {definition : Live}
    (stored : view.lookup handle = some definition) (body : String) :
    let name := functionName (some definition.toDefinition)
    (name, body) ∈ (view.generate settings .empty graph).entries ↔
      .complete definition ∈ view.soundWalk graph ∧
        body = (definition.graph.routine view settings name true).text settings.precision := by
  intro name
  have written (body : String)
      (listed : (name, body) ∈ (view.generate settings .empty graph).entries) :
      .complete definition ∈ view.soundWalk graph ∧
        body = (definition.graph.routine view settings name true).text settings.precision := by
    rcases view.mem_entries_foldl_register settings listed with start | ⟨event, inside, provides⟩
    · simp [Keyed.empty] at start
    · obtain rfl := eq_complete_of_function? distinct apart (soundWalk_origin current event inside)
        stored (function?_of_provides provides)
      exact ⟨inside, provides.2⟩
  refine ⟨written body, ?_⟩
  rintro ⟨left, rfl⟩
  have named : name ∈ (view.generate settings .empty graph).keys :=
    (view.mem_keys_foldl_register_iff settings .empty _ name).2 (.inr ⟨_, left, rfl⟩)
  obtain ⟨⟨_, other⟩, listed, rfl⟩ := List.mem_map.1 named
  -- Something stands under the name, and it can be nothing else.
  rwa [← (written other listed).2]

end View

namespace ShaderGraph

theorem Wired.flag {view : View} {graph : ShaderGraph} (wired : graph.Wired view) :
    (view.flag graph).Wired view := by
  refine ⟨?_, ?_, ?_, ?_⟩
  · intro connection member
    simp only [offers_flag_iff]
    exact wired.joined connection member
  · intro id node property known kind
    obtain ⟨before, present, _, sort, slots⟩ := View.exists_of_node?_flag known
    exact slots ▸ wired.readers id before property present (sort.trans kind)
  · intro id node known kind
    obtain ⟨before, present, _, sort, slots⟩ := View.exists_of_node?_flag known
    exact slots ▸ wired.outlets id before present (sort.trans kind)
  · intro id node wrapper known kind
    obtain ⟨before, present, _, sort, slots⟩ := View.exists_of_node?_flag known
    exact slots ▸ wired.derived id before wrapper present (sort.trans kind)

theorem InputsFiled.flag (view : View) {graph : ShaderGraph} (filed : graph.InputsFiled) :
    (view.flag graph).InputsFiled := by
  intro id node known other
  obtain ⟨before, present, _, sort, slots⟩ := View.exists_of_node?_flag known
  rw [Node.wrapper?, ← sort] at other
  exact slots ▸ filed id before present other

/-- The function of a graph passes exactly the uniforms that are collected for its sound nodes. -/
theorem Wired.mem_routine_uniforms_iff {view : View} {graph : ShaderGraph}
    (wired : graph.Wired view) (filed : graph.InputsFiled) (current : view.Current graph)
    (settings : Settings) (function : String) (withProperties : Bool) (name : String) :
    name ∈ (graph.routine view settings function withProperties).uniforms ↔
      ∃ entry ∈ graph.sound, name ∈ (graph.slotUniforms entry.2).map Uniform.name := by
  have passes (entry : NodeId × Node) (active : entry ∈ graph.active) :=
    wired.mem_uniforms_iff filed current settings (Graph.node?_of_mem_active active)
  rw [Routine.uniforms, Routine.statements, routine, List.flatMap_map, List.flatMap_assoc,
    List.mem_flatMap]
  constructor
  · rintro ⟨entry, active, passed⟩
    cases sound : entry.2.hasError with
    | true => simp [statements, sound, uniforms_errorStatements] at passed
    | false =>
      exact ⟨entry, List.mem_filter.2 ⟨active, by simp [sound]⟩,
        (passes entry active sound name).1 passed⟩
  · rintro ⟨entry, listed, collected⟩
    obtain ⟨active, sound⟩ := List.mem_filter.1 listed
    exact ⟨entry, active, (passes entry active (by simpa using sound) name).2 collected⟩

end ShaderGraph

/-- The graph or a definition, with the function that was written for it: the entry function, or one
that comes with the compiled graph. -/
inductive Compiled.Emits (view : View) (settings : Settings) (root : ShaderGraph)
    (compiled : Compiled) : ShaderGraph → Routine → Prop where
  | entry (written : compiled.entry =
      (root.routine view settings settings.entryPoint false).text settings.precision) :
    Emits view settings root compiled root (root.routine view settings settings.entryPoint false)
  | definition {handle : Handle} {definition : Live}
      (stored : view.lookup handle = some definition)
      (listed : (functionName (some definition.toDefinition),
        (definition.graph.routine view settings (functionName (some definition.toDefinition))
          true).text settings.precision) ∈ compiled.functions) :
    Emits view settings root compiled definition.graph
      (definition.graph.routine view settings (functionName (some definition.toDefinition)) true)

section
variable {assets : Assets} {settings : Settings} {graph flagged : ShaderGraph} {compiled : Compiled}

theorem soundWalk_of_compile (reached : assets.Reached) (current : assets.view.Current graph)
    (ok : assets.view.compile settings graph = .ok (compiled, flagged)) :
    ∃ report, flagged = assets.view.flag graph ∧
      compiled = { (assets.view.emit settings .empty report flagged).1 with
        functions := (assets.view.generate settings .empty flagged).entries } ∧
      assets.view.InsideFirst (assets.view.soundWalk flagged) ∧
      ∀ entry ∈ flagged.sound,
        assets.view.Covered (assets.view.soundWalk flagged) flagged entry.2 := by
  obtain ⟨report, validated, made⟩ := View.compile_eq_ok ok
  obtain rfl := View.eq_flag_of_validate validated
  have coherent := View.coherent_of_reached reached
  exact ⟨report, rfl, made,
    View.soundWalk_insideFirst coherent current (View.answered_of_validate validated)⟩

/-- An emitted function is made of nodes that the walk of code generation met. -/
theorem exists_meet_of_emits (reached : assets.Reached) (distinct : assets.view.Distinct)
    (current : assets.view.Current graph) (apart : assets.view.NamesApart settings graph)
    (ok : assets.view.compile settings graph = .ok (compiled, flagged)) {owner : ShaderGraph}
    {routine : Routine} (emits : compiled.Emits assets.view settings flagged owner routine) :
    ∀ entry ∈ owner.sound, ∃ site, .meet owner site entry.2 ∈ assets.view.soundWalk flagged := by
  obtain ⟨report, rfl, rfl, first, covered⟩ := soundWalk_of_compile reached current ok
  intro entry listed
  cases emits with
  | entry => exact (covered entry listed).1
  | definition known registers =>
    obtain ⟨left, _⟩ := (View.mem_generate_iff distinct current.flag apart.flag known _).1 registers
    exact (first.prepared left entry (List.mem_filter.1 listed).1).1

/-- Each node that the walk met is a sound one of a graph whose function was emitted. -/
theorem exists_emits_of_meet (reached : assets.Reached) (distinct : assets.view.Distinct)
    (current : assets.view.Current graph) (apart : assets.view.NamesApart settings graph)
    (ok : assets.view.compile settings graph = .ok (compiled, flagged)) {owner : ShaderGraph}
    {site : Site} {node : Node} (met : .meet owner site node ∈ assets.view.soundWalk flagged) :
    (∃ routine, compiled.Emits assets.view settings flagged owner routine) ∧
      ∃ entry ∈ owner.sound, entry.2 = node := by
  obtain ⟨report, rfl, rfl, first, covered⟩ := soundWalk_of_compile reached current ok
  rcases View.walk_traced _ met with
    ⟨rfl, entry, listed, rfl⟩ | ⟨entry, listed, definition, unfolds, rfl, below⟩
  · exact ⟨⟨_, .entry rfl⟩, entry, listed, rfl⟩
  · obtain ⟨inside, active, rfl, sound⟩ := below
    -- The walk has left the definition that the node is in, which registers its function.
    have left := first.complete_of_unfolds (covered entry listed) unfolds
    obtain ⟨handle, known⟩ := View.soundWalk_origin current.flag _ left
    have registers :=
      (View.mem_generate_iff distinct current.flag apart.flag known _).2 ⟨left, rfl⟩
    exact ⟨⟨_, .definition known registers⟩, inside, List.mem_filter.2 ⟨active, sound⟩, rfl⟩

theorem Compiled.Emits.mem_uniforms_iff {view : View} {root owner : ShaderGraph}
    {routine : Routine} (emits : compiled.Emits view settings root owner routine)
    (current : view.Current root) (wired : root.Wired view) (filed : root.InputsFiled)
    (stored : ∀ handle definition, view.lookup handle = some definition →
      definition.graph.Wired view ∧ definition.graph.InputsFiled) (name : String) :
    name ∈ routine.uniforms ↔
      ∃ entry ∈ owner.sound, name ∈ (owner.slotUniforms entry.2).map Uniform.name := by
  cases emits with
  | entry => exact wired.mem_routine_uniforms_iff filed current settings _ false name
  | definition known =>
    obtain ⟨wired, filed⟩ := stored _ _ known
    exact wired.mem_routine_uniforms_iff filed (current.of_lookup known) settings _ true name

/-- A function node of the graph or of a stored definition brings its own text along. -/
def View.Brings (view : View) (settings : Settings) (root : ShaderGraph) (name body : String) :
    Prop :=
  ∃ owner, (owner = root ∨ view.Filed owner) ∧ ∃ node ∈ owner.nodes.values, ∃ call text,
    node.kind = .function call ∧ call.body = some text ∧ name = settings.expand call.function ∧
      body = blockText (settings.expand text)

theorem brought_or_stored (current : assets.view.Current graph)
    (ok : assets.view.compile settings graph = .ok (compiled, flagged)) {name body : String}
    (listed : (name, body) ∈ compiled.functions) :
    assets.view.Brings settings flagged name body ∨
      ∃ handle definition, assets.view.lookup handle = some definition ∧
        name = functionName (some definition.toDefinition) ∧
        body = (definition.graph.routine assets.view settings name true).text
          settings.precision := by
  obtain ⟨report, validated, rfl⟩ := View.compile_eq_ok ok
  obtain rfl := View.eq_flag_of_validate validated
  rcases assets.view.mem_entries_foldl_register settings listed with
    start | ⟨event, inside, provides⟩
  · simp [Keyed.empty] at start
  · have origin := View.soundWalk_origin current.flag event inside
    cases event with
    | meet owner site node => exact .inl ⟨owner, origin.1, node, origin.2, provides⟩
    | complete definition =>
      obtain ⟨handle, known⟩ := origin
      exact .inr ⟨handle, definition, known, provides⟩

theorem brought_or_emitted (current : assets.view.Current graph)
    (ok : assets.view.compile settings graph = .ok (compiled, flagged)) {name body : String}
    (listed : (name, body) ∈ compiled.functions) :
    assets.view.Brings settings flagged name body ∨ ∃ owner routine,
      compiled.Emits assets.view settings flagged owner routine ∧ routine.name = name ∧
        routine.text settings.precision = body := by
  rcases brought_or_stored current ok listed with brings | ⟨handle, definition, known, rfl, rfl⟩
  · exact .inl brings
  · exact .inr ⟨definition.graph, _, .definition known listed, rfl, rfl⟩

/-- The uniforms of a compiled graph are those that its code needs: each one that an emitted function
passes because a texture is not fed is among them, and each one of them is a property of the graph or
the default of such a texture. -/
structure Compiled.Binds (view : View) (settings : Settings) (root : ShaderGraph)
    (compiled : Compiled) : Prop where
  entry : compiled.entry =
    (root.routine view settings settings.entryPoint false).text settings.precision
  functions : ∀ name body, (name, body) ∈ compiled.functions →
    view.Brings settings root name body ∨ ∃ owner routine,
      compiled.Emits view settings root owner routine ∧ routine.name = name ∧
        routine.text settings.precision = body
  bound : ∀ owner routine, compiled.Emits view settings root owner routine →
    ∀ name ∈ routine.uniforms, ∃ uniform ∈ compiled.properties, uniform.name = name
  needed : ∀ uniform ∈ compiled.properties,
    (∃ property ∈ root.properties, property.uniform? = some uniform) ∨
      ∃ owner routine, compiled.Emits view settings root owner routine ∧
        uniform.name ∈ routine.uniforms ∧
          ∃ entry ∈ owner.sound, uniform ∈ owner.slotUniforms entry.2

/-- Properly wired graphs whose inputs are filed under their own ids compile to code that comes with
exactly the uniforms that it needs. -/
theorem compiled_binds (reached : assets.Reached) (distinct : assets.view.Distinct)
    (current : assets.view.Current graph) (apart : assets.view.NamesApart settings graph)
    (wired : graph.Wired assets.view) (filed : graph.InputsFiled)
    (stored : ∀ handle definition, assets.view.lookup handle = some definition →
      definition.graph.Wired assets.view ∧ definition.graph.InputsFiled)
    (ok : assets.view.compile settings graph = .ok (compiled, flagged)) :
    compiled.Binds assets.view settings flagged := by
  obtain ⟨report, validated, made⟩ := View.compile_eq_ok ok
  obtain rfl := View.eq_flag_of_validate validated
  have properties : compiled.properties = (assets.view.uniforms (assets.view.flag graph)).values := by
    rw [made]
    rfl
  have passes {owner : ShaderGraph} {routine : Routine}
      (emits : compiled.Emits assets.view settings (assets.view.flag graph) owner routine) :=
    emits.mem_uniforms_iff current.flag wired.flag (filed.flag assets.view) stored
  refine ⟨by rw [made]; rfl, fun _ _ listed => brought_or_emitted current ok listed, ?_, ?_⟩
  · intro owner routine emits name passed
    obtain ⟨entry, listed, collected⟩ := (passes emits name).1 passed
    obtain ⟨site, met⟩ := exists_meet_of_emits reached distinct current apart ok emits entry listed
    exact properties ▸ View.exists_uniform_of_meet met collected
  · intro uniform member
    rw [properties] at member
    rcases View.mem_of_mem_uniforms member with exposed | ⟨owner, site, node, met, collected⟩
    · exact .inl exposed
    · obtain ⟨⟨routine, emits⟩, entry, listed, rfl⟩ :=
        exists_emits_of_meet reached distinct current apart ok met
      have named : uniform.name ∈ (owner.slotUniforms entry.2).map Uniform.name :=
        List.mem_map.2 ⟨uniform, collected, rfl⟩
      exact .inr ⟨owner, routine, emits, (passes emits _).2 ⟨entry, listed, named⟩, entry, listed,
        collected⟩

end

def sampling (id : Guid) (inputs : List Slot) : Node :=
  { Node.make ⟨id⟩ "Mix" (.function ⟨"mix", "mix", none, false, .none⟩) with
    slots := (Slot.make (.positional 9) "Out" "Out" .output .vector4 :: inputs).foldl SlotTable.add
      .empty }

def textureInput (index : Nat) (name : String) : Slot :=
  Slot.make (.positional index) name name .input .texture2D

/-- A definition with a node that takes one texture from a property and misses another one. -/
def blend : Definition :=
  let base : Property := ⟨⟨5, 0⟩, "Base", "Base", .texture none⟩
  let reader := { Node.make ⟨3, 0⟩ "Base" (.reader base.guid) with
    slots := SlotTable.empty.add (Slot.make (.positional 0) "Base" "Out" .output .texture2D) }
  let nodes := [(Node.outputNode ⟨2, 0⟩).addSlot (Node.outlet 1), reader,
    sampling ⟨4, 0⟩ [textureInput 0 "Base", textureInput 1 "Mask"]]
  { handle := ⟨6, 0⟩, name := "Blend",
    graph := { nodes.foldl ShaderGraph.addNode (.subGraph ⟨1, 0⟩ "Blend" ⟨2, 0⟩) with
      properties := [base]
      filed := [(⟨10, 0⟩, ⟨⟨10, 0⟩, ⟨⟨3, 0⟩, .positional 0⟩, ⟨⟨4, 0⟩, .positional 0⟩⟩),
        (⟨11, 0⟩, ⟨⟨11, 0⟩, ⟨⟨4, 0⟩, .positional 9⟩, ⟨⟨2, 0⟩, .positional 1⟩⟩)] } }

def blending : ShaderGraph :=
  let wrapper := Node.make ⟨7, 0⟩ "Layer" (.wrapper (.bound (some ⟨6, 0⟩)))
  { (ShaderGraph.root ⟨8, 0⟩ "Root").addNode (wrapper.refresh (Assets.empty.store blend).view).1 with
    properties := [⟨⟨9, 0⟩, "Tint", "Tint", .color (.replicate 4 .zero)⟩] }

theorem blending_binds :
    let assets := Assets.empty.store blend
    let view := assets.view
    assets.Reached ∧ view.Distinct ∧ view.Current blending ∧ view.NamesApart .standard blending ∧
      blending.Wired view ∧ blending.InputsFiled ∧
      (∀ handle definition, view.lookup handle = some definition →
        definition.graph.Wired view ∧ definition.graph.InputsFiled) ∧
      ∃ compiled flagged, view.compile .standard blending = .ok (compiled, flagged) ∧
        compiled.properties.map Uniform.name =
          ["Tint", "_Layer_00000000_Base", "_Mix_00000000_Mask"] ∧
        compiled.Binds view .standard flagged := by
  intro assets view
  have reached : assets.Reached := .store .empty blend
  have distinct : view.Distinct := by decide +kernel
  have current : view.Current blending := by decide +kernel
  have apart : view.NamesApart .standard blending := by decide +kernel
  have wired : blending.Wired view := .of_checked (by decide +kernel) (by decide +kernel)
  have filed : blending.InputsFiled := .of_entries (by decide +kernel)
  have inner : ∀ handle definition, view.lookup handle = some definition →
      (∀ connection ∈ definition.graph.connections, definition.graph.joins connection = true) ∧
        ∀ node ∈ definition.graph.nodes.values, definition.graph.nodeWired view node = true ∧
          ∀ filed ∈ node.slots.entries, filed.2.id = filed.1 := by
    decide +kernel
  have stored : ∀ handle definition, view.lookup handle = some definition →
      definition.graph.Wired view ∧ definition.graph.InputsFiled := by
    intro handle definition known
    obtain ⟨joins, nodes⟩ := inner handle definition known
    exact ⟨.of_checked joins fun node member => (nodes node member).1,
      .of_entries fun node member => (nodes node member).2⟩
  have answer : (view.compile .standard blending).map (·.1.properties.map Uniform.name) =
      .ok ["Tint", "_Layer_00000000_Base", "_Mix_00000000_Mask"] := by decide +kernel
  obtain ⟨⟨compiled, flagged⟩, ok, names⟩ := Outcome.map_eq_ok answer
  exact ⟨reached, distinct, current, apart, wired, filed, stored, compiled, flagged, ok, names,
    compiled_binds reached distinct current apart wired filed stored ok⟩

/-- A node whose one input is filed under another id than its own. -/
def misfiledInput : ShaderGraph :=
  let node := sampling ⟨16, 0⟩ []
  (ShaderGraph.root ⟨9, 0⟩ "Root").addNode
    { node with slots := node.slots.insert (.positional 5) (textureInput 2 "Tex") }

/-- The uniform that is collected for such an input is one that nothing passes. -/
theorem misfiledInput_not_binds :
    let view := Assets.empty.view
    Assets.empty.Reached ∧ view.Distinct ∧ view.Current misfiledInput ∧
      view.NamesApart .standard misfiledInput ∧ misfiledInput.Wired view ∧
      (∀ handle definition, view.lookup handle = some definition → definition.graph.Wired view) ∧
      ∃ compiled flagged, view.compile .standard misfiledInput = .ok (compiled, flagged) ∧
        compiled.properties.map Uniform.name = ["_Mix_00000000_Slot2"] ∧
        ¬ compiled.Binds view .standard flagged := by
  intro view
  have empty (handle : Handle) : view.lookup handle = none := rfl
  have wired : misfiledInput.Wired view := .of_checked (by decide +kernel) (by decide +kernel)
  have answer : (view.compile .standard misfiledInput).map (·.1.properties.map Uniform.name) =
      .ok ["_Mix_00000000_Slot2"] := by decide +kernel
  obtain ⟨⟨compiled, flagged⟩, ok, names⟩ := Outcome.map_eq_ok answer
  refine ⟨.empty, by decide +kernel, by decide +kernel, by decide +kernel, wired, ?_, compiled,
    flagged, ok, names, ?_⟩
  · intro handle definition known
    simp [empty] at known
  · intro binds
    obtain ⟨report, validated, _⟩ := View.compile_eq_ok ok
    obtain rfl := View.eq_flag_of_validate validated
    obtain ⟨uniform, member, _⟩ := List.exists_of_mem_map (names ▸ List.mem_singleton.2 rfl)
    rcases binds.needed uniform member with ⟨property, exposed, _⟩ | ⟨_, _, emits, passed, _⟩
    · simp [View.flag, ShaderGraph.withGraph, misfiledInput, ShaderGraph.addNode,
        ShaderGraph.root] at exposed
    · cases emits with
      | entry =>
        have silent : ((view.flag misfiledInput).routine view .standard
            Settings.standard.entryPoint false).uniforms = [] := by decide +kernel
        simp [silent] at passed
      | definition known => simp [empty] at known

end NodeShader

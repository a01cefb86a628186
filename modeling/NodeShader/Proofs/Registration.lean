import NodeShader.Compile
import NodeShader.Proofs.Digits
import NodeShader.Proofs.Expansion

/-! Which functions come with a compiled graph, and in which order. A name enters the table at the
first event that calls for it; the names of definitions tell them apart, so that the first call for
one is the first time it is left, when all inside it has been called for. -/
namespace NodeShader

theorem functionName_inj {definition other : Definition}
    (same : functionName (some definition) = functionName (some other)) :
    definition.graph.guid = other.graph.guid := Guid.eq_of_append_simple same

/-- The function that the code of a node calls and that has to come with it. -/
def View.functionOf (view : View) (settings : Settings) (node : Node) : Option String :=
  match node.kind with
  | .function call => call.body.map fun _ => settings.expand call.function
  | .wrapper wrapper =>
    (view.resolve wrapper).map fun definition => functionName (some definition.toDefinition)
  | _ => none

def Event.function? (settings : Settings) : Event → Option String
  | meet _ _ node =>
    match node.kind with
    | .function call => call.body.map fun _ => settings.expand call.function
    | _ => none
  | complete definition => some (functionName (some definition.toDefinition))

namespace Functions

theorem entries_provide (functions : Functions) (name : String) (body : Unit → String) :
    (functions.provide name body).entries =
      if name ∈ functions.keys then functions.entries
      else functions.entries ++ [(name, body ())] :=
  functions.entries_insert_unless_contains name (body ())

theorem keys_provide (functions : Functions) (name : String) (body : Unit → String) :
    (functions.provide name body).keys =
      if name ∈ functions.keys then functions.keys else functions.keys ++ [name] := by
  rw [Keyed.keys, entries_provide, apply_ite (List.map Prod.fst), List.map_append]
  rfl

end Functions

namespace View
variable (view : View) (settings : Settings)

theorem keys_register (functions : Functions) (event : Event) :
    (event.register view settings functions).keys =
      match event.function? settings with
      | none => functions.keys
      | some name => if name ∈ functions.keys then functions.keys else functions.keys ++ [name] := by
  cases event with
  | complete definition => exact functions.keys_provide _ _
  | meet owner site node =>
    simp only [Event.register, Event.function?]
    cases node.kind with
    | function call =>
      cases body : call.body with
      | none => simp [FunctionCall.register, body]
      | some text => simpa [FunctionCall.register, body] using functions.keys_provide _ _
    | _ => rfl

theorem keys_foldl_register (functions : Functions) (events : List Event) :
    functions.keys <+: (events.foldl (Event.register view settings) functions).keys := by
  induction events generalizing functions with
  | nil => exact List.prefix_refl _
  | cons event rest ih =>
    refine List.IsPrefix.trans ?_ (ih _)
    rw [keys_register]
    split
    next => exact List.prefix_refl _
    next =>
      split
      next => exact List.prefix_refl _
      next => exact List.prefix_append _ _

theorem mem_keys_foldl_register_iff (functions : Functions) (events : List Event) (name : String) :
    name ∈ (events.foldl (Event.register view settings) functions).keys ↔
      name ∈ functions.keys ∨ ∃ event ∈ events, event.function? settings = some name := by
  induction events generalizing functions with
  | nil => simp
  | cons event rest ih =>
    have here : name ∈ (event.register view settings functions).keys ↔
        name ∈ functions.keys ∨ event.function? settings = some name := by
      rw [keys_register]
      split
      next silent => simp [silent]
      next other called =>
        split <;> grind
    rw [List.foldl_cons, ih, here]
    simp [or_assoc]

/-- A name that only the second of two events calls for comes later than one called for before. -/
theorem sublist_keys_foldl_register {before after : List Event} {event : Event}
    {first second : String}
    (called : ∃ earlier ∈ before, earlier.function? settings = some first)
    (named : event.function? settings = some second)
    (fresh : ∀ earlier ∈ before, earlier.function? settings ≠ some second) :
    [first, second].Sublist
      ((before ++ event :: after).foldl (Event.register view settings) .empty).keys := by
  rw [List.foldl_append, List.foldl_cons]
  have known : first ∈ (before.foldl (Event.register view settings) .empty).keys :=
    (view.mem_keys_foldl_register_iff settings .empty before first).2 (.inr called)
  have absent : second ∉ (before.foldl (Event.register view settings) .empty).keys := by
    rw [mem_keys_foldl_register_iff]
    rintro (inside | ⟨earlier, member, same⟩)
    · simp [Keyed.keys, Keyed.empty] at inside
    · exact fresh earlier member same
  refine List.Sublist.trans ?_ (view.keys_foldl_register settings _ after).sublist
  rw [keys_register, named]
  simp only [if_neg absent]
  exact (List.singleton_sublist.2 known).append (List.Sublist.refl [second])

end View

namespace View

/-- The name of no function that the node calls is generated for a stored definition. -/
def NodeApart (view : View) (settings : Settings) (node : Node) : Prop :=
  ∀ call, node.kind = .function call → ∀ handle definition,
    view.lookup handle = some definition →
      settings.expand call.function ≠ functionName (some definition.toDefinition)

structure NamesApart (view : View) (settings : Settings) (graph : ShaderGraph) : Prop where
  here : ∀ node ∈ graph.nodes.values, view.NodeApart settings node
  stored : ∀ handle definition, view.lookup handle = some definition →
    ∀ node ∈ definition.graph.nodes.values, view.NodeApart settings node

instance (view : View) (settings : Settings) (node : Node) :
    Decidable (view.NodeApart settings node) :=
  match kind : node.kind with
  | .function call =>
    decidable_of_iff (∀ handle definition, view.lookup handle = some definition →
        settings.expand call.function ≠ functionName (some definition.toDefinition))
      ⟨fun apart other same => by cases kind.symm.trans same; exact apart,
        fun apart => apart call kind⟩
  | .reader _ | .wrapper _ | .output => .isTrue fun call same => by simp [kind] at same

instance (view : View) (settings : Settings) (graph : ShaderGraph) :
    Decidable (view.NamesApart settings graph) :=
  decidable_of_iff
    ((∀ node ∈ graph.nodes.values, view.NodeApart settings node) ∧
      ∀ handle definition, view.lookup handle = some definition →
        ∀ node ∈ definition.graph.nodes.values, view.NodeApart settings node)
    ⟨fun apart => ⟨apart.1, apart.2⟩, fun apart => ⟨apart.here, apart.stored⟩⟩

theorem NamesApart.flag {view : View} {settings : Settings} {graph : ShaderGraph}
    (apart : view.NamesApart settings graph) : view.NamesApart settings (view.flag graph) := by
  refine ⟨?_, apart.stored⟩
  intro node member call kind
  rw [values_flag] at member
  obtain ⟨before, known, rfl⟩ := List.mem_map.1 member
  exact apart.here before known call (view.flagNode_kind before ▸ kind)

theorem exists_called_of_covered {view : View} {settings : Settings} {events : List Event}
    {graph : ShaderGraph} {node : Node} {name : String} (covered : view.Covered events graph node)
    (called : view.functionOf settings node = some name) :
    ∃ event ∈ events, event.function? settings = some name := by
  obtain ⟨⟨site, met⟩, left⟩ := covered
  unfold functionOf at called
  split at called
  next call kind => exact ⟨_, met, by simpa [Event.function?, kind] using called⟩
  next wrapper kind =>
    obtain ⟨definition, resolved, rfl⟩ := Option.map_eq_some_iff.1 called
    have found : node.wrapper?.bind view.resolve = some definition := by
      rw [(node.wrapper?_eq_some_iff wrapper).2 kind]
      exact resolved
    exact ⟨_, left definition found, rfl⟩
  next => contradiction

theorem eq_complete_of_function? {view : View} {settings : Settings} {graph : ShaderGraph}
    (distinct : view.Distinct) (apart : view.NamesApart settings graph) {event : Event}
    (origin : view.Origin graph event) {handle : Handle} {definition : Live}
    (stored : view.lookup handle = some definition)
    (called : event.function? settings = some (functionName (some definition.toDefinition))) :
    event = .complete definition := by
  cases event with
  | meet owner site node =>
    obtain ⟨is, member⟩ := origin
    have clear : view.NodeApart settings node := by
      rcases is with rfl | ⟨other, inner, filed, rfl⟩
      · exact apart.here node member
      · exact apart.stored other inner filed node member
    simp only [Event.function?] at called
    split at called
    next call kind =>
      obtain ⟨_, _, same⟩ := Option.map_eq_some_iff.1 called
      exact absurd same (clear call kind handle definition stored)
    next => contradiction
  | complete other =>
    obtain ⟨otherHandle, otherStored⟩ := origin
    have same := functionName_inj (Option.some.inj called)
    rw [distinct.eq_of_guid otherStored stored same]

theorem compile_eq_ok {view : View} {settings : Settings} {graph flagged : ShaderGraph}
    {compiled : Compiled} (ok : view.compile settings graph = .ok (compiled, flagged)) :
    ∃ report, view.validate graph = .ok (report, flagged) ∧
      compiled = { (view.emit settings .empty report flagged).1 with
        functions := (view.generate settings .empty flagged).entries } := by
  obtain ⟨⟨_, _, _⟩, inner, last⟩ := Outcome.bind_eq_ok ok
  obtain ⟨⟨report, _⟩, validated, emitted⟩ := Outcome.bind_eq_ok inner
  cases emitted
  cases last
  exact ⟨report, validated, rfl⟩

/-- Names differ, every sound node of the graph finds the function that it calls, and the function of
a definition stands behind all functions that the active nodes inside it call, for definitions at
every depth below the sound nodes. -/
structure InOrder (view : View) (settings : Settings) (graph : ShaderGraph)
    (names : List String) : Prop where
  distinct : names.Nodup
  called : ∀ entry ∈ graph.sound, ∀ name, view.functionOf settings entry.2 = some name →
    name ∈ names
  inside : ∀ entry ∈ graph.sound, ∀ outer, entry.2.wrapper?.bind view.resolve = some outer →
    ∀ definition, definition = outer ∨ Reaches view.Expands outer.graph definition →
      ∀ inner ∈ definition.graph.active, ∀ name, view.functionOf settings inner.2 = some name →
        [name, functionName (some definition.toDefinition)].Sublist names

/-- The functions that come with a compiled graph are all that it needs, in the order in which they
need each other. -/
theorem functions_inOrder {assets : Assets} (reached : assets.Reached) {settings : Settings}
    {graph flagged : ShaderGraph} {compiled : Compiled} (distinct : assets.view.Distinct)
    (current : assets.view.Current graph) (apart : assets.view.NamesApart settings graph)
    (ok : assets.view.compile settings graph = .ok (compiled, flagged)) :
    assets.view.InOrder settings flagged (compiled.functions.map (·.1)) := by
  obtain ⟨report, validated, rfl⟩ := compile_eq_ok ok
  obtain ⟨safe, same⟩ := validate_eq_ok distinct current validated
  obtain rfl := (Prod.mk.inj same).2
  have coherent : assets.view.Coherent := fun handle definition => reached.handle_of_lookup
  obtain ⟨first, covered⟩ := soundWalk_insideFirst coherent current (safe.answered current)
  have origin := soundWalk_origin current.flag
  refine ⟨(assets.view.generate settings .empty _).distinct, ?_, ?_⟩
  · intro entry member name called
    exact (assets.view.mem_keys_foldl_register_iff settings .empty _ name).2
      (.inr (exists_called_of_covered (covered entry member) called))
  · intro entry member outer resolved definition path inner active name called
    have left : .complete definition ∈ assets.view.soundWalk (assets.view.flag graph) := by
      have outerLeft := (covered entry member).2 outer resolved
      rcases path with rfl | path
      · exact outerLeft
      · exact first.complete_of_reaches outerLeft path
    obtain ⟨handle, stored⟩ := origin _ left
    -- The first event that calls for the function of the definition is a time it is left.
    let calls (event : Event) : Bool :=
      event.function? settings = some (functionName (some definition.toDefinition))
    have exists_ : ((assets.view.soundWalk (assets.view.flag graph)).find? calls).isSome :=
      List.find?_isSome.2 ⟨_, left, by simp [calls, Event.function?]⟩
    obtain ⟨event, found⟩ := Option.isSome_iff_exists.1 exists_
    obtain ⟨holds, before, after, split, fresh⟩ := List.find?_eq_some_iff_append.1 found
    have named := of_decide_eq_true holds
    have here : event ∈ assets.view.soundWalk (assets.view.flag graph) := by simp [split]
    obtain rfl := eq_complete_of_function? distinct apart.flag (origin event here) stored named
    have prepared := first before definition after split inner active
    rw [View.generate, split]
    exact assets.view.sublist_keys_foldl_register settings
      (exists_called_of_covered prepared called) named
      fun earlier member => by simpa [calls] using fresh earlier member

def stacked : Assets :=
  let call : FunctionCall := ⟨"call", "call", some "void call() \x7b\x7d", false, .none⟩
  Assets.empty.storeAll
    [⟨⟨1, 1⟩, "Inner", (ShaderGraph.root ⟨1, 0⟩ "Inner").addNode
        (Node.make ⟨1, 1⟩ "Call" (.function call))⟩,
      ⟨⟨2, 2⟩, "Outer", wrapping 2 "Outer" ⟨1, 1⟩⟩]

theorem functions_stacked_inOrder :
    let graph := (wrapping 3 "Root" ⟨2, 2⟩).addNode
      (Node.make ⟨3, 2⟩ "Sub-graph" (.wrapper (.bound (some ⟨1, 1⟩))))
    stacked.Reached ∧ stacked.view.Distinct ∧ stacked.view.Current graph ∧
      stacked.view.NamesApart .standard graph ∧
      ∃ compiled flagged, stacked.view.compile .standard graph = .ok (compiled, flagged) ∧
        stacked.view.InOrder .standard flagged (compiled.functions.map (·.1)) := by
  intro graph
  have reached : stacked.Reached := Assets.Reached.empty.storeAll _
  have distinct : stacked.view.Distinct := by decide +kernel
  have current : stacked.view.Current graph := by decide +kernel
  have apart : stacked.view.NamesApart .standard graph := by decide +kernel
  have compiles : (stacked.view.compile .standard graph).toBool = true := by decide +kernel
  obtain ⟨⟨compiled, flagged⟩, ok⟩ := Outcome.exists_eq_ok compiles
  exact ⟨reached, distinct, current, apart, compiled, flagged, ok,
    functions_inOrder reached distinct current apart ok⟩

end View
end NodeShader

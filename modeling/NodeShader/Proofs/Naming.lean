import NodeShader.Proofs.Binding

/-! Functions that are called by name. A name is made of the name of a definition and the id of its
graph, while wrappers tell definitions apart by handle, and the first text under a name stays. Where
only unchanged copies share both parts, whatever code calls is the function of the definition that it
means; a changed copy that kept both is given the function of another one. -/
namespace NodeShader

theorem functionName_parts {definition other : Definition}
    (same : functionName (some definition) = functionName (some other)) :
    Text.identifier definition.name = Text.identifier other.name ∧
      definition.graph.guid = other.graph.guid := by
  have id := functionName_inj same
  refine ⟨?_, id⟩
  simp only [functionName, id] at same
  have chars := congrArg String.toList same
  simp only [String.toList_append] at chars
  exact String.toList_inj.1 (List.append_cancel_right (List.append_cancel_right chars))

def Statement.callee? : Statement → Option String
  | .call function _ => some function
  | _ => none

namespace View

/-- Stored definitions that share the id of their graph and what is seen of their name are copies of
one graph. -/
def Recognisable (view : View) : Prop :=
  ∀ handle definition, view.lookup handle = some definition →
    ∀ otherHandle other, view.lookup otherHandle = some other →
      Text.identifier definition.name = Text.identifier other.name →
        definition.graph.guid = other.graph.guid → definition.graph = other.graph

instance (view : View) : Decidable view.Recognisable :=
  inferInstanceAs (Decidable (∀ handle definition, view.lookup handle = some definition →
    ∀ otherHandle other, view.lookup otherHandle = some other →
      Text.identifier definition.name = Text.identifier other.name →
        definition.graph.guid = other.graph.guid → definition.graph = other.graph))

/-- The text of the function that a definition becomes. -/
def ownText (view : View) (settings : Settings) (definition : Live) : String :=
  (definition.graph.routine view settings (functionName (some definition.toDefinition)) true).text
    settings.precision

/-- The code of an active wrapper in the graph, which stands for the definition, calls the function
of it. -/
def CallsFor (view : View) (settings : Settings) (graph : ShaderGraph) (definition : Live) : Prop :=
  ∃ entry ∈ graph.active, entry.2.wrapper?.bind view.resolve = some definition ∧
    ∃ statement ∈ graph.statements view settings entry.2,
      statement.callee? = some (functionName (some definition.toDefinition))

instance (view : View) (settings : Settings) (graph : ShaderGraph) (definition : Live) :
    Decidable (view.CallsFor settings graph definition) :=
  inferInstanceAs (Decidable (∃ entry ∈ graph.active,
    entry.2.wrapper?.bind view.resolve = some definition ∧
      ∃ statement ∈ graph.statements view settings entry.2,
        statement.callee? = some (functionName (some definition.toDefinition))))

variable {view : View} {settings : Settings}

theorem Recognisable.graph_eq (recognisable : view.Recognisable) {handle otherHandle : Handle}
    {definition other : Live} (stored : view.lookup handle = some definition)
    (otherStored : view.lookup otherHandle = some other)
    (same : functionName (some definition.toDefinition) =
      functionName (some other.toDefinition)) : definition.graph = other.graph := by
  obtain ⟨name, id⟩ := functionName_parts same
  exact recognisable handle definition stored otherHandle other otherStored name id

theorem CallsFor.sound {graph : ShaderGraph} {definition : Live}
    (calls : view.CallsFor settings graph definition) :
    ∃ entry ∈ graph.sound, entry.2.wrapper?.bind view.resolve = some definition := by
  obtain ⟨entry, active, resolved, statement, written, called⟩ := calls
  refine ⟨entry, List.mem_filter.2 ⟨active, ?_⟩, resolved⟩
  cases broken : entry.2.hasError with
  | false => rfl
  | true =>
    -- The code of a broken node is a remark and zeros.
    simp only [ShaderGraph.statements, broken, if_true, ShaderGraph.errorStatements,
      List.mem_cons, List.mem_map] at written
    rcases written with rfl | ⟨slot, _, rfl⟩ <;> contradiction

/-- What stands under the name of a stored definition was written for one with the same graph, which
the walk has left. -/
theorem exists_left_of_listed {graph : ShaderGraph} (recognisable : view.Recognisable)
    (current : view.Current graph) (apart : view.NamesApart settings graph) {handle : Handle}
    {definition : Live} (stored : view.lookup handle = some definition) {body : String}
    (listed : (functionName (some definition.toDefinition), body) ∈
      (view.generate settings .empty graph).entries) :
    body = view.ownText settings definition ∧
      ∃ other, .complete other ∈ view.soundWalk graph ∧ other.graph = definition.graph := by
  rcases view.mem_entries_foldl_register settings listed with start | ⟨event, inside, provides⟩
  · simp [Keyed.empty] at start
  · have origin := soundWalk_origin current event inside
    cases event with
    | meet owner site node =>
      obtain ⟨call, _, kind, _, named, _⟩ := provides
      obtain ⟨is, member⟩ := origin
      have clear : view.NodeApart settings node := by
        rcases is with rfl | ⟨other, inner, filed, rfl⟩
        · exact apart.here node member
        · exact apart.stored other inner filed node member
      exact absurd named.symm (clear call kind handle definition stored)
    | complete other =>
      obtain ⟨otherHandle, otherStored⟩ := origin
      obtain ⟨named, written⟩ := provides
      have same := recognisable.graph_eq otherStored stored named.symm
      exact ⟨by rw [written, same]; rfl, other, inside, same⟩

/-- A definition that the walk has left is the one whose function stands under its name. -/
theorem listed_iff_of_left {graph : ShaderGraph} (recognisable : view.Recognisable)
    (current : view.Current graph) (apart : view.NamesApart settings graph) {definition : Live}
    (left : .complete definition ∈ view.soundWalk graph) (body : String) :
    (functionName (some definition.toDefinition), body) ∈
        (view.generate settings .empty graph).entries ↔
      body = view.ownText settings definition := by
  obtain ⟨handle, stored⟩ := soundWalk_origin current _ left
  have written (body : String) (listed : (functionName (some definition.toDefinition), body) ∈
      (view.generate settings .empty graph).entries) : body = view.ownText settings definition :=
    (exists_left_of_listed recognisable current apart stored listed).1
  refine ⟨written body, ?_⟩
  rintro rfl
  have named : functionName (some definition.toDefinition) ∈
      (view.generate settings .empty graph).keys :=
    (view.mem_keys_foldl_register_iff settings .empty _ _).2 (.inr ⟨_, left, rfl⟩)
  obtain ⟨⟨_, other⟩, listed, rfl⟩ := List.mem_map.1 named
  rwa [← written other listed]

end View

/-- Under each name that the entry function or the function of a definition calls for a wrapper stands
the function of the definition that this wrapper means and nothing else. -/
structure Compiled.CallsOwn (view : View) (settings : Settings) (root : ShaderGraph)
    (compiled : Compiled) : Prop where
  entry : compiled.entry =
    (root.routine view settings settings.entryPoint false).text settings.precision
  functions : ∀ name body, (name, body) ∈ compiled.functions →
    view.Brings settings root name body ∨ ∃ owner routine,
      compiled.Emits view settings root owner routine ∧ routine.name = name ∧
        routine.text settings.precision = body
  called : ∀ owner routine, compiled.Emits view settings root owner routine →
    ∀ definition, view.CallsFor settings owner definition → ∀ body,
      (functionName (some definition.toDefinition), body) ∈ compiled.functions ↔
        body = view.ownText settings definition
  apart : ∀ owner routine, compiled.Emits view settings root owner routine →
    ∀ otherOwner otherRoutine, compiled.Emits view settings root otherOwner otherRoutine →
      ∀ definition other, view.CallsFor settings owner definition →
        view.CallsFor settings otherOwner other →
          view.ownText settings definition ≠ view.ownText settings other →
            functionName (some definition.toDefinition) ≠ functionName (some other.toDefinition)

section
variable {assets : Assets} {settings : Settings} {graph flagged : ShaderGraph} {compiled : Compiled}

/-- What emitted code calls was left by the walk of code generation. -/
theorem left_of_callsFor (reached : assets.Reached) (recognisable : assets.view.Recognisable)
    (current : assets.view.Current graph) (apart : assets.view.NamesApart settings graph)
    (ok : assets.view.compile settings graph = .ok (compiled, flagged)) {owner : ShaderGraph}
    {routine : Routine} (emits : compiled.Emits assets.view settings flagged owner routine)
    {definition : Live} (calls : assets.view.CallsFor settings owner definition) :
    .complete definition ∈ assets.view.soundWalk flagged := by
  obtain ⟨report, rfl, rfl, first, covered⟩ := soundWalk_of_compile reached current ok
  obtain ⟨entry, sound, resolved⟩ := calls.sound
  cases emits with
  | entry => exact (covered entry sound).2 definition resolved
  | definition stored listed =>
    obtain ⟨_, outer, left, same⟩ := View.exists_left_of_listed recognisable current.flag apart.flag
      stored listed
    have active : entry ∈ outer.graph.active := same ▸ (List.mem_filter.1 sound).1
    exact (first.prepared left entry active).2 definition resolved

/-- Where only unchanged copies share the id of their graph and a name, and no function node is named
like a definition, code calls what it means. -/
theorem compiled_callsOwn (reached : assets.Reached) (recognisable : assets.view.Recognisable)
    (current : assets.view.Current graph) (apart : assets.view.NamesApart settings graph)
    (ok : assets.view.compile settings graph = .ok (compiled, flagged)) :
    compiled.CallsOwn assets.view settings flagged := by
  have called {owner : ShaderGraph} {routine : Routine}
      (emits : compiled.Emits assets.view settings flagged owner routine) {definition : Live}
      (calls : assets.view.CallsFor settings owner definition) (body : String) :
      (functionName (some definition.toDefinition), body) ∈ compiled.functions ↔
        body = assets.view.ownText settings definition := by
    have left := left_of_callsFor reached recognisable current apart ok emits calls
    obtain ⟨report, validated, rfl⟩ := View.compile_eq_ok ok
    obtain rfl := View.eq_flag_of_validate validated
    exact View.listed_iff_of_left recognisable current.flag apart.flag left body
  refine ⟨?_, fun _ _ listed => brought_or_emitted current ok listed,
    fun _ _ emits _ calls => called emits calls, ?_⟩
  · obtain ⟨report, validated, rfl⟩ := View.compile_eq_ok ok
    obtain rfl := View.eq_flag_of_validate validated
    rfl
  · intro owner routine emits otherOwner otherRoutine otherEmits definition other calls otherCalls
      different same
    have listed := (called emits calls _).2 rfl
    exact different ((called otherEmits otherCalls _).1 (same ▸ listed))

end

/-- A graph that is stored twice under one name, the second time perhaps changed, and one more
definition with a wrapper of the second. -/
def doubled (change : ShaderGraph → ShaderGraph) : Assets :=
  let noise := ShaderGraph.root ⟨1, 0⟩ "Noise"
  Assets.empty.storeAll
    [⟨⟨1, 1⟩, "Noise", noise⟩, ⟨⟨2, 2⟩, "Noise", change noise⟩,
      ⟨⟨3, 3⟩, "Outer", View.wrapping 2 "Outer" ⟨2, 2⟩⟩]

theorem doubled_callsOwn :
    let assets := doubled id
    let graph := (View.wrapping 3 "Root" ⟨1, 1⟩).addNode
      (Node.make ⟨3, 2⟩ "Sub-graph" (.wrapper (.bound (some ⟨3, 3⟩))))
    assets.Reached ∧ assets.view.Recognisable ∧ assets.view.Current graph ∧
      assets.view.NamesApart .standard graph ∧
      ∃ compiled flagged, assets.view.compile .standard graph = .ok (compiled, flagged) ∧
        compiled.functions.map (·.1) = ["Noise_00000000000000010000000000000000",
          "Outer_00000000000000020000000000000000"] ∧
        compiled.CallsOwn assets.view .standard flagged := by
  intro assets graph
  have reached : assets.Reached := Assets.Reached.empty.storeAll _
  have recognisable : assets.view.Recognisable := by decide +kernel
  have current : assets.view.Current graph := by decide +kernel
  have apart : assets.view.NamesApart .standard graph := by decide +kernel
  have answer : (assets.view.compile .standard graph).map (·.1.functions.map (·.1)) =
      .ok ["Noise_00000000000000010000000000000000",
        "Outer_00000000000000020000000000000000"] := by decide +kernel
  obtain ⟨⟨compiled, flagged⟩, ok, names⟩ := Outcome.map_eq_ok answer
  exact ⟨reached, recognisable, current, apart, compiled, flagged, ok, names,
    compiled_callsOwn reached recognisable current apart ok⟩

/-- Compiled with nothing remembered, the entry function calls for a definition what is not the
function of it. -/
def Assets.Confuses (assets : Assets) (graph : ShaderGraph) (definition : Live) (body : String) :
    Prop :=
  assets.Reached ∧ assets.view.Fresh graph ∧
    ∃ compiled flagged, assets.view.compile .standard graph = .ok (compiled, flagged) ∧
      assets.view.CallsFor .standard flagged definition ∧
      (functionName (some definition.toDefinition), body) ∈ compiled.functions ∧
      body ≠ assets.view.ownText .standard definition ∧
      ¬ compiled.CallsOwn assets.view .standard flagged

theorem Assets.Confuses.of_compile {assets : Assets} {graph : ShaderGraph} {definition : Live}
    {body : String} (reached : assets.Reached) (fresh : assets.view.Fresh graph)
    (answer : ((assets.view.compile .standard graph).map fun result =>
      decide ((functionName (some definition.toDefinition), body) ∈ result.1.functions)) = .ok true)
    (different : body ≠ assets.view.ownText .standard definition)
    (calls : assets.view.CallsFor .standard (assets.view.flag graph) definition) :
    assets.Confuses graph definition body := by
  obtain ⟨⟨compiled, flagged⟩, ok, listed⟩ := Outcome.map_eq_ok answer
  have listed := of_decide_eq_true listed
  obtain ⟨report, validated, made⟩ := View.compile_eq_ok ok
  obtain rfl := View.eq_flag_of_validate validated
  refine ⟨reached, fresh, compiled, _, ok, calls, listed, different, ?_⟩
  intro own
  exact different ((own.called _ _ (.entry own.entry) definition calls body).1 listed)

def altered (noise : ShaderGraph) : ShaderGraph :=
  { noise with properties := [⟨⟨4, 0⟩, "Scale", "Scale", .float .zero⟩] }

/-- A copy that got a property of its own and kept name and id is called by the name of the original,
and so is a function node that happens to be named like it. -/
theorem doubled_confuses :
    let noise := ShaderGraph.root ⟨1, 0⟩ "Noise"
    let original : Live := ⟨⟨⟨1, 1⟩, "Noise", noise⟩, 0⟩
    let copy : Live := ⟨⟨⟨2, 2⟩, "Noise", altered noise⟩, 1⟩
    let root := (View.wrapping 3 "Root" ⟨1, 1⟩).addNode
      (Node.make ⟨3, 2⟩ "Sub-graph" (.wrapper (.bound (some ⟨2, 2⟩))))
    let call : FunctionCall := ⟨"custom", functionName (some original.toDefinition),
      some "void own() \x7b\x7d", false, .none⟩
    let named := ((ShaderGraph.root ⟨3, 0⟩ "Root").addNode
      (Node.make ⟨3, 2⟩ "Call" (.function call))).addNode
      (Node.make ⟨3, 1⟩ "Sub-graph" (.wrapper (.bound (some ⟨1, 1⟩))))
    (doubled altered).Confuses root copy
        ((doubled altered).view.ownText .standard original) ∧
      (doubled id).Confuses named original (blockText "void own() \x7b\x7d") := by
  intro noise original copy root call named
  exact ⟨.of_compile (Assets.Reached.empty.storeAll _) (by decide +kernel) (by decide +kernel)
      (by decide +kernel) (by decide +kernel),
    .of_compile (Assets.Reached.empty.storeAll _) (by decide +kernel) (by decide +kernel)
      (by decide +kernel) (by decide +kernel)⟩

end NodeShader

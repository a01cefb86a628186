import NodeShader.Proofs.Sharing

/-! Two graphs compiled into one table, one after the other. In which order does not matter for what
the table holds, which is what comes out of the two by themselves; and in either order the function of a
definition stands behind all functions that are called for inside it, whichever graph brought them. -/
namespace NodeShader

namespace View

/-- Behind the name of each definition that is there, at every depth inside it, no function is missing
and none comes later. -/
def Layered (view : View) (settings : Settings) (names : List String) : Prop :=
  ∀ handle outer, view.lookup handle = some outer →
    functionName (some outer.toDefinition) ∈ names →
      ∀ definition, definition = outer ∨ Reaches view.Expands outer.graph definition →
        ∀ entry ∈ definition.graph.active, ∀ name, view.functionOf settings entry.2 = some name →
          [name, functionName (some outer.toDefinition)].Sublist names

theorem InsideFirst.earlier {view : View} {before after : List Event}
    (first : view.InsideFirst (before ++ after)) : view.InsideFirst before := by
  intro front definition rest same
  exact first front definition (rest ++ after) (by simp [same])

/-- Events that leave definitions inside first register functions in layers, if the name of a definition
stands for nothing else. -/
theorem layered_of_insideFirst {view : View} {settings : Settings} {events : List Event}
    (first : view.InsideFirst events)
    (own : ∀ handle definition, view.lookup handle = some definition → ∀ event ∈ events,
      event.function? settings = some (functionName (some definition.toDefinition)) →
        event = .complete definition) :
    view.Layered settings (events.foldl (Event.register view settings) .empty).keys := by
  intro handle outer stored listed definition path entry active name called
  have registered : ∃ event ∈ events,
      event.function? settings = some (functionName (some outer.toDefinition)) := by
    rcases (view.mem_keys_foldl_register_iff settings .empty events _).1 listed with start | found
    · simp [Keyed.keys, Keyed.empty] at start
    · exact found
  -- The first event that calls for the function of the definition is a time it is left.
  let calls (event : Event) : Bool :=
    event.function? settings = some (functionName (some outer.toDefinition))
  have exists_ : (events.find? calls).isSome := by
    obtain ⟨event, inside, same⟩ := registered
    exact List.find?_isSome.2 ⟨event, inside, by simp [calls, same]⟩
  obtain ⟨event, found⟩ := Option.isSome_iff_exists.1 exists_
  obtain ⟨holds, before, after, rfl, fresh⟩ := List.find?_eq_some_iff_append.1 found
  have named := of_decide_eq_true holds
  obtain rfl := own handle outer stored event (by simp) named
  have prepared : view.Prepared before outer := first before outer after rfl
  have inside : view.Prepared before definition := by
    rcases path with rfl | path
    · exact prepared
    · rcases path.cases_head with direct | ⟨between, direct, deeper⟩
      · obtain ⟨wrapper, known, resolved⟩ := direct
        exact first.earlier.prepared ((prepared wrapper known).2 definition resolved)
      · obtain ⟨wrapper, known, resolved⟩ := direct
        have left := (prepared wrapper known).2 between resolved
        exact first.earlier.prepared (first.earlier.complete_of_reaches left deeper)
  exact view.sublist_keys_foldl_register settings
    (exists_called_of_covered (inside entry active) called) named
    fun earlier member => by simpa [calls] using fresh earlier member

theorem Distinct.recognisable {view : View} (distinct : view.Distinct) : view.Recognisable :=
  fun handle definition stored otherHandle other otherStored _ same =>
    distinct.consistent handle definition stored otherHandle other otherStored same

end View

namespace Pass

theorem run_layered {assets : Assets} (reached : assets.Reached) (distinct : assets.view.Distinct)
    {settings : Settings} {passes : List Pass} (common : ∀ pass ∈ passes, pass.settings = settings)
    (current : ∀ pass ∈ passes, assets.view.Current pass.graph)
    (apart : ∀ pass ∈ passes, assets.view.NamesApart pass.settings pass.graph)
    (valid : ∀ pass ∈ passes, ∃ answer, assets.view.validate pass.graph = .ok answer) :
    assets.view.Layered settings (run assets passes).functions.keys := by
  have coherent := View.coherent_of_reached reached
  let walk (pass : Pass) : List Event := assets.view.soundWalk (assets.view.flag pass.graph)
  have offered : passes.flatMap (offers assets.view) =
      (passes.flatMap walk).filterMap (Event.offer assets.view settings) := by
    rw [List.filterMap_flatMap]
    refine List.flatMap_congr fun pass member => ?_
    obtain ⟨⟨report, flagged⟩, validated⟩ := valid pass member
    rw [offers_eq validated, common pass member]
    rfl
  have first : assets.view.InsideFirst (passes.flatMap walk) := by
    refine .flatMap fun pass member => ?_
    obtain ⟨answer, validated⟩ := valid pass member
    exact (View.soundWalk_insideFirst coherent (current pass member)
      (View.answered_of_validate validated)).1
  rw [(run_eq current).2, offered, ← View.foldl_register_eq_provideAll]
  apply View.layered_of_insideFirst first
  intro handle definition stored event inside called
  obtain ⟨pass, member, inside⟩ := List.mem_flatMap.1 inside
  have clear : assets.view.NamesApart settings (assets.view.flag pass.graph) :=
    common pass member ▸ (apart pass member).flag
  exact View.eq_complete_of_function? distinct clear
    (View.soundWalk_origin (current pass member).flag event inside) stored called

theorem mem_functions_iff {view : View} (recognisable : view.Recognisable) {pass : Pass}
    (current : view.Current pass.graph) (apart : view.NamesApart pass.settings pass.graph)
    (agrees : pass.Agrees view pass) {compiled : Compiled} {flagged : ShaderGraph}
    (ok : view.compile pass.settings pass.graph = .ok (compiled, flagged))
    (function : String × String) : function ∈ compiled.functions ↔ function ∈ pass.offers view := by
  obtain ⟨report, validated, rfl⟩ := View.compile_eq_ok ok
  rw [offers_eq validated, ← View.eq_flag_of_validate validated]
  rw [View.generate_eq_provideAll]
  apply Functions.mem_provideAll_iff
  rw [View.eq_flag_of_validate validated, ← offers_eq validated]
  exact offers_agree recognisable current current apart apart agrees

end Pass

/-- The table finds a text under a name if one of two lists has it there, and only then. -/
def Functions.Unites (functions : Functions) (first second : List (String × String)) : Prop :=
  ∀ name text, functions.get? name = some text ↔ (name, text) ∈ first ∨ (name, text) ∈ second

theorem Pass.run_unites {assets : Assets} (recognisable : assets.view.Recognisable)
    {first second : Pass}
    (current : ∀ pass ∈ [first, second], assets.view.Current pass.graph)
    (apart : ∀ pass ∈ [first, second], assets.view.NamesApart pass.settings pass.graph)
    (agree : ∀ pass ∈ [first, second], ∀ other ∈ [first, second], pass.Agrees assets.view other)
    {compiled other : Compiled} {flagged otherFlagged : ShaderGraph}
    (ok : assets.view.compile first.settings first.graph = .ok (compiled, flagged))
    (otherOk : assets.view.compile second.settings second.graph = .ok (other, otherFlagged)) :
    (run assets [first, second]).functions.Unites compiled.functions other.functions := by
  intro name text
  have inFirst : first ∈ [first, second] := by simp
  have inSecond : second ∈ [first, second] := by simp
  rw [Keyed.get?_eq_some_iff, mem_run_iff recognisable current apart agree,
    mem_functions_iff recognisable (current first inFirst) (apart first inFirst)
      (agree first inFirst first inFirst) ok,
    mem_functions_iff recognisable (current second inSecond) (apart second inSecond)
      (agree second inSecond second inSecond) otherOk]
  simp

theorem Functions.Unites.comm {functions : Functions} {first second : List (String × String)}
    (unites : functions.Unites first second) : functions.Unites second first :=
  fun name text => (unites name text).trans or_comm

theorem Functions.Unites.get?_eq {functions others : Functions} {first second : List (String × String)}
    (unites : functions.Unites first second) (same : others.Unites first second) :
    functions.get? = others.get? := by
  funext name
  exact Option.ext fun text => (unites name text).trans (same name text).symm

/-- What is left in a table by two graphs, compiled forth and back: under each name there is what there
would be without the other graph, and functions stand behind all that they need. -/
structure Commute (view : View) (settings : Settings) (compiled other : Compiled)
    (forth back : Functions) : Prop where
  same : forth.get? = back.get?
  union : forth.Unites compiled.functions other.functions
  forth : view.Layered settings forth.keys
  back : view.Layered settings back.keys

/-- The functions that nodes bring along in one of two passes. -/
def Pass.textsOfBoth (view : View) (settings : Settings) (first second : ShaderGraph) :
    List (String × String) :=
  texts view ⟨settings, first⟩ ++ texts view ⟨settings, second⟩

/-- Two graphs that compile leave one and the same table in either order, if stored definitions have ids
of their own and a name stands for one function that nodes bring along and for none of a definition. -/
theorem passes_commute {assets : Assets} (reached : assets.Reached) (distinct : assets.view.Distinct)
    {settings : Settings} {first second : ShaderGraph} (current : assets.view.Current first)
    (otherCurrent : assets.view.Current second) (apart : assets.view.NamesApart settings first)
    (otherApart : assets.view.NamesApart settings second)
    (agree : ∀ text ∈ Pass.textsOfBoth assets.view settings first second,
      ∀ other ∈ Pass.textsOfBoth assets.view settings first second,
        text.1 = other.1 → text.2 = other.2)
    {compiled other : Compiled} {flagged otherFlagged : ShaderGraph}
    (ok : assets.view.compile settings first = .ok (compiled, flagged))
    (otherOk : assets.view.compile settings second = .ok (other, otherFlagged)) :
    Commute assets.view settings compiled other
      (Pass.run assets [⟨settings, first⟩, ⟨settings, second⟩]).functions
      (Pass.run assets [⟨settings, second⟩, ⟨settings, first⟩]).functions := by
  let passes : List Pass := [⟨settings, first⟩, ⟨settings, second⟩]
  let turned : List Pass := [⟨settings, second⟩, ⟨settings, first⟩]
  have turn : ∀ pass ∈ turned, pass ∈ passes := by simp [turned, passes]
  have common : ∀ pass ∈ passes, pass.settings = settings := by simp [passes]
  have current : ∀ pass ∈ passes, assets.view.Current pass.graph := by
    simpa [passes] using And.intro current otherCurrent
  have apart : ∀ pass ∈ passes, assets.view.NamesApart pass.settings pass.graph := by
    simpa [passes] using And.intro apart otherApart
  have listed : ∀ pass ∈ passes, ∀ text ∈ pass.texts assets.view,
      text ∈ Pass.textsOfBoth assets.view settings first second := by
    intro pass member text inside
    rcases List.mem_pair.1 member with rfl | rfl
    · exact List.mem_append_left _ inside
    · exact List.mem_append_right _ inside
  have agrees : ∀ pass ∈ passes, ∀ other ∈ passes, pass.Agrees assets.view other := by
    intro pass member other otherMember
    constructor
    · intro text inside otherText otherInside
      exact agree text (listed pass member text inside) otherText
        (listed other otherMember otherText otherInside)
    · intro _ _
      rw [common pass member, common other otherMember]
      rfl
  have valid : ∀ pass ∈ passes, ∃ answer, assets.view.validate pass.graph = .ok answer := by
    intro pass member
    rcases List.mem_pair.1 member with rfl | rfl
    · obtain ⟨report, validated, _⟩ := View.compile_eq_ok ok
      exact ⟨_, validated⟩
    · obtain ⟨report, validated, _⟩ := View.compile_eq_ok otherOk
      exact ⟨_, validated⟩
  have forth := Pass.run_unites distinct.recognisable current apart agrees ok otherOk
  have back := Pass.run_unites distinct.recognisable
    (fun pass member => current pass (turn pass member))
    (fun pass member => apart pass (turn pass member))
    (fun pass member other otherMember =>
      agrees pass (turn pass member) other (turn other otherMember)) otherOk ok
  exact ⟨forth.get?_eq back.comm, forth, Pass.run_layered reached distinct common current apart valid,
    Pass.run_layered reached distinct (fun pass member => common pass (turn pass member))
      (fun pass member => current pass (turn pass member))
      (fun pass member => apart pass (turn pass member))
      fun pass member => valid pass (turn pass member)⟩

/-- Both graphs call one definition, each beside another function, and the first one also what is inside
that definition. -/
theorem stacked_passes_commute :
    let call : FunctionCall := ⟨"last", "last", some "void last() \x7b\x7d", false, .none⟩
    let first := (View.wrapping 3 "First" ⟨1, 1⟩).addNode
      (Node.make ⟨3, 2⟩ "Sub-graph" (.wrapper (.bound (some ⟨2, 2⟩))))
    let second := ((ShaderGraph.root ⟨4, 0⟩ "Second").addNode
      (Node.make ⟨4, 1⟩ "Last" (.function call))).addNode
      (Node.make ⟨4, 2⟩ "Sub-graph" (.wrapper (.bound (some ⟨2, 2⟩))))
    let view := View.stacked.view
    let texts := Pass.textsOfBoth view .standard first second
    let forth := (Pass.run View.stacked [⟨.standard, first⟩, ⟨.standard, second⟩]).functions
    let back := (Pass.run View.stacked [⟨.standard, second⟩, ⟨.standard, first⟩]).functions
    View.stacked.Reached ∧ view.Distinct ∧ view.Current first ∧ view.Current second ∧
      view.NamesApart .standard first ∧ view.NamesApart .standard second ∧
      (∀ text ∈ texts, ∀ other ∈ texts, text.1 = other.1 → text.2 = other.2) ∧
      (forth.keys, back.keys) =
        (["call", "Inner_00000000000000010000000000000000",
            "Outer_00000000000000020000000000000000", "last"],
          ["last", "call", "Inner_00000000000000010000000000000000",
            "Outer_00000000000000020000000000000000"]) ∧
      ∃ compiled other flagged otherFlagged,
        view.compile .standard first = .ok (compiled, flagged) ∧
          view.compile .standard second = .ok (other, otherFlagged) ∧
          Commute view .standard compiled other forth back := by
  intro call first second view texts forth back
  have reached : View.stacked.Reached := Assets.Reached.empty.storeAll _
  have distinct : view.Distinct := by decide +kernel
  have current : view.Current first := by decide +kernel
  have otherCurrent : view.Current second := by decide +kernel
  have apart : view.NamesApart .standard first := by decide +kernel
  have otherApart : view.NamesApart .standard second := by decide +kernel
  have agree : ∀ text ∈ texts, ∀ other ∈ texts, text.1 = other.1 → text.2 = other.2 := by
    decide +kernel
  have compiles : (view.compile .standard first).toBool = true := by decide +kernel
  have otherCompiles : (view.compile .standard second).toBool = true := by decide +kernel
  obtain ⟨⟨compiled, flagged⟩, ok⟩ := Outcome.exists_eq_ok compiles
  obtain ⟨⟨other, otherFlagged⟩, otherOk⟩ := Outcome.exists_eq_ok otherCompiles
  exact ⟨reached, distinct, current, otherCurrent, apart, otherApart, agree, by decide +kernel,
    compiled, other, flagged, otherFlagged, ok, otherOk,
    passes_commute reached distinct current otherCurrent apart otherApart agree ok otherOk⟩

end NodeShader

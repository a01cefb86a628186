import NodeShader.Proofs.Retouching
import NodeShader.Proofs.Seeking

/-! The same graphs and definitions with other flags on their wrappers. Validation sets the flags of a
graph anew, whatever they were before. Those inside definitions it only reads: one that is out of date
counts as an error, while one on a wrapper that is at fault adds nothing to what the search finds. -/
namespace NodeShader

def Node.unflag (node : Node) : Node :=
  if node.wrapper?.isSome then { node with hasError := false } else node

namespace Node
variable (node : Node)

theorem unflag_kind : node.unflag.kind = node.kind := by
  unfold unflag
  split <;> rfl

theorem unflag_wrapper? : node.unflag.wrapper? = node.wrapper? := by
  rw [wrapper?, unflag_kind, ← wrapper?]

theorem unflag_eq_self {node : Node} (unflagged : node.hasError = false) : node.unflag = node := by
  unfold unflag
  split
  next => rw [← unflagged]
  next => rfl

theorem unflag_unflag : node.unflag.unflag = node.unflag := by
  rw [unflag, unflag_wrapper?]
  split
  next wrapper => simp [unflag, wrapper]
  next => rfl

end Node

def Retouch.unflagging : Retouch where
  change := Node.unflag
  id node := by unfold Node.unflag; split <;> rfl
  name node := by unfold Node.unflag; split <;> rfl
  enabled node := by unfold Node.unflag; split <;> rfl
  slots node := by unfold Node.unflag; split <;> rfl
  kind node := by rw [node.unflag_kind]

def ShaderGraph.unflag (graph : ShaderGraph) : ShaderGraph := graph.retouch .unflagging

def Live.unflag (definition : Live) : Live := definition.retouch .unflagging

def View.unflag (view : View) : View := view.retouch .unflagging

namespace View
variable {view other : View} {graph : ShaderGraph}

theorem tracks_unflagging (node : Node) : view.Tracks .unflagging node := by
  have same : (Retouch.unflagging.change node).wrapper? = node.wrapper? := node.unflag_wrapper?
  rw [Tracks, same]
  cases node.wrapper? with
  | none => rfl
  | some wrapper => exact retouch_resolve .unflagging wrapper

theorem isFaulty_unflag (node : Node) : view.isFaulty node.unflag = view.isFaulty node := by
  rw [isFaulty, isFaulty, view.fault_eq_of_wrapper? view.serials node.unflag_wrapper?]

theorem flagNode_unflag (node : Node) : view.flagNode node.unflag = view.flagNode node := by
  rw [flagNode, flagNode, node.unflag_wrapper?, isFaulty_unflag]
  split
  next wrapper => simp [Node.unflag, wrapper]
  next plain => exact if_neg plain

theorem values_unflag (graph : ShaderGraph) :
    graph.unflag.nodes.values = graph.nodes.values.map Node.unflag :=
  graph.retouch_values .unflagging

theorem active_unflag (graph : ShaderGraph) :
    graph.unflag.active = graph.active.map (Prod.map id Node.unflag) :=
  graph.retouch_active .unflagging

theorem flag_unflag : view.flag graph.unflag = view.flag graph := by
  show (graph.mapNodes fun _ => Node.unflag).mapNodes (fun _ => view.flagNode) =
    graph.mapNodes fun _ => view.flagNode
  rw [ShaderGraph.mapNodes_mapNodes]
  exact ShaderGraph.mapNodes_congr fun _ node _ => flagNode_unflag node

theorem unflag_flagNode (node : Node) : (view.flagNode node).unflag = node.unflag := by
  rw [Node.unflag, flagNode_wrapper?, Node.unflag, flagNode]
  split
  next => rfl
  next => rfl

theorem unflag_flag : (view.flag graph).unflag = graph.unflag := by
  show (graph.mapNodes fun _ => view.flagNode).mapNodes (fun _ => Node.unflag) =
    graph.mapNodes fun _ => Node.unflag
  rw [ShaderGraph.mapNodes_mapNodes]
  exact ShaderGraph.mapNodes_congr fun _ node _ => unflag_flagNode node

theorem unflag_warnings (nodes : List Node) :
    view.unflag.warnings [] (nodes.map Node.unflag) = view.warnings [] nodes :=
  retouch_warnings .unflagging (fun node _ => tracks_unflagging node) []

theorem warnings_unflag (nodes : List Node) :
    view.warnings [] (nodes.map Node.unflag) = view.warnings [] nodes := by
  have twice : (nodes.map Node.unflag).map Node.unflag = nodes.map Node.unflag := by
    rw [List.map_map]
    exact List.map_congr_left fun node _ => node.unflag_unflag
  rw [← unflag_warnings (nodes.map Node.unflag), twice, unflag_warnings]

theorem report_unflag : view.report graph.unflag = view.report graph := by
  have flagged : (graph.nodes.values.map Node.unflag).filter view.isFaulty =
      (graph.nodes.values.filter view.isFaulty).map Node.unflag :=
    filter_map_of fun node _ => isFaulty_unflag node
  rw [report, report, values_unflag, warnings_unflag, flagged, List.map_map]
  congr 1
  exact List.map_congr_left fun node _ => Retouch.unflagging.id node

/-- Flags of the graph itself have no part in validation. -/
theorem validate_unflag : view.validate graph.unflag = view.validate graph := by
  have answered : graph.unflag.nodes.values.any (fun node => view.fault view.serials node = none) =
      graph.nodes.values.any fun node => view.fault view.serials node = none := by
    rw [values_unflag, List.any_map]
    congr 1
    funext node
    simp only [Function.comp_apply, view.fault_eq_of_wrapper? view.serials node.unflag_wrapper?]
  have cycles : view.checkCycles (graph.guid :: view.guids) [] [] graph.unflag =
      view.checkCycles (graph.guid :: view.guids) [] [] graph :=
    checkCycles_retouch .unflagging _ _ _ graph
  rw [validate, validate, answered, report_unflag, flag_unflag,
    show graph.unflag.guid = graph.guid from rfl, cycles]

/-- Whatever a node stands for in one view is the same but for flags in the other. -/
theorem stands_of_unflag (same : view.unflag = other.unflag) (node : Node) :
    (node.wrapper?.bind other.resolve).map Live.unflag =
      (node.wrapper?.bind view.resolve).map Live.unflag := by
  cases node.wrapper? with
  | none => rfl
  | some wrapper =>
    have here : view.unflag.resolve wrapper = (view.resolve wrapper).map Live.unflag :=
      retouch_resolve .unflagging wrapper
    have there : other.unflag.resolve wrapper = (other.resolve wrapper).map Live.unflag :=
      retouch_resolve .unflagging wrapper
    rw [Option.bind_some, Option.bind_some, ← here, ← there, same]

/-- Each flag in a definition is also set in its twin, unless the node is at fault by itself there. -/
def Confirms (view : View) (definition : Live) : Prop :=
  ∀ twin ∈ view.definition? definition.serial, ∀ entry ∈ definition.graph.active,
    ∀ same ∈ twin.graph.active, entry.1 = same.1 → entry.2.hasError = true →
      same.2.hasError = true ∨ view.isFaulty same.2 = true

instance (view : View) (definition : Live) : Decidable (view.Confirms definition) :=
  inferInstanceAs (Decidable (∀ twin ∈ _, _))

/-- The flags that another view has inside what a node stands for are confirmed. -/
def Vouches (view other : View) (node : Node) : Prop :=
  ∀ definition, other.Unfolds node definition → view.Confirms definition

namespace Vouches
variable {node : Node} {definition : Live}

theorem congr {twin : Node} (vouches : view.Vouches other node) (same : twin.wrapper? = node.wrapper?) :
    view.Vouches other twin := by
  rintro definition ⟨outer, resolved, path⟩
  exact vouches definition ⟨outer, same ▸ resolved, path⟩

theorem here (vouches : view.Vouches other node)
    (resolved : node.wrapper?.bind other.resolve = some definition) : view.Confirms definition :=
  vouches definition ⟨definition, resolved, .inl rfl⟩

theorem inside (vouches : view.Vouches other node)
    (resolved : node.wrapper?.bind other.resolve = some definition) {entry : NodeId × Node}
    (active : entry ∈ definition.graph.active) : view.Vouches other entry.2 := by
  intro inner unfolds
  exact vouches inner ⟨definition, resolved, .inr (reaches_of_unfolds active unfolds)⟩

end Vouches

theorem judge_apart {depth : Nat} {entry twin : NodeId × Node}
    (confirmed : entry.2.hasError = true → twin.2.hasError = true ∨ other.isFaulty twin.2 = true)
    (confirming : twin.2.hasError = true → entry.2.hasError = true ∨ view.isFaulty entry.2 = true)
    (sure : ∀ answer, view.seek depth entry.2 = some answer →
      other.fault other.serials twin.2 = some answer) {answer : Bool}
    (found : judge (view.seek depth) entry = some answer) :
    judge (other.fault other.serials) twin = some answer := by
  unfold judge at found ⊢
  split at found
  next flagged =>
    rw [← found]
    split
    next => rfl
    next unflagged =>
      have faulty := (confirmed flagged).resolve_left unflagged
      simpa [isFaulty] using faulty
  next unflagged =>
    split
    next flagged =>
      have faulty := (confirming flagged).resolve_left unflagged
      have broken : view.fault view.serials entry.2 = some true := by simpa [isFaulty] using faulty
      exact broken.symm.trans (fault_serials_of_seek found)
    next => exact sure answer found

/-- What is found by a search in one view is found by a search in the other: where only one of them has
a flag the other one finds the fault. -/
theorem fault_of_seek_apart (same : view.unflag = other.unflag) {depth : Nat} {node : Node}
    (there : other.Vouches view node) (back : view.Vouches other node) {answer : Bool}
    (found : view.seek depth node = some answer) : other.fault other.serials node = some answer := by
  induction depth generalizing node answer with
  | zero => contradiction
  | succ depth ih =>
    have stands := stands_of_unflag same node
    refine fault_of_look ?_
    rw [seek] at found
    cases resolved : node.wrapper?.bind view.resolve with
    | none =>
      rw [resolved] at stands
      rw [look_of_unresolved _ resolved] at found
      rwa [look_of_unresolved _ (Option.map_eq_none_iff.1 stands)]
    | some definition =>
      rw [resolved] at stands
      obtain ⟨twin, twinned, alike⟩ := Option.map_eq_some_iff.1 stands
      have serial : twin.serial = definition.serial := by
        simpa [Live.unflag] using congrArg Live.serial alike
      have aligned : definition.graph.active.map (Prod.map id Node.unflag) =
          twin.graph.active.map (Prod.map id Node.unflag) := by
        rw [← active_unflag, ← active_unflag]
        exact congrArg (fun live : Live => live.graph.active) alike.symm
      rw [look_of_resolved _ resolved] at found
      rw [look_of_resolved _ twinned]
      refine anyM_eq_some_of_map aligned (fun entry active inner listed known answer tested => ?_) found
      obtain ⟨id, unflagged⟩ := Prod.mk.inj known
      have kind : inner.2.wrapper? = entry.2.wrapper? := by
        rw [← inner.2.unflag_wrapper?, ← unflagged, entry.2.unflag_wrapper?]
      refine judge_apart ?_ ?_ (fun answer sought => ?_) tested
      · exact there.here resolved twin (serial ▸ definition?_of_stands twinned) entry active inner
          listed id
      · exact back.here twinned definition (serial.symm ▸ definition?_of_stands resolved) inner listed
          entry active id.symm
      · rw [other.fault_eq_of_wrapper? other.serials kind]
        exact ih (there.inside resolved active) ((back.inside twinned listed).congr kind.symm) sought

/-- The views differ in nothing but flags of wrappers, and below the graph each flag that only one of
them has is on a wrapper that is at fault by itself in the other. -/
structure Reflagged (view other : View) (graph : ShaderGraph) : Prop where
  same : view.unflag = other.unflag
  there : ∀ node ∈ graph.nodes.values, other.Vouches view node
  back : ∀ node ∈ graph.nodes.values, view.Vouches other node

namespace Reflagged

theorem fault_eq (views : view.Reflagged other graph) {node : Node}
    (member : node ∈ graph.nodes.values) :
    other.fault other.serials node = view.fault view.serials node := by
  have there := views.there node member
  have back := views.back node member
  refine Option.ext fun answer => ⟨fun found => ?_, fun found => ?_⟩
  · exact fault_of_seek_apart views.same.symm back there (seek_of_fault found)
  · exact fault_of_seek_apart views.same there back (seek_of_fault found)

theorem isFaulty_eq (views : view.Reflagged other graph) {node : Node}
    (member : node ∈ graph.nodes.values) : other.isFaulty node = view.isFaulty node := by
  rw [isFaulty, isFaulty, views.fault_eq member]

theorem flag_eq (views : view.Reflagged other graph) : other.flag graph = view.flag graph :=
  ShaderGraph.mapNodes_congr fun _ node member => by rw [views.isFaulty_eq member]

theorem report_eq (views : view.Reflagged other graph) : other.report graph = view.report graph := by
  have flagged : graph.nodes.values.filter other.isFaulty = graph.nodes.values.filter view.isFaulty :=
    List.filter_congr fun node member => views.isFaulty_eq member
  have warnings : other.warnings [] graph.nodes.values = view.warnings [] graph.nodes.values := by
    rw [← unflag_warnings, ← views.same, unflag_warnings]
  rw [report, report, flagged, warnings]

theorem validate_eq (views : view.Reflagged other graph) :
    other.validate graph = view.validate graph := by
  have answered : graph.nodes.values.any (fun node => other.fault other.serials node = none) =
      graph.nodes.values.any fun node => view.fault view.serials node = none := by
    rw [List.any_eq, List.any_eq]
    refine decide_eq_decide.2 (exists_congr fun node => and_congr_right fun member => ?_)
    rw [views.fault_eq member]
  have unflag_guids (view : View) : view.unflag.guids = view.guids := retouch_guids .unflagging
  have unflag_cycles (view : View) (unmarked : List Guid) :
      view.unflag.checkCycles unmarked [] [] graph.unflag = view.checkCycles unmarked [] [] graph :=
    retouch_checkCycles .unflagging unmarked [] [] graph
  have guids : other.guids = view.guids := by
    rw [← unflag_guids other, ← views.same, unflag_guids]
  have cycles : other.checkCycles (graph.guid :: view.guids) [] [] graph =
      view.checkCycles (graph.guid :: view.guids) [] [] graph := by
    rw [← unflag_cycles other, ← views.same, unflag_cycles]
  rw [validate, validate, answered, views.report_eq, views.flag_eq, guids, cycles]

end Reflagged

theorem steady_unflagging (unflagged : ∀ entry ∈ graph.active, entry.2.hasError = false) :
    view.Steady .unflagging graph := by
  intro entry active
  exact ⟨tracks_unflagging entry.2, congrArg Node.hasError (Node.unflag_eq_self (unflagged entry active))⟩

theorem unflag_soundWalk (intact : ∀ entry ∈ graph.sound, view.Intact entry.2) :
    view.unflag.walk (fun node => !node.hasError) view.handles none graph.unflag
        (graph.sound.map (Prod.map id Node.unflag)) =
      (view.soundWalk graph).map (Event.retouch .unflagging) := by
  refine @retouch_walk .unflagging view _ (fun _ node => view.Intact node)
    (fun _ node _ => tracks_unflagging node) ?_ _ _ _ _ intact
  intro _ node definition sound resolved entry active
  obtain ⟨unflagged, below⟩ := sound.inside resolved entry active
  exact ⟨congrArg (fun node : Node => !node.hasError) (Node.unflag_eq_self unflagged), below⟩

theorem unflag_fullWalk (graph : ShaderGraph) (nodes : List (NodeId × Node)) :
    view.unflag.walk (fun _ => true) view.handles none graph.unflag
        (nodes.map (Prod.map id Node.unflag)) =
      (view.fullWalk graph nodes).map (Event.retouch .unflagging) :=
  @retouch_walk .unflagging view _ (fun _ _ => True) (fun _ node _ => tracks_unflagging node)
    (fun _ _ _ _ _ _ _ => ⟨rfl, trivial⟩) _ _ _ _ fun _ _ => trivial

theorem unflag_generate (intact : ∀ entry ∈ graph.sound, view.Intact entry.2) (settings : Settings)
    (functions : Functions) :
    ((view.soundWalk graph).map (Event.retouch .unflagging)).foldl
        (Event.register view.unflag settings) functions = view.generate settings functions graph := by
  refine retouch_foldl_register .unflagging settings functions fun definition left => ?_
  obtain ⟨entry, listed, unfolds⟩ := walk_traced _ left
  exact steady_unflagging fun inner active => ((intact entry listed).unfolds unfolds inner active).1

theorem statements_of_unflag (same : view.unflag = other.unflag) (settings : Settings) (node : Node) :
    graph.statements other settings node = graph.statements view settings node := by
  have stands := stands_of_unflag same node
  have interface (definition : Live) :
      graph.wrapperStatements settings node definition.unflag.toDefinition =
        graph.wrapperStatements settings node definition.toDefinition :=
    graph.wrapperStatements_retouch .unflagging settings node definition
  unfold ShaderGraph.statements
  split
  next => rfl
  next =>
    cases kind : node.kind with
    | wrapper wrapper =>
      rw [(node.wrapper?_eq_some_iff wrapper).2 kind, Option.bind_some, Option.bind_some] at stands
      dsimp only
      cases here : view.resolve wrapper with
      | none =>
        rw [here] at stands
        rw [Option.map_eq_none_iff.1 stands]
      | some definition =>
        rw [here] at stands
        obtain ⟨twin, there, alike⟩ := Option.map_eq_some_iff.1 stands
        rw [there]
        dsimp only
        rw [← interface twin, alike, interface]
    | function | reader | output => rfl

namespace Reflagged

theorem emit_eq (views : view.Reflagged other graph) {answer : Report × ShaderGraph}
    (ok : view.validate graph = .ok answer) (settings : Settings) (functions : Functions)
    (report : Report) : other.emit settings functions report (view.flag graph) =
      view.emit settings functions report (view.flag graph) := by
  have here : ∀ entry ∈ (view.flag graph).sound, view.Intact entry.2 :=
    fun _ => intact_of_mem_sound (answered_of_validate ok)
  have there : ∀ entry ∈ (view.flag graph).sound, other.Intact entry.2 := by
    rw [← views.flag_eq]
    exact fun _ => intact_of_mem_sound (answered_of_validate (views.validate_eq.trans ok))
  have unflag_handles (view : View) : view.unflag.handles = view.handles := retouch_handles .unflagging
  have handles : other.handles = view.handles := by
    rw [← unflag_handles other, ← views.same, unflag_handles]
  have sound : (other.soundWalk (view.flag graph)).map (Event.retouch .unflagging) =
      (view.soundWalk (view.flag graph)).map (Event.retouch .unflagging) := by
    rw [← unflag_soundWalk there, ← unflag_soundWalk here, views.same, handles]
  have full : (other.fullWalk (view.flag graph) (view.flag graph).sound).map
      (Event.retouch .unflagging) = (view.fullWalk (view.flag graph) (view.flag graph).sound).map
        (Event.retouch .unflagging) := by
    rw [← unflag_fullWalk, ← unflag_fullWalk, views.same, handles]
  have uniforms : other.uniforms (view.flag graph) = view.uniforms (view.flag graph) := by
    rw [uniforms, uniforms, ← retouch_uniforms .unflagging, sound, retouch_uniforms]
  have requirements : other.requirements (view.flag graph) (view.flag graph).sound =
      view.requirements (view.flag graph) (view.flag graph).sound := by
    rw [requirements, requirements, ← retouch_declared .unflagging, full, retouch_declared]
  have routine : (view.flag graph).routine other settings settings.entryPoint false =
      (view.flag graph).routine view settings settings.entryPoint false := by
    simp only [ShaderGraph.routine, statements_of_unflag views.same]
  have generated : other.generate settings functions (view.flag graph) =
      view.generate settings functions (view.flag graph) := by
    rw [← unflag_generate there, ← unflag_generate here, sound, views.same]
  rw [emit, emit, uniforms, requirements, routine, generated]

theorem compileInto_eq (views : view.Reflagged other graph) (settings : Settings)
    (functions : Functions) :
    other.compileInto settings functions graph = view.compileInto settings functions graph := by
  rw [compileInto, compileInto, views.validate_eq]
  cases validated : view.validate graph with
  | error cause => rfl
  | ok answer =>
    obtain ⟨report, flagged⟩ := answer
    obtain rfl := eq_flag_of_validate validated
    simp only [bind, Except.bind, views.emit_eq validated]

end Reflagged

/-- Two inputs get the same answers: the same report with the same flagged graph, and the same code. -/
structure AnswersAlike (view other : View) (graph otherGraph : ShaderGraph) : Prop where
  validated : other.validate otherGraph = view.validate graph
  into : ∀ settings functions,
    other.compileInto settings functions otherGraph = view.compileInto settings functions graph
  compiled : ∀ settings, other.compile settings otherGraph = view.compile settings graph

theorem AnswersAlike.of_eq {otherGraph : ShaderGraph}
    (validated : other.validate otherGraph = view.validate graph)
    (into : ∀ settings functions,
      other.compileInto settings functions otherGraph = view.compileInto settings functions graph) :
    view.AnswersAlike other graph otherGraph := by
  refine ⟨validated, into, fun settings => ?_⟩
  rw [compile, compile, into]

/-- The flags that validation left on the wrappers of a graph make no difference when it comes to it
again, and neither do those inside stored definitions, unless one is set on a wrapper without a fault:
this one is taken for a fault as long as it stands there. -/
theorem reflagged_answers {otherGraph : ShaderGraph} (roots : graph.unflag = otherGraph.unflag) :
    view.AnswersAlike view graph otherGraph ∧
      (view.Reflagged other graph → view.AnswersAlike other graph otherGraph) := by
  have validated (view : View) : view.validate otherGraph = view.validate graph := by
    rw [← validate_unflag, ← roots, validate_unflag]
  have into (view : View) (settings : Settings) (functions : Functions) :
      view.compileInto settings functions otherGraph = view.compileInto settings functions graph := by
    rw [compileInto, compileInto, validated]
  refine ⟨.of_eq (validated view) (into view), fun views => .of_eq ?_ fun settings functions => ?_⟩
  · exact (validated other).trans views.validate_eq
  · exact (into other settings functions).trans (views.compileInto_eq settings functions)

theorem vouches_of_live (confirmed : ∀ definition ∈ other.live, view.Confirms definition) (node : Node) :
    view.Vouches other node := by
  refine fun definition unfolds => confirmed definition (unfolds.induction ?_ ?_)
  · exact fun _ resolved => mem_live_of_stands resolved
  · rintro _ _ _ ⟨_, _, resolved⟩
    exact mem_live_of_stands resolved

/-- A wrapper with a flag that an earlier validation left on it. -/
def left (number : UInt64) (handle : Handle) (flag : Bool) : Node :=
  { Node.make ⟨number, 1⟩ "Sub-graph" (.wrapper (.bound (some handle))) with hasError := flag }

def enclosing (nodes : List Node) : View :=
  (Assets.empty.storeAll [⟨⟨1, 1⟩, "Noise", .root ⟨1, 0⟩ "Noise"⟩,
    ⟨⟨2, 2⟩, "Inner", nodes.foldl ShaderGraph.addNode (.root ⟨2, 0⟩ "Inner")⟩]).view

/-- One wrapper inside is at fault with or without the flag, the other one is disabled. -/
theorem missing_reflagged_answers :
    let root (flag : Bool) := (ShaderGraph.root ⟨3, 0⟩ "Root").addNode (left 3 ⟨2, 2⟩ flag)
    let view (flag : Bool) :=
      enclosing [left 2 ⟨9, 9⟩ flag, { left 4 ⟨1, 1⟩ flag with enabled := false }]
    (root true).unflag = (root false).unflag ∧ (view true).Reflagged (view false) (root true) ∧
      ((view true).validate (root true)).map (·.1.flagged) = .ok [⟨⟨3, 1⟩⟩] ∧
      (view true).AnswersAlike (view true) (root true) (root false) ∧
      (view true).AnswersAlike (view false) (root true) (root false) := by
  intro root view
  have roots : (root true).unflag = (root false).unflag := by decide +kernel
  have views : (view true).Reflagged (view false) (root true) := by
    refine ⟨rfl, fun node _ => ?_, fun node _ => ?_⟩
    · exact vouches_of_live (by decide +kernel) node
    · exact vouches_of_live (by decide +kernel) node
  obtain ⟨alone, apart⟩ := @reflagged_answers (view true) (view false) _ _ roots
  exact ⟨roots, views, by decide +kernel, alone, apart views⟩

/-- The definition inside is there again, but the flag is still set. -/
theorem outdated_flag_counts :
    let root := wrapping 3 "Root" ⟨2, 2⟩
    let flagged := enclosing [left 2 ⟨1, 1⟩ true]
    let repaired := enclosing [left 2 ⟨1, 1⟩ false]
    flagged.unflag = repaired.unflag ∧
      (flagged.validate root).map (·.1.flagged) = .ok [⟨⟨3, 1⟩⟩] ∧
      (repaired.validate root).map (·.1.flagged) = .ok [] ∧
      (flagged.compile .standard root).map (·.1.functions.length) = .ok 0 ∧
      (repaired.compile .standard root).map (·.1.functions.length) = .ok 2 :=
  ⟨rfl, by decide +kernel, by decide +kernel, by decide +kernel, by decide +kernel⟩

end View
end NodeShader

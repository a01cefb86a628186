import NodeShader.Scene
import NodeShader.Proofs.Refresh
import NodeShader.Proofs.Remembering
import NodeShader.Proofs.Settling

/-! Graphs at work beside a store. Definitions come and go, graphs are refreshed, queried and compiled,
and wrappers remember what they found, in the graphs as well as inside definitions. A refresh makes the
wrappers of one graph forget; those inside the definitions below keep what they remember. Compilation
after a refresh is as if nothing were remembered, as long as none of these keeps a definition that the
store has given up. -/
namespace NodeShader

deriving instance DecidableEq for Event

def ShaderGraph.wrappers (graph : ShaderGraph) : List Wrapper := graph.nodes.values.filterMap Node.wrapper?

theorem ShaderGraph.mem_wrappers_iff (graph : ShaderGraph) (wrapper : Wrapper) :
    wrapper ∈ graph.wrappers ↔ ∃ node ∈ graph.nodes.values, node.kind = .wrapper wrapper := by
  simp [wrappers, Node.wrapper?_eq_some_iff]

theorem ShaderGraph.mem_wrappers_refreshWrappers {view : View} {graph : ShaderGraph} {wrapper : Wrapper}
    (member : wrapper ∈ (graph.refreshWrappers view).1.wrappers) :
    ∃ before ∈ graph.wrappers,
      wrapper = before ∨ ∃ slots, wrapper = (before.sync view slots).wrapper := by
  obtain ⟨node, listed, kind⟩ := (mem_wrappers_iff _ wrapper).1 member
  obtain ⟨old, known, rfl | rfl⟩ := exists_of_mem_refreshWrappers listed
  · exact ⟨wrapper, (mem_wrappers_iff _ wrapper).2 ⟨node, known, kind⟩, .inl rfl⟩
  · obtain ⟨before, was, rfl, _⟩ := Node.exists_sync_of_refresh kind
    exact ⟨before, (mem_wrappers_iff _ before).2 ⟨old, known, was⟩, .inr ⟨old.slots, rfl⟩⟩

namespace View

theorem wrappers_flag (view : View) (graph : ShaderGraph) :
    (view.flag graph).wrappers = graph.wrappers := by
  rw [ShaderGraph.wrappers, values_flag, List.filterMap_map]
  exact congrArg (graph.nodes.values.filterMap ·) (funext view.flagNode_wrapper?)

theorem mem_wrappers_settleGraph {view : View} {sites : List Site} {owner : Option Serial}
    {graph : ShaderGraph} {wrapper : Wrapper}
    (member : wrapper ∈ (view.settleGraph sites owner graph).wrappers) :
    ∃ before ∈ graph.wrappers, wrapper = before ∨ wrapper = view.settle before := by
  obtain ⟨node, listed, kind⟩ := List.mem_filterMap.1 member
  obtain ⟨entry, filed, rfl⟩ := List.mem_map.1 listed
  obtain ⟨old, known, rfl⟩ := List.mem_map.1 filed
  have present : old.2 ∈ graph.nodes.values := List.mem_map.2 ⟨old, known, rfl⟩
  dsimp only at kind
  split at kind
  next =>
    rw [wrapper?_settleNode] at kind
    obtain ⟨before, was, rfl⟩ := Option.map_eq_some_iff.1 kind
    exact ⟨before, List.mem_filterMap.2 ⟨old.2, present, was⟩, .inr rfl⟩
  next => exact ⟨wrapper, List.mem_filterMap.2 ⟨old.2, present, kind⟩, .inl rfl⟩

end View

namespace Assets
variable {assets : Assets}

theorem Accounted.settle (accounted : assets.Accounted) (view : View) (sites : List Site) :
    (assets.settle view sites).Accounted := by
  have serials : (assets.settle view sites).view.serials = assets.view.serials := by
    simp [View.serials, Assets.view, Assets.settle, Function.comp_def]
  exact ⟨accounted.orderly.settle view sites, serials ▸ accounted.distinct,
    fun serial => serials ▸ accounted.alive serial⟩

theorem Onward.settle (assets : Assets) (view : View) (sites : List Site) :
    assets.Onward (assets.settle view sites) := by
  refine ⟨Nat.le_refl _, ?_⟩
  intro definition member
  obtain ⟨before, old, rfl⟩ := List.mem_map.1 member
  exact .inl ⟨before, old, rfl, rfl⟩

end Assets

theorem Wrapper.Honest.sync {assets : Assets} {wrapper : Wrapper} (accounted : assets.Accounted)
    (blind : Bool) (slots : SlotTable) :
    (wrapper.sync (assets.seen blind) slots).wrapper.Honest assets := by
  have found {serial : Serial}
      (remembers : (wrapper.sync (assets.seen blind) slots).wrapper.cached = some serial) :
      ∃ definition ∈ assets.live, definition.serial = serial ∧
        wrapper.handle = some definition.handle := by
    obtain ⟨definition, stored, same⟩ := sync_cached remembers
    obtain ⟨handle, bound, known⟩ := Option.bind_eq_some_iff.1 stored
    exact ⟨definition, assets.live_seen blind ▸ View.mem_live_of_lookup known, same,
      by rw [bound, accounted.coherent_seen blind handle definition known]⟩
  refine ⟨?_, ?_⟩
  · intro serial remembers
    obtain ⟨definition, living, rfl, _⟩ := found remembers
    exact accounted.orderly.given definition living
  · intro definition living remembers
    obtain ⟨other, known, same, bound⟩ := found remembers
    rw [sync_handle, bound, accounted.eq_of_serial known living same]

/-- What can be asked of a graph, or made from it. -/
inductive Query where
  | validate
  | compile (settings : Settings)
  | compileInto (settings : Settings) (functions : Functions)
  | generate (settings : Settings) (functions : Functions)
  | uniforms
  | routine (settings : Settings) (name : String) (withProperties : Bool)
  | statements (settings : Settings) (id : NodeId) (node : Node)
  | requirements
  | requirement (nodes : List (NodeId × Node)) (capability : Capability)
  | resolve (id : NodeId) (wrapper : Wrapper)
  /-- Something about definitions themselves, which resolves wrappers inside them. -/
  | inside (sites : List Site)

namespace Query

/-- What is left when a query has been answered. -/
def after (view : View) (scene : Scene) : Query → Scene
  | validate => (scene.validate view).2
  | compile settings => (scene.compile view settings).2
  | compileInto settings functions => (scene.compileInto view settings functions).2
  | generate settings functions => (scene.generate view settings functions).2
  | uniforms => (scene.uniforms view).2
  | routine settings name withProperties => (scene.routine view settings name withProperties).2
  | statements settings id node => (scene.statements view settings id node).2
  | requirements => (scene.requirements view).2
  | requirement nodes capability => (scene.requirement view nodes capability).2
  | resolve id wrapper => (scene.resolve view id wrapper).2
  | inside sites => scene.settle view sites

/-- The scene that a query leaves differs by flags and by what wrappers at some sites remember. -/
def Settles (view : View) (scene later : Scene) : Prop :=
  ∃ graph sites, (graph = scene.graph ∨ graph = view.flag scene.graph) ∧
    later = (scene.withGraph graph).settle view sites

theorem Settles.here (view : View) (scene : Scene) (sites : List Site) :
    Settles view scene (scene.settle view sites) := ⟨scene.graph, sites, .inl rfl, rfl⟩

theorem Settles.unchanged (view : View) (scene : Scene) : Settles view scene scene := by
  refine ⟨scene.graph, [], .inl rfl, ?_⟩
  rw [Scene.settle, View.settleGraph_nil, Assets.settle_nil]
  rfl

theorem settles_compileInto (view : View) (scene : Scene) (settings : Settings)
    (functions : Functions) : Settles view scene (scene.compileInto view settings functions).2 := by
  unfold Scene.compileInto
  split
  next => exact .unchanged view scene
  next compiled table flagged compiledInto =>
    obtain ⟨⟨report, marked⟩, validated, rest⟩ := Outcome.bind_eq_ok compiledInto
    cases rest
    exact ⟨_, _, .inr (View.eq_flag_of_validate validated), rfl⟩

theorem settles_after (view : View) (scene : Scene) (query : Query) :
    Settles view scene (query.after view scene) := by
  cases query with
  | validate =>
    simp only [after, Scene.validate]
    split
    next => exact .unchanged view scene
    next report flagged validated =>
      exact ⟨flagged, _, .inr (View.eq_flag_of_validate validated), rfl⟩
  | compile settings =>
    have same : (scene.compile view settings).2 = (scene.compileInto view settings .empty).2 := by
      unfold Scene.compile
      split <;> simp_all
    rw [after, same]
    exact settles_compileInto view scene settings .empty
  | compileInto settings functions => exact settles_compileInto view scene settings functions
  | generate | uniforms | routine | statements | requirements | requirement | resolve | inside =>
    exact .here view scene _

end Query

/-- Graphs beside the store that they are used with. -/
structure Session where
  assets : Assets
  graphs : List ShaderGraph

namespace Session

/-- The wrappers in graphs, and those inside living definitions. -/
def wrappers (session : Session) : List Wrapper :=
  session.graphs.flatMap ShaderGraph.wrappers ++
    session.assets.live.flatMap fun definition => definition.graph.wrappers

/-- A graph as it can be made: each wrapper remembers nothing, what is stored under its handle, or what
it was copied with. -/
def Made (session : Session) (graph : ShaderGraph) : Prop :=
  ∀ wrapper ∈ graph.wrappers, wrapper.cached = none ∨
    wrapper.cached = wrapper.handle.bind session.assets.stored.get? ∨
    ∃ other ∈ session.wrappers, wrapper.handle = other.handle ∧ wrapper.cached = other.cached

instance (session : Session) (graph : ShaderGraph) : Decidable (session.Made graph) :=
  inferInstanceAs (Decidable (∀ wrapper ∈ graph.wrappers, _))

inductive Step where
  | bring (graph : ShaderGraph)
  | store (definition : Definition)
  | remove (handle : Handle)
  | hold (handle : Handle)
  | keep (owner : Handle) (serial : Serial)
  | letGo (owner : Handle)
  /-- Refreshes a graph, against the store or where nothing is stored. -/
  | refresh (index : Nat) (blind : Bool)
  | query (index : Nat) (blind : Bool) (query : Query)

def apply (session : Session) : Step → Session
  | .bring graph =>
    if session.Made graph then { session with graphs := session.graphs ++ [graph] } else session
  | .store definition =>
    if session.Made definition.graph then
      { session with assets := session.assets.store definition }
    else session
  | .remove handle => { session with assets := session.assets.remove handle }
  | .hold handle => { session with assets := session.assets.hold handle }
  | .keep owner serial => { session with assets := session.assets.keep owner serial }
  | .letGo owner => { session with assets := session.assets.unhold owner }
  | .refresh index blind =>
    { session with graphs := session.graphs.modify index fun graph =>
        (graph.refreshWrappers (session.assets.seen blind)).1 }
  | .query index blind query =>
    match session.graphs[index]? with
    | none => session
    | some graph =>
      let after := query.after (session.assets.seen blind) ⟨graph, session.assets⟩
      ⟨after.assets, session.graphs.set index after.graph⟩

def run (steps : List Step) : Session := steps.foldl apply ⟨.empty, []⟩

structure Sound (session : Session) : Prop where
  accounted : session.assets.Accounted
  honest : ∀ wrapper ∈ session.wrappers, wrapper.Honest session.assets

theorem mem_wrappers_iff (session : Session) (wrapper : Wrapper) :
    wrapper ∈ session.wrappers ↔ (∃ graph ∈ session.graphs, wrapper ∈ graph.wrappers) ∨
      ∃ definition ∈ session.assets.live, wrapper ∈ definition.graph.wrappers := by
  simp [wrappers]

namespace Sound
variable {session : Session}

theorem here (sound : session.Sound) {graph : ShaderGraph} (present : graph ∈ session.graphs)
    {wrapper : Wrapper} (member : wrapper ∈ graph.wrappers) : wrapper.Honest session.assets :=
  sound.honest wrapper ((session.mem_wrappers_iff wrapper).2 (.inl ⟨graph, present, member⟩))

theorem inside (sound : session.Sound) {definition : Live} (living : definition ∈ session.assets.live)
    {wrapper : Wrapper} (member : wrapper ∈ definition.graph.wrappers) :
    wrapper.Honest session.assets :=
  sound.honest wrapper ((session.mem_wrappers_iff wrapper).2 (.inr ⟨definition, living, member⟩))

theorem made (sound : session.Sound) {graph : ShaderGraph} (made : session.Made graph) :
    ∀ wrapper ∈ graph.wrappers, wrapper.Honest session.assets := by
  intro wrapper member
  rcases made wrapper member with forgetful | stored | ⟨other, known, handle, cached⟩
  · exact .of_forgetful forgetful
  · refine ⟨?_, ?_⟩
    · intro serial remembers
      obtain ⟨handle, _, filed⟩ := Option.bind_eq_some_iff.1 (stored.symm.trans remembers)
      exact sound.accounted.orderly.known handle serial filed
    · intro definition living remembers
      obtain ⟨handle, bound, filed⟩ := Option.bind_eq_some_iff.1 (stored.symm.trans remembers)
      rw [bound, sound.accounted.orderly.owned definition living handle filed]
  · exact (sound.honest other known).congr handle cached

/-- Whatever the wrappers of a session later on are, it is enough that they are honest before. -/
theorem onward {later : Session} (accounted : later.assets.Accounted)
    (onward : session.assets.Onward later.assets)
    (graphs : ∀ graph ∈ later.graphs, ∀ wrapper ∈ graph.wrappers, wrapper.Honest session.assets)
    (definitions : ∀ definition ∈ later.assets.live, ∀ wrapper ∈ definition.graph.wrappers,
      wrapper.Honest session.assets) : later.Sound := by
  refine ⟨accounted, ?_⟩
  intro wrapper member
  rcases (later.mem_wrappers_iff wrapper).1 member with ⟨graph, present, listed⟩ | found
  · exact (graphs graph present wrapper listed).onward onward
  · obtain ⟨definition, living, listed⟩ := found
    exact (definitions definition living wrapper listed).onward onward

theorem released (sound : session.Sound) {assets : Assets} (accounted : assets.Accounted)
    (onward : session.assets.Onward assets) (fewer : assets.live ⊆ session.assets.live) :
    Sound { session with assets } :=
  .onward accounted onward (fun _ present _ => sound.here present)
    fun _ living _ => sound.inside (fewer living)

theorem store (sound : session.Sound) (definition : Definition)
    (made : session.Made definition.graph) :
    Sound { session with assets := session.assets.store definition } := by
  refine .onward (sound.accounted.store definition) (.store _ definition)
    (fun _ present _ => sound.here present) ?_
  intro other living wrapper member
  rcases List.mem_append.1 (List.mem_filter.1 living).1 with old | new
  · exact sound.inside old member
  · rw [List.mem_singleton.1 new] at member
    exact sound.made made wrapper member

theorem keep (sound : session.Sound) (owner : Handle) (serial : Serial) :
    Sound { session with assets := session.assets.keep owner serial } := by
  refine sound.released (sound.accounted.keep owner serial) (.keep _ owner serial) ?_
  unfold Assets.keep
  split
  next => exact List.filter_sublist.subset
  next => exact List.Subset.refl _

theorem refresh (sound : session.Sound) (index : Nat) (blind : Bool) :
    (session.apply (.refresh index blind)).Sound := by
  refine .onward sound.accounted (.refl _) ?_ fun _ living _ => sound.inside living
  intro graph present wrapper member
  obtain ⟨place, inside, rfl⟩ := List.mem_iff_getElem.1 present
  simp only [Session.apply, List.getElem_modify] at member
  split at member
  next =>
    obtain ⟨before, known, rfl | ⟨slots, rfl⟩⟩ := ShaderGraph.mem_wrappers_refreshWrappers member
    · exact sound.here (List.getElem_mem _) known
    · exact .sync sound.accounted blind slots
  next => exact sound.here (List.getElem_mem _) member

theorem query (sound : session.Sound) (index : Nat) (blind : Bool) (query : Query) :
    (session.apply (.query index blind query)).Sound := by
  simp only [Session.apply]
  split
  next => exact sound
  next graph found =>
    have present := List.mem_of_getElem? found
    obtain ⟨seen, sites, same, left⟩ :=
      query.settles_after (session.assets.seen blind) ⟨graph, session.assets⟩
    have settled {owner : Option Serial} {before : ShaderGraph}
        (honest : ∀ wrapper ∈ before.wrappers, wrapper.Honest session.assets) :
        ∀ wrapper ∈ ((session.assets.seen blind).settleGraph sites owner before).wrappers,
          wrapper.Honest session.assets := by
      intro wrapper member
      obtain ⟨earlier, known, rfl | rfl⟩ := View.mem_wrappers_settleGraph member
      · exact honest _ known
      · exact (honest earlier known).settle sound.accounted blind
    have honest : ∀ wrapper ∈ seen.wrappers, wrapper.Honest session.assets := by
      rcases same with rfl | rfl
      · exact fun wrapper => sound.here present
      · exact fun wrapper member => sound.here present (View.wrappers_flag _ graph ▸ member)
    rw [left]
    refine .onward (sound.accounted.settle _ sites) (.settle _ _ sites) ?_ ?_
    · intro other member
      rcases List.mem_or_eq_of_mem_set member with old | rfl
      · exact fun wrapper => sound.here old
      · exact settled honest
    · intro definition member
      obtain ⟨before, old, rfl⟩ := List.mem_map.1 member
      exact settled fun wrapper => sound.inside old

theorem apply (sound : session.Sound) (step : Step) : (session.apply step).Sound := by
  cases step with
  | bring graph =>
    simp only [Session.apply]
    split
    next made =>
      refine .onward sound.accounted (.refl _) ?_ fun _ living _ => sound.inside living
      intro other member
      rcases List.mem_append.1 member with old | new
      · exact fun wrapper => sound.here old
      · rw [List.mem_singleton.1 new]
        exact sound.made made
    next => exact sound
  | store definition =>
    simp only [Session.apply]
    split
    next made => exact sound.store definition made
    next => exact sound
  | remove handle =>
    exact sound.released (sound.accounted.remove handle) (.release _ _ _)
      List.filter_sublist.subset
  | hold handle =>
    rw [Session.apply]
    obtain same | ⟨serial, same⟩ := sound.accounted.hold_eq handle
    · rw [same]
      exact sound
    · rw [same]
      exact sound.keep handle serial
  | keep owner serial => exact sound.keep owner serial
  | letGo owner =>
    exact sound.released (sound.accounted.unhold owner) (.release _ _ _)
      List.filter_sublist.subset
  | refresh index blind => exact sound.refresh index blind
  | query index blind query => exact sound.query index blind query

theorem run (steps : List Step) : (Session.run steps).Sound := by
  have onward (start : Session) (sound : start.Sound) : (steps.foldl Session.apply start).Sound := by
    induction steps generalizing start with
    | nil => exact sound
    | cons step rest ih => exact ih _ (sound.apply step)
  exact onward _ ⟨.empty, by simp [wrappers, Assets.empty]⟩

end Sound

/-- No wrapper inside a stored definition remembers a living definition that the store has given up. -/
def Renewed (session : Session) : Prop :=
  ∀ definition ∈ session.assets.live, definition.serial ∈ session.assets.stored.values →
    ∀ wrapper ∈ definition.graph.wrappers,
      ∀ remembered ∈ wrapper.cached.bind session.assets.view.definition?,
        remembered.serial ∈ session.assets.stored.values

instance (session : Session) : Decidable session.Renewed :=
  inferInstanceAs (Decidable (∀ definition ∈ session.assets.live, _))

end Session

/-- Compilation answers as it would with nothing remembered, and whatever is expanded on the way, at any
depth, is what is stored. -/
structure View.Afresh (view : View) (graph : ShaderGraph) : Prop where
  compiled : ∀ settings, view.forget.compile settings graph.forget =
    (view.compile settings graph).map fun answer => (answer.1, answer.2.forget)
  expanded : ∀ definition, .complete definition ∈ view.soundWalk (view.flag graph) →
    view.lookup definition.handle = some definition

theorem View.Current.afresh {view : View} {graph : ShaderGraph} (coherent : view.Coherent)
    (current : view.Current graph) : view.Afresh graph := by
  refine ⟨current.compile_forget, ?_⟩
  intro definition left
  obtain ⟨handle, stored⟩ := soundWalk_origin current.flag _ left
  exact coherent.stored stored

namespace Session

theorem Sound.recalls_inside {session : Session} (sound : session.Sound) (renewed : session.Renewed)
    {handle : Handle} {definition : Live}
    (stored : session.assets.view.lookup handle = some definition) {node : Node}
    (member : node ∈ definition.graph.nodes.values) {wrapper : Wrapper}
    (kind : node.kind = .wrapper wrapper) : session.assets.view.Recalls wrapper := by
  obtain ⟨serial, filed, found⟩ := Option.bind_eq_some_iff.1 stored
  have same : definition.serial = serial := by simpa using List.find?_some found
  have living := View.mem_live_of_lookup stored
  have listed := (definition.graph.mem_wrappers_iff wrapper).2 ⟨node, member, kind⟩
  exact (sound.inside living listed).recalls sound.accounted
    (renewed definition living (same ▸ Keyed.mem_values_of_get? filed) wrapper listed)

/-- However a store was used: once a graph is refreshed its own wrappers stand for what is stored,
whatever is kept alive beside it; and where also those inside stored definitions keep to what is stored,
nothing that is remembered shows when the graph is compiled. -/
theorem run_afresh (steps : List Step) {graph refreshed : ShaderGraph} {count : Nat}
    (ok : graph.refreshWrappers (run steps).assets.view = (refreshed, .ok count)) :
    (∀ wrapper ∈ refreshed.wrappers, (run steps).assets.view.resolve wrapper =
        wrapper.handle.bind (run steps).assets.view.lookup) ∧
      ((run steps).Renewed → (run steps).assets.view.Afresh refreshed) := by
  have sound := Sound.run steps
  have outcome : (graph.refreshWrappers (run steps).assets.view).2 = .ok count := by rw [ok]
  obtain rfl : refreshed = (graph.refreshWrappers (run steps).assets.view).1 := by rw [ok]
  refine ⟨?_, fun renewed => ?_⟩
  · intro wrapper member
    obtain ⟨node, listed, kind⟩ := (ShaderGraph.mem_wrappers_iff _ wrapper).1 member
    exact (ShaderGraph.recalls_of_refreshWrappers outcome node listed wrapper kind).resolve
  · have current := View.Current.refreshWrappers (fun _ _ stored _ member _ =>
      sound.recalls_inside renewed stored member) outcome
    exact current.afresh sound.accounted.coherent

/-- A definition is replaced while another owner keeps it. Another definition wraps it, and a graph that
wraps one of the two was compiled before and is refreshed afterwards. -/
def replacing (handle : Handle) : List Step :=
  [.store ⟨⟨1, 1⟩, "Old", .root ⟨1, 0⟩ "Old"⟩,
    .store ⟨⟨2, 2⟩, "Outer", View.wrapping 2 "Outer" ⟨1, 1⟩⟩,
    .bring (View.wrapping 3 "Root" handle), .query 0 false (.compile .standard), .hold ⟨1, 1⟩,
    .store ⟨⟨1, 1⟩, "New", .root ⟨1, 0⟩ "New"⟩, .refresh 0 false]

/-- The names of the functions that a graph of a session is compiled to, with all that is remembered
and with nothing. -/
def called (session : Session) (graph : ShaderGraph) :
    Except ValidationError (List String) × Except ValidationError (List String) :=
  ((session.assets.view.compile .standard graph).map (·.1.functions.map (·.1)),
    (session.assets.view.forget.compile .standard graph.forget).map (·.1.functions.map (·.1)))

theorem replacing_afresh :
    let session := run (replacing ⟨1, 1⟩)
    let view := session.assets.view
    let new := ["New_00000000000000010000000000000000"]
    session.assets.live.map (·.name) = ["Old", "Outer", "New"] ∧ session.Renewed ∧
      ∃ root ∈ session.graphs, root.refreshWrappers view = (root, .ok 0) ∧
        (∀ wrapper ∈ root.wrappers, view.resolve wrapper = wrapper.handle.bind view.lookup) ∧
        view.Afresh root ∧ session.called root = (.ok new, .ok new) := by
  intro session view new
  let root := session.graphs.head (by decide +kernel)
  have ok : root.refreshWrappers view = (root, .ok 0) := by decide +kernel
  have renewed : session.Renewed := by decide +kernel
  obtain ⟨direct, afresh⟩ := run_afresh (replacing ⟨1, 1⟩) ok
  exact ⟨by decide +kernel, renewed, root, List.head_mem _, ok, direct, afresh renewed,
    by decide +kernel⟩

/-- The wrapper inside the outer definition keeps to the definition that was replaced. -/
theorem replacing_keepsOld :
    let session := run (replacing ⟨2, 2⟩)
    let view := session.assets.view
    let outer := "Outer_00000000000000020000000000000000"
    ∃ root ∈ session.graphs, root.refreshWrappers view = (root, .ok 0) ∧
      session.called root = (.ok ["Old_00000000000000010000000000000000", outer],
        .ok ["New_00000000000000010000000000000000", outer]) ∧
      (∃ definition, .complete definition ∈ view.soundWalk (view.flag root) ∧
        view.lookup definition.handle ≠ some definition) ∧ ¬ view.Afresh root := by
  intro session view outer
  let root := session.graphs.head (by decide +kernel)
  let old := session.assets.live.head (by decide +kernel)
  have left : Event.complete old ∈ view.soundWalk (view.flag root) := by decide +kernel
  have replaced : view.lookup old.handle ≠ some old := by decide +kernel
  exact ⟨root, List.head_mem _, by decide +kernel, by decide +kernel, ⟨old, left, replaced⟩,
    fun afresh => replaced (afresh.expanded old left)⟩

end Session
end NodeShader

import NodeShader.Proofs.Naming
import NodeShader.Proofs.Needs
import NodeShader.Proofs.Session

/-! One table of functions for several compilations. A compilation adds its functions one after the
other, and passes over those that it finds. Where a name stands for one text the table holds in the end
what the compilations have to offer, each by itself; but the function of a definition is named after the
definition alone, though its text depends on the settings. -/
namespace NodeShader

/-- The function that a node brings along, with its name. -/
def Node.brought (settings : Settings) (node : Node) : Option (String × String) :=
  match node.kind with
  | .function call =>
    call.body.map fun text => (settings.expand call.function, blockText (settings.expand text))
  | _ => none

def Event.offer (view : View) (settings : Settings) : Event → Option (String × String)
  | meet _ _ node => node.brought settings
  | complete definition =>
    some (functionName (some definition.toDefinition), view.ownText settings definition)

def View.offers (view : View) (settings : Settings) (graph : ShaderGraph) :
    List (String × String) :=
  (view.soundWalk graph).filterMap (Event.offer view settings)

namespace Functions

def provideAll (functions : Functions) (offers : List (String × String)) : Functions :=
  offers.foldl (fun functions offer => functions.provide offer.1 fun _ => offer.2) functions

theorem provideAll_append (functions : Functions) (offers others : List (String × String)) :
    functions.provideAll (offers ++ others) = (functions.provideAll offers).provideAll others :=
  List.foldl_append

theorem mem_of_mem_provideAll {functions : Functions} {offers : List (String × String)}
    {entry : String × String} (member : entry ∈ (functions.provideAll offers).entries) :
    entry ∈ functions.entries ∨ entry ∈ offers := by
  induction offers generalizing functions with
  | nil => exact .inl member
  | cons offer rest ih =>
    rcases ih member with here | later
    · rcases mem_entries_provide here with old | ⟨name, text⟩
      · exact .inl old
      · exact .inr (List.mem_cons.2 (.inl (Prod.ext name text)))
    · exact .inr (List.mem_cons_of_mem _ later)

theorem keys_provideAll (functions : Functions) (offers : List (String × String)) :
    functions.keys <+: (functions.provideAll offers).keys := by
  induction offers generalizing functions with
  | nil => exact List.prefix_refl _
  | cons offer rest ih =>
    refine List.IsPrefix.trans ?_ (ih _)
    rw [keys_provide]
    split
    next => exact List.prefix_refl _
    next => exact List.prefix_append _ _

theorem mem_keys_provideAll {functions : Functions} {offers : List (String × String)}
    {offer : String × String} (member : offer ∈ offers) :
    offer.1 ∈ (functions.provideAll offers).keys := by
  obtain ⟨before, after, rfl⟩ := List.append_of_mem member
  rw [provideAll_append]
  have entered : offer.1 ∈ ((functions.provideAll before).provide offer.1 fun _ => offer.2).keys := by
    rw [keys_provide]
    split
    next known => exact known
    next => simp
  exact (keys_provideAll _ after).subset entered

/-- Where a name stands for one text all that was offered is there. -/
theorem mem_provideAll_iff {offers : List (String × String)}
    (agree : ∀ offer ∈ offers, ∀ other ∈ offers, offer.1 = other.1 → offer.2 = other.2)
    (entry : String × String) :
    entry ∈ (Functions.provideAll .empty offers).entries ↔ entry ∈ offers := by
  have offered (entry : String × String)
      (member : entry ∈ (Functions.provideAll .empty offers).entries) : entry ∈ offers := by
    rcases mem_of_mem_provideAll member with start | offered
    · simp [Keyed.empty] at start
    · exact offered
  refine ⟨offered entry, fun member => ?_⟩
  obtain ⟨other, held, same⟩ := List.mem_map.1 (@mem_keys_provideAll .empty _ _ member)
  have text := agree other (offered other held) entry member same
  rwa [← Prod.ext same text]

end Functions

namespace View

theorem register_eq_provideAll (view : View) (settings : Settings) (functions : Functions)
    (event : Event) : event.register view settings functions =
      functions.provideAll (event.offer view settings).toList := by
  cases event with
  | complete definition => rfl
  | meet owner site node =>
    simp only [Event.register, Event.offer, Node.brought]
    cases node.kind with
    | function call => cases body : call.body <;> simp [FunctionCall.register, body] <;> rfl
    | reader | wrapper | output => rfl

theorem foldl_register_eq_provideAll (view : View) (settings : Settings) (functions : Functions)
    (events : List Event) : events.foldl (Event.register view settings) functions =
      functions.provideAll (events.filterMap (Event.offer view settings)) := by
  induction events generalizing functions with
  | nil => rfl
  | cons event rest ih =>
    rw [List.foldl_cons, ih, register_eq_provideAll, ← Functions.provideAll_append,
      List.filterMap_cons]
    cases event.offer view settings <;> rfl

theorem generate_eq_provideAll (view : View) (settings : Settings) (functions : Functions)
    (graph : ShaderGraph) : view.generate settings functions graph =
      functions.provideAll (view.offers settings graph) :=
  view.foldl_register_eq_provideAll settings functions _

theorem Recalls.settle {view : View} {wrapper : Wrapper} (recalls : view.Recalls wrapper) :
    view.Recalls (view.settle wrapper) := by
  unfold View.settle
  split
  next definition resolved =>
    intro handle remembered bound known
    rw [recalls.resolve, show wrapper.handle = some handle from bound, Option.bind_some] at resolved
    have found := serial_of_lookup resolved
    cases found.symm.trans known
    exact resolved
  next => exact recalls

end View

namespace Assets

theorem definition?_settle (assets : Assets) (view : View) (sites : List Site) (serial : Serial) :
    (assets.settle view sites).view.definition? serial =
      (assets.view.definition? serial).map (view.settleLive sites) :=
  @View.definition?_mapLive _ assets.view (view.settleLive_serial sites) serial

theorem lookup_settle (assets : Assets) (view : View) (sites : List Site) (handle : Handle) :
    (assets.settle view sites).view.lookup handle =
      (assets.view.lookup handle).map (view.settleLive sites) :=
  @View.lookup_mapLive _ assets.view (view.settleLive_serial sites) handle

theorem recalls_settle {assets : Assets} (view : View) (sites : List Site) {wrapper : Wrapper}
    (recalls : assets.view.Recalls wrapper) : (assets.settle view sites).view.Recalls wrapper := by
  intro handle remembered bound known
  have found : (wrapper.cached.bind assets.view.definition?).map (view.settleLive sites) =
      some remembered := by
    rw [← known, Option.map_bind]
    congr 1
    funext serial
    exact (assets.definition?_settle view sites serial).symm
  obtain ⟨before, was, rfl⟩ := Option.map_eq_some_iff.1 found
  rw [lookup_settle, recalls handle before bound was, Option.map_some]

/-- The later store is the one before, but for what wrappers inside definitions remember; and nothing
outdated has come in. -/
structure Follows (assets later : Assets) : Prop where
  forget : later.view.forget = assets.view.forget
  current : ∀ graph, assets.view.Current graph → later.view.Current graph

namespace Follows

theorem refl (assets : Assets) : assets.Follows assets := ⟨rfl, fun _ current => current⟩

theorem trans {assets between later : Assets} (first : assets.Follows between)
    (second : between.Follows later) : assets.Follows later :=
  ⟨second.forget.trans first.forget, fun graph current => second.current graph (first.current graph current)⟩

theorem settle (assets : Assets) (sites : List Site) :
    assets.Follows (assets.settle assets.view sites) := by
  constructor
  · have lives : (assets.live.map (assets.view.settleLive sites)).map Live.forget =
        assets.live.map Live.forget := by
      rw [List.map_map]
      refine List.map_congr_left fun definition _ => ?_
      simp only [Function.comp_apply, Live.forget, View.settleLive, View.forget_settleGraph]
    exact congrArg (View.mk · assets.stored) lives
  · intro graph current
    refine ⟨fun node member wrapper kind =>
      recalls_settle _ sites (current.here node member wrapper kind), ?_⟩
    intro handle definition stored node member wrapper kind
    rw [lookup_settle] at stored
    obtain ⟨before, known, rfl⟩ := Option.map_eq_some_iff.1 stored
    have listed := (ShaderGraph.mem_wrappers_iff _ wrapper).2 ⟨node, member, kind⟩
    obtain ⟨old, inside, either⟩ := View.mem_wrappers_settleGraph listed
    obtain ⟨owner, present, was⟩ := (ShaderGraph.mem_wrappers_iff _ old).1 inside
    have recalls : assets.view.Recalls old := current.stored handle before known owner present old was
    rcases either with rfl | rfl
    · exact recalls_settle _ sites recalls
    · exact recalls_settle _ sites recalls.settle

theorem compileInto {assets later : Assets} (follows : assets.Follows later) {graph : ShaderGraph}
    (current : assets.view.Current graph) (settings : Settings) (functions : Functions) :
    (later.view.compileInto settings functions graph).map (fun answer => (answer.1, answer.2.1)) =
      (assets.view.compileInto settings functions graph).map
        fun answer => (answer.1, answer.2.1) := by
  have before := current.compileInto_forget settings functions
  have after := (follows.current graph current).compileInto_forget settings functions
  rw [follows.forget] at after
  have seen (answer : Except ValidationError (Compiled × Functions × ShaderGraph)) :
      (answer.map fun answer => (answer.1, answer.2.1, answer.2.2.forget)).map
        (fun answer => (answer.1, answer.2.1)) = answer.map fun answer => (answer.1, answer.2.1) := by
    cases answer <;> rfl
  rw [← seen, ← after, before, seen]

end Follows
end Assets

/-- Settings that differ in nothing but the name of the entry function. -/
def Settings.AgreesWith (settings other : Settings) : Prop :=
  { settings with entryPoint := other.entryPoint } = other

instance (settings other : Settings) : Decidable (settings.AgreesWith other) :=
  inferInstanceAs (Decidable (_ = _))

theorem Settings.AgreesWith.ownText {settings other : Settings} (agrees : settings.AgreesWith other)
    (view : View) (definition : Live) :
    view.ownText settings definition = view.ownText other definition := by
  rw [← agrees]
  rfl

/-- A store, with what is remembered inside it by now, and the table beside it. -/
structure Workplace where
  assets : Assets
  functions : Functions

/-- One compilation out of several that share a table. -/
structure Pass where
  settings : Settings
  graph : ShaderGraph

namespace Pass

def compile (pass : Pass) (place : Workplace) :
    Except ValidationError (Compiled × Functions) × Scene :=
  Scene.compileInto place.assets.view pass.settings place.functions ⟨pass.graph, place.assets⟩

def after (place : Workplace) (pass : Pass) : Workplace :=
  match pass.compile place with
  | (.ok (_, functions), scene) => ⟨scene.assets, functions⟩
  | (.error _, scene) => ⟨scene.assets, place.functions⟩

def run (assets : Assets) (passes : List Pass) : Workplace := passes.foldl after ⟨assets, .empty⟩

/-- What the pass registers where nothing is in its way. -/
def offers (view : View) (pass : Pass) : List (String × String) :=
  if (view.validate pass.graph).toBool then view.offers pass.settings (view.flag pass.graph) else []

theorem after_assets (place : Workplace) (pass : Pass) :
    (after place pass).assets = (pass.compile place).2.assets := by
  unfold after
  split <;> simp_all

/-- What is remembered in the store by now does not show in the answer of a pass. -/
theorem compile_eq {assets : Assets} {place : Workplace} (follows : assets.Follows place.assets)
    {pass : Pass} (current : assets.view.Current pass.graph) :
    (pass.compile place).1 =
      (assets.view.compileInto pass.settings place.functions pass.graph).map
        fun answer => (answer.1, answer.2.1) := by
  rw [← follows.compileInto current]
  unfold compile Scene.compileInto
  dsimp only
  cases place.assets.view.compileInto pass.settings place.functions pass.graph <;> rfl

theorem after_functions {assets : Assets} {place : Workplace} (follows : assets.Follows place.assets)
    {pass : Pass} (current : assets.view.Current pass.graph) :
    (after place pass).functions = place.functions.provideAll (pass.offers assets.view) := by
  have answer := compile_eq follows current
  unfold View.compileInto at answer
  unfold after offers
  cases validated : assets.view.validate pass.graph with
  | error cause =>
    have failed : (pass.compile place).1 = .error cause := by rw [answer, validated]; rfl
    split
    next kept => simp [kept] at failed
    next => rfl
  | ok result =>
    obtain ⟨report, flagged⟩ := result
    obtain rfl := View.eq_flag_of_validate validated
    have given : (pass.compile place).1 =
        .ok (assets.view.emit pass.settings place.functions report (assets.view.flag pass.graph)) := by
      rw [answer, validated]
      rfl
    split
    next kept =>
      rw [kept] at given
      cases given
      exact assets.view.generate_eq_provideAll _ _ _
    next failed => simp [failed] at given

theorem after_follows {assets : Assets} {place : Workplace} (follows : assets.Follows place.assets)
    (pass : Pass) : assets.Follows (after place pass).assets := by
  rw [after_assets]
  obtain ⟨graph, sites, _, left⟩ := Query.settles_compileInto place.assets.view
    ⟨pass.graph, place.assets⟩ pass.settings place.functions
  have settled : (pass.compile place).2.assets = place.assets.settle place.assets.view sites :=
    congrArg Scene.assets left
  rw [settled]
  exact follows.trans (.settle place.assets sites)

/-- A run leaves the table that all passes have to offer, one after the other. -/
theorem run_eq {assets : Assets} {passes : List Pass}
    (current : ∀ pass ∈ passes, assets.view.Current pass.graph) :
    assets.Follows (run assets passes).assets ∧
      (run assets passes).functions =
        Functions.provideAll .empty (passes.flatMap (offers assets.view)) := by
  have onward {place : Workplace} (follows : assets.Follows place.assets) :
      assets.Follows (passes.foldl after place).assets ∧ (passes.foldl after place).functions =
        place.functions.provideAll (passes.flatMap (offers assets.view)) := by
    induction passes generalizing place with
    | nil => exact ⟨follows, rfl⟩
    | cons pass rest ih =>
      have here : (after place pass).functions =
          place.functions.provideAll (pass.offers assets.view) :=
        after_functions follows (current pass (by simp))
      have later := ih (fun other member => current other (by simp [member]))
        (after_follows follows pass)
      rw [List.foldl_cons, List.flatMap_cons, Functions.provideAll_append, ← here]
      exact later
  exact onward (.refl assets)

end Pass

namespace View

def storedNodes (view : View) : List Node :=
  (view.stored.values.filterMap view.definition?).flatMap fun definition =>
    definition.graph.nodes.values

theorem mem_storedNodes_iff (view : View) (node : Node) : node ∈ view.storedNodes ↔
    ∃ handle definition, view.lookup handle = some definition ∧
      node ∈ definition.graph.nodes.values := by
  constructor
  · intro member
    obtain ⟨definition, listed, inside⟩ := List.mem_flatMap.1 member
    obtain ⟨serial, known, found⟩ := List.mem_filterMap.1 listed
    obtain ⟨⟨handle, _⟩, filed, rfl⟩ := List.mem_map.1 known
    have stored := (view.stored.get?_eq_some_iff handle _).2 filed
    exact ⟨handle, definition, Option.bind_eq_some_iff.2 ⟨_, stored, found⟩, inside⟩
  · rintro ⟨handle, definition, stored, inside⟩
    obtain ⟨serial, known, found⟩ := Option.bind_eq_some_iff.1 stored
    have listed := List.mem_filterMap.2 ⟨serial, Keyed.mem_values_of_get? known, found⟩
    exact List.mem_flatMap.2 ⟨definition, listed, inside⟩

theorem brought_flagNode (view : View) (settings : Settings) (node : Node) :
    (view.flagNode node).brought settings = node.brought settings := by
  rw [Node.brought, flagNode_kind, ← Node.brought]

end View

namespace Pass
variable {view : View} {pass other : Pass}

/-- Whether there is anything to expand. -/
def expands (pass : Pass) : Bool := pass.graph.nodes.values.any fun node => node.wrapper?.isSome

/-- The functions that nodes bring along, those inside stored definitions among them unless there is
nothing to expand. -/
def texts (view : View) (pass : Pass) : List (String × String) :=
  (pass.graph.nodes.values ++ if pass.expands then view.storedNodes else []).filterMap
    (Node.brought pass.settings)

/-- Of two passes: a name stands for one function that nodes bring along, and if both have something to
expand then under settings that agree. -/
structure Agrees (view : View) (pass other : Pass) : Prop where
  texts : ∀ text ∈ pass.texts view, ∀ otherText ∈ other.texts view, text.1 = otherText.1 →
    text.2 = otherText.2
  settings : pass.expands = true → other.expands = true → pass.settings.AgreesWith other.settings

instance (view : View) (pass other : Pass) : Decidable (pass.Agrees view other) :=
  decidable_of_iff
    ((∀ text ∈ pass.texts view, ∀ otherText ∈ other.texts view, text.1 = otherText.1 →
      text.2 = otherText.2) ∧
      (pass.expands = true → other.expands = true → pass.settings.AgreesWith other.settings))
    ⟨fun both => ⟨both.1, both.2⟩, fun agrees => ⟨agrees.texts, agrees.settings⟩⟩

theorem expands_of_unfolds {entry : NodeId × Node} (listed : entry ∈ (view.flag pass.graph).sound)
    {definition : Live} (unfolds : view.Unfolds entry.2 definition) : pass.expands = true := by
  obtain ⟨outer, resolved, _⟩ := unfolds
  obtain ⟨wrapper, kind, _⟩ := Option.bind_eq_some_iff.1 resolved
  have known := View.mem_values_of_mem_sound listed
  rw [View.values_flag] at known
  obtain ⟨before, present, same⟩ := List.mem_map.1 known
  have wraps : before.wrapper? = some wrapper := by
    rw [← view.flagNode_wrapper? before, same, kind]
  exact List.any_eq_true.2 ⟨before, present, by simp [wraps]⟩

theorem mem_texts_inside (expands : pass.expands = true) {handle : Handle} {definition : Live}
    (stored : view.lookup handle = some definition) {node : Node}
    (inside : node ∈ definition.graph.nodes.values) {text : String × String}
    (brought : node.brought pass.settings = some text) : text ∈ pass.texts view := by
  have listed : node ∈ view.storedNodes := (view.mem_storedNodes_iff node).2
    ⟨handle, definition, stored, inside⟩
  refine List.mem_filterMap.2 ⟨node, List.mem_append_right _ ?_, brought⟩
  rwa [if_pos expands]

theorem texts_apart (apart : view.NamesApart pass.settings pass.graph) {text : String × String}
    (member : text ∈ pass.texts view) {handle : Handle} {definition : Live}
    (stored : view.lookup handle = some definition) :
    text.1 ≠ functionName (some definition.toDefinition) := by
  obtain ⟨node, listed, brought⟩ := List.mem_filterMap.1 member
  have clear : view.NodeApart pass.settings node := by
    rcases List.mem_append.1 listed with here | inside
    · exact apart.here node here
    · split at inside
      next =>
        obtain ⟨owner, outer, known, inside⟩ := (view.mem_storedNodes_iff node).1 inside
        exact apart.stored owner outer known node inside
      next => contradiction
  unfold Node.brought at brought
  split at brought
  next call kind =>
    obtain ⟨_, _, rfl⟩ := Option.map_eq_some_iff.1 brought
    exact clear call kind handle definition stored
  next => contradiction

/-- What a pass registers some node brings along, or it is the function of a stored definition. -/
theorem brought_or_own (current : view.Current pass.graph) {offer : String × String}
    (member : offer ∈ pass.offers view) : offer ∈ pass.texts view ∨
      pass.expands = true ∧ ∃ handle definition, view.lookup handle = some definition ∧
        offer = (functionName (some definition.toDefinition), view.ownText pass.settings definition) := by
  unfold offers at member
  split at member
  next =>
    obtain ⟨event, inside, offered⟩ := List.mem_filterMap.1 member
    have reaches {entry : NodeId × Node} (listed : entry ∈ (view.flag pass.graph).sound)
        {definition : Live} (unfolds : view.Unfolds entry.2 definition) :
        ∃ handle, view.lookup handle = some definition :=
      View.stored_of_reaches (current.flag.reaches_of_unfolds (View.mem_values_of_mem_sound listed)
        unfolds)
    cases event with
    | meet owner site node =>
      rcases View.walk_traced _ inside with
        ⟨_, entry, listed, rfl⟩ | ⟨entry, listed, definition, unfolds, _, inner, active, rfl, _⟩
      · have known := View.mem_values_of_mem_sound listed
        rw [View.values_flag] at known
        obtain ⟨before, present, same⟩ := List.mem_map.1 known
        have brought : before.brought pass.settings = some offer := by
          rw [← view.brought_flagNode, same]
          exact offered
        exact .inl (List.mem_filterMap.2 ⟨before, List.mem_append_left _ present, brought⟩)
      · obtain ⟨handle, stored⟩ := reaches listed unfolds
        exact .inl (mem_texts_inside (expands_of_unfolds listed unfolds) stored
          (Graph.mem_values_of_mem_active active) offered)
    | complete definition =>
      obtain ⟨entry, listed, unfolds⟩ := View.walk_traced _ inside
      obtain ⟨handle, stored⟩ := reaches listed unfolds
      exact .inr ⟨expands_of_unfolds listed unfolds, handle, definition, stored,
        (Option.some.inj offered).symm⟩
  next => contradiction

theorem offers_agree (recognisable : view.Recognisable) (current : view.Current pass.graph)
    (otherCurrent : view.Current other.graph) (apart : view.NamesApart pass.settings pass.graph)
    (otherApart : view.NamesApart other.settings other.graph) (agrees : pass.Agrees view other) :
    ∀ offer ∈ pass.offers view, ∀ otherOffer ∈ other.offers view, offer.1 = otherOffer.1 →
      offer.2 = otherOffer.2 := by
  intro offer member otherOffer otherMember name
  rcases brought_or_own current member with text | ⟨expands, handle, definition, stored, rfl⟩
  · rcases brought_or_own otherCurrent otherMember with
      otherText | ⟨_, otherHandle, definition, stored, rfl⟩
    · exact agrees.texts offer text otherOffer otherText name
    · exact absurd name (texts_apart apart text stored)
  · rcases brought_or_own otherCurrent otherMember with
      otherText | ⟨otherExpands, otherHandle, otherDefinition, otherStored, rfl⟩
    · exact absurd name.symm (texts_apart otherApart otherText stored)
    · have called : functionName (some definition.toDefinition) =
          functionName (some otherDefinition.toDefinition) := name
      have same : definition.graph = otherDefinition.graph :=
        recognisable.graph_eq stored otherStored called
      have own : view.ownText other.settings definition =
          view.ownText other.settings otherDefinition := by
        rw [View.ownText, View.ownText, called, same]
      exact ((agrees.settings expands otherExpands).ownText view definition).trans own

/-- Where the passes agree with each other and with themselves, the table holds what they offer. -/
theorem mem_run_iff {assets : Assets} (recognisable : assets.view.Recognisable) {passes : List Pass}
    (current : ∀ pass ∈ passes, assets.view.Current pass.graph)
    (apart : ∀ pass ∈ passes, assets.view.NamesApart pass.settings pass.graph)
    (agree : ∀ pass ∈ passes, ∀ other ∈ passes, pass.Agrees assets.view other)
    (function : String × String) : function ∈ (run assets passes).functions.entries ↔
      ∃ pass ∈ passes, function ∈ pass.offers assets.view := by
  rw [(run_eq current).2, ← List.mem_flatMap]
  apply Functions.mem_provideAll_iff
  intro offer offered other otherOffered
  obtain ⟨first, inFirst, offered⟩ := List.mem_flatMap.1 offered
  obtain ⟨second, inSecond, otherOffered⟩ := List.mem_flatMap.1 otherOffered
  exact offers_agree recognisable (current first inFirst) (current second inSecond)
    (apart first inFirst) (apart second inSecond) (agree first inFirst second inSecond) offer offered
    other otherOffered

theorem offers_eq {report : Report} {flagged : ShaderGraph}
    (validated : view.validate pass.graph = .ok (report, flagged)) :
    pass.offers view = view.offers pass.settings (view.flag pass.graph) :=
  if_pos (by rw [validated]; rfl)

end Pass

theorem View.compile_eq_of_validate {view : View} {settings : Settings}
    {graph flagged : ShaderGraph} {report : Report}
    (validated : view.validate graph = .ok (report, flagged)) :
    view.compile settings graph = .ok ({ (view.emit settings .empty report flagged).1 with
      functions := (view.generate settings .empty flagged).entries }, flagged) := by
  rw [compile, compileInto, validated]
  rfl

/-- Whatever the code of a compiled graph calls for is registered, at every depth. -/
theorem View.exists_registered_of_counted {assets : Assets} (reached : assets.Reached)
    {settings : Settings} {graph : ShaderGraph} (current : assets.view.Current graph)
    {answer : Report × ShaderGraph} (validated : assets.view.validate graph = .ok answer) {node : Node}
    (counted : assets.view.Counted (assets.view.flag graph) node) {name : String}
    (called : assets.view.functionOf settings node = some name) :
    ∃ body, (name, body) ∈
      (assets.view.generate settings .empty (assets.view.flag graph)).entries := by
  have coherent := View.coherent_of_reached reached
  obtain ⟨first, covered⟩ :=
    soundWalk_insideFirst coherent current (answered_of_validate validated)
  have event : ∃ event ∈ assets.view.soundWalk (assets.view.flag graph),
      event.function? settings = some name := by
    obtain ⟨entry, listed, rfl | ⟨definition, unfolds, inner, active, rfl⟩⟩ := counted
    · exact exists_called_of_covered (covered entry listed) called
    · have left := first.complete_of_unfolds (covered entry listed) unfolds
      exact exists_called_of_covered (first.prepared left inner active) called
  obtain ⟨⟨_, body⟩, listed, rfl⟩ :=
    List.mem_map.1 ((assets.view.mem_keys_foldl_register_iff settings .empty _ name).2 (.inr event))
  exact ⟨body, listed⟩

/-- What comes out of a pass by itself, beside its answer in a run and the table: the answer differs in
nothing but that the functions are not with it, whatever is called is among them, and they all stand in
the table. -/
structure Pass.Served (view : View) (pass : Pass) (answer : Except ValidationError Compiled)
    (functions : Functions) (alone : Compiled) (flagged : ShaderGraph) : Prop where
  compiled : view.compile pass.settings pass.graph = .ok (alone, flagged)
  same : answer = .ok { alone with functions := [] }
  called : ∀ node, view.Counted flagged node → ∀ name,
    view.functionOf pass.settings node = some name → ∃ body, (name, body) ∈ alone.functions
  held : ∀ function ∈ alone.functions, function ∈ functions.entries

/-- However many passes share a table, once one has succeeded the table holds what the pass calls as it
comes out of the pass by itself, if the passes agree on what the names stand for. -/
theorem run_served {assets : Assets} (reached : assets.Reached)
    (recognisable : assets.view.Recognisable) {passes : List Pass}
    (current : ∀ pass ∈ passes, assets.view.Current pass.graph)
    (apart : ∀ pass ∈ passes, assets.view.NamesApart pass.settings pass.graph)
    (agree : ∀ pass ∈ passes, ∀ other ∈ passes, pass.Agrees assets.view other)
    {before after : List Pass} {pass : Pass} (split : passes = before ++ pass :: after)
    (succeeds : (pass.compile (Pass.run assets before)).1.toBool = true) :
    ∃ alone flagged, pass.Served assets.view
      ((pass.compile (Pass.run assets before)).1.map (·.1)) (Pass.run assets passes).functions
      alone flagged := by
  have member : pass ∈ passes := by simp [split]
  have here : assets.view.Current pass.graph := current pass member
  obtain ⟨follows, _⟩ : assets.Follows (Pass.run assets before).assets ∧ _ :=
    Pass.run_eq fun other earlier => current other (by simp [split, earlier])
  have answer := Pass.compile_eq follows here
  unfold View.compileInto at answer
  cases validated : assets.view.validate pass.graph with
  | error cause =>
    rw [answer, validated] at succeeds
    contradiction
  | ok result =>
    obtain ⟨report, flagged⟩ := result
    obtain rfl := View.eq_flag_of_validate validated
    refine ⟨_, _, View.compile_eq_of_validate validated, ?_, ?_, ?_⟩
    · rw [answer, validated]
      rfl
    · exact fun node counted name called =>
        View.exists_registered_of_counted reached here validated counted called
    · intro function listed
      have offered : function ∈ pass.offers assets.view := by
        rw [Pass.offers_eq validated]
        rw [View.generate_eq_provideAll] at listed
        exact (Functions.mem_of_mem_provideAll listed).resolve_left (by simp [Keyed.empty])
      exact (Pass.mem_run_iff recognisable current apart agree function).2 ⟨pass, member, offered⟩

namespace Pass

/-- A definition with a number for its property. -/
def scale : Definition :=
  ⟨⟨1, 1⟩, "Scaling", { ShaderGraph.root ⟨1, 0⟩ "Scaling" with
    properties := [⟨⟨4, 0⟩, "Scale", "Scale", .float .zero⟩] }⟩

def scaling : Assets := Assets.empty.storeAll [scale]

/-- A function whose text depends on the type of the context as well as on the precision, and whose
name depends on the latter. -/
def shading (graph : ShaderGraph) : ShaderGraph :=
  graph.addNode (Node.make ⟨3, 2⟩ "Shade" (.function ⟨"shade", "shade_$precision",
    some "void shade_$precision($context $in) \x7b\x7d", true, .none⟩))

def half : Settings := { Settings.standard with precision := .half }

def vertex : Settings := { Settings.standard with contextType := "VertexInputs" }

/-- The precision may change as long as only one is used for definitions; the third pass is refused. -/
def sharing : List Pass :=
  [⟨.standard, View.wrapping 3 "First" ⟨1, 1⟩⟩, ⟨half, shading (.root ⟨3, 0⟩ "Second")⟩,
    ⟨.standard, View.wrapping 1 "Third" ⟨1, 1⟩⟩]

theorem sharing_served :
    let pass : Pass := ⟨{ Settings.standard with entryPoint := "Other" },
      shading (View.wrapping 3 "Fourth" ⟨1, 1⟩)⟩
    let passes := sharing ++ pass :: []
    let view := scaling.view
    scaling.Reached ∧ view.Recognisable ∧ (∀ pass ∈ passes, view.Current pass.graph) ∧
      (∀ pass ∈ passes, view.NamesApart pass.settings pass.graph) ∧
      (∀ pass ∈ passes, ∀ other ∈ passes, pass.Agrees view other) ∧
      (pass.compile (run scaling sharing)).1.toBool = true ∧
      (run scaling passes).functions.keys =
        ["Scaling_00000000000000010000000000000000", "shade_half", "shade_float"] ∧
      ∃ alone flagged, pass.Served view ((pass.compile (run scaling sharing)).1.map (·.1))
        (run scaling passes).functions alone flagged := by
  intro pass passes view
  have reached : scaling.Reached := Assets.Reached.empty.storeAll _
  have recognisable : view.Recognisable := by decide +kernel
  have current : ∀ pass ∈ passes, view.Current pass.graph := by decide +kernel
  have apart : ∀ pass ∈ passes, view.NamesApart pass.settings pass.graph := by decide +kernel
  have agree : ∀ pass ∈ passes, ∀ other ∈ passes, pass.Agrees view other := by decide +kernel
  have succeeds : (pass.compile (run scaling sharing)).1.toBool = true := by decide +kernel
  exact ⟨reached, recognisable, current, apart, agree, succeeds, by decide +kernel,
    run_served reached recognisable current apart agree rfl succeeds⟩

/-- Two passes over one graph succeed, and the table is left with a text that does not come out of the
second one by itself. -/
def Mixes (first second : Settings) (graph : ShaderGraph) (name held own : String) : Prop :=
  let passes : List Pass := [⟨first, graph⟩, ⟨second, graph⟩]
  scaling.Reached ∧ scaling.view.Distinct ∧ scaling.view.Fresh graph ∧
    (∀ pass ∈ passes, scaling.view.NamesApart pass.settings graph) ∧
    (∀ pass ∈ passes, (scaling.view.compile pass.settings graph).toBool = true) ∧
    ((Pass.mk second graph).compile (run scaling [⟨first, graph⟩])).1.toBool = true ∧
    (name, held) ∈ (run scaling passes).functions.entries ∧
    (scaling.view.compile second graph).map (fun result =>
      decide ((name, own) ∈ result.1.functions)) = .ok true ∧ held ≠ own

/-- The precision is in the name of no definition, and the type of the context not in the name of a
function that a node brings along. -/
theorem changed_settings_mix :
    Mixes .standard half (View.wrapping 3 "Root" ⟨1, 1⟩) "Scaling_00000000000000010000000000000000"
        (scaling.view.ownText .standard ⟨scale, 0⟩) (scaling.view.ownText half ⟨scale, 0⟩) ∧
      Mixes .standard vertex (shading (.root ⟨3, 0⟩ "Root")) "shade_float"
        "void shade_float(SurfaceInputs IN) \x7b\x7d\n"
        "void shade_float(VertexInputs IN) \x7b\x7d\n" := by
  refine ⟨⟨Assets.Reached.empty.storeAll _, ?_⟩, ⟨Assets.Reached.empty.storeAll _, ?_⟩⟩
  · decide +kernel
  · decide +kernel

end Pass
end NodeShader

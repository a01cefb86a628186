import NodeShader.Proofs.Store
import NodeShader.Proofs.Unfolding

/-! The walk of code generation, where nothing is missing or broken below the nodes that it starts
from. A definition is entered wherever a wrapper of it is met, as none of them comes back to itself,
and it is left only after all active nodes inside it were met and their definitions were left. -/
namespace NodeShader.View

/-- What is stored under a handle knows this handle as its own. -/
def Coherent (view : View) : Prop :=
  ∀ handle definition, view.lookup handle = some definition → definition.handle = handle

theorem coherent_of_reached {assets : Assets} (reached : assets.Reached) : assets.view.Coherent :=
  fun _ _ => reached.handle_of_lookup

theorem Coherent.stored {view : View} {handle : Handle} {definition : Live}
    (coherent : view.Coherent) (stored : view.lookup handle = some definition) :
    view.lookup definition.handle = some definition := by
  rw [coherent handle definition stored, stored]

/-- The node was met, and the definition that it stands for was left. -/
def Covered (view : View) (events : List Event) (graph : ShaderGraph) (node : Node) : Prop :=
  (∃ site, Event.meet graph site node ∈ events) ∧
    ∀ definition, node.wrapper?.bind view.resolve = some definition →
      Event.complete definition ∈ events

def Prepared (view : View) (events : List Event) (definition : Live) : Prop :=
  ∀ entry ∈ definition.graph.active, view.Covered events definition.graph entry.2

/-- Whenever a definition is left it was prepared before. -/
def InsideFirst (view : View) (events : List Event) : Prop :=
  ∀ before definition after, events = before ++ .complete definition :: after →
    view.Prepared before definition

theorem Covered.mono {view : View} {events more : List Event} {graph : ShaderGraph} {node : Node}
    (covered : view.Covered events graph node) (grown : events ⊆ more) :
    view.Covered more graph node := by
  obtain ⟨⟨site, met⟩, left⟩ := covered
  exact ⟨⟨site, grown met⟩, fun definition resolved => grown (left definition resolved)⟩

theorem Prepared.mono {view : View} {events more : List Event} {definition : Live}
    (prepared : view.Prepared events definition) (grown : events ⊆ more) :
    view.Prepared more definition := fun entry member => (prepared entry member).mono grown

namespace InsideFirst
variable {view : View} {events others : List Event}

theorem nil : view.InsideFirst [] := by
  intro before definition after same
  simp at same

theorem meet (graph : ShaderGraph) (site : Site) (node : Node) :
    view.InsideFirst [.meet graph site node] := by
  intro before definition after same
  rcases List.append_eq_cons_iff.1 same.symm with ⟨_, same⟩ | ⟨rest, _, same⟩ <;> simp at same

theorem append (first : view.InsideFirst events) (second : view.InsideFirst others) :
    view.InsideFirst (events ++ others) := by
  intro before definition after same
  rcases List.append_eq_append_iff.1 same with ⟨rest, rfl, last⟩ | ⟨rest, rfl, last⟩
  · exact (second rest definition after last).mono (List.subset_append_right _ _)
  · cases rest with
    | nil => exact (second [] definition after last.symm).mono (List.nil_subset _)
    | cons event rest =>
      obtain ⟨rfl, rfl⟩ := List.cons.inj last
      exact first before definition rest rfl

theorem complete {definition : Live} (first : view.InsideFirst events)
    (prepared : view.Prepared events definition) :
    view.InsideFirst (events ++ [.complete definition]) := by
  intro before other after same
  rcases List.append_eq_append_iff.1 same with ⟨rest, rfl, last⟩ | ⟨rest, rfl, last⟩
  · cases rest with
    | nil =>
      obtain ⟨equal, _⟩ := List.cons.inj last
      cases equal
      exact prepared.mono (List.subset_append_left _ _)
    | cons event rest => simp at last
  · cases rest with
    | nil =>
      obtain ⟨equal, _⟩ := List.cons.inj last
      cases equal
      rwa [List.append_nil] at prepared
    | cons event rest =>
      obtain ⟨rfl, rfl⟩ := List.cons.inj last
      exact first before other rest rfl

theorem flatMap {α : Type} {items : List α} {segment : α → List Event}
    (each : ∀ item ∈ items, view.InsideFirst (segment item)) :
    view.InsideFirst (items.flatMap segment) := by
  induction items with
  | nil => exact nil
  | cons item rest ih =>
    rw [List.flatMap_cons]
    exact (each item (by simp)).append (ih fun other member => each other (by simp [member]))

theorem prepared (first : view.InsideFirst events) {definition : Live}
    (left : .complete definition ∈ events) : view.Prepared events definition := by
  obtain ⟨before, after, rfl⟩ := List.append_of_mem left
  exact (first before definition after rfl).mono (List.subset_append_left _ _)

theorem complete_of_expands (first : view.InsideFirst events) {outer inner : Live}
    (left : .complete outer ∈ events) (expands : view.Expands outer.graph inner) :
    .complete inner ∈ events := by
  obtain ⟨entry, active, resolved⟩ := expands
  exact (first.prepared left entry active).2 inner resolved

theorem complete_of_reaches (first : view.InsideFirst events) {outer inner : Live}
    (left : .complete outer ∈ events) (path : Reaches view.Expands outer.graph inner) :
    .complete inner ∈ events := by
  induction path with
  | direct expands => exact first.complete_of_expands left expands
  | further _ expands ih => exact first.complete_of_expands ih expands

theorem complete_of_unfolds (first : view.InsideFirst events) {graph : ShaderGraph} {node : Node}
    (covered : view.Covered events graph node) {definition : Live}
    (unfolds : view.Unfolds node definition) : .complete definition ∈ events :=
  unfolds.induction covered.2 fun _ _ left expands => first.complete_of_expands left expands

end InsideFirst

/-- A definition that is met inside another one has another handle, where nothing is at fault. -/
theorem handle_ne_of_reaches {view : View} {graph : ShaderGraph} {node : Node} {outer inner : Live}
    (coherent : view.Coherent) (current : view.Current graph) (member : node ∈ graph.nodes.values)
    (intact : view.Intact node) (resolved : node.wrapper?.bind view.resolve = some outer)
    (path : Reaches view.Expands outer.graph inner) : inner.handle ≠ outer.handle := by
  intro same
  obtain ⟨handle, stored⟩ :=
    stored_of_reaches (current.reaches_of_unfolds member ⟨outer, resolved, .inl rfl⟩)
  obtain ⟨innerHandle, innerStored⟩ :=
    stored_of_reaches (current.reaches_of_unfolds member ⟨outer, resolved, .inr path⟩)
  rw [coherent handle outer stored, coherent innerHandle inner innerStored] at same
  rw [same, stored] at innerStored
  cases innerStored
  exact intact.apart resolved path rfl

/-- What a walk starts from: nodes of a graph below which nothing is missing or broken, and nothing
is being expanded already. -/
structure Passable (view : View) (opened : List Handle) (graph : ShaderGraph)
    (nodes : List (NodeId × Node)) : Prop where
  current : view.Current graph
  known : ∀ entry ∈ nodes, entry.2 ∈ graph.nodes.values
  intact : ∀ entry ∈ nodes, view.Intact entry.2
  opened : ∀ entry ∈ nodes, ∀ definition, view.Unfolds entry.2 definition →
    definition.handle ∈ opened

theorem mem_values_of_mem_sound {graph : ShaderGraph} {entry : NodeId × Node}
    (member : entry ∈ graph.sound) : entry.2 ∈ graph.nodes.values :=
  Graph.mem_values_of_mem_active (List.mem_filter.1 member).1

theorem Passable.start {view : View} {graph : ShaderGraph} (current : view.Current graph)
    (answered : ∀ node ∈ graph.nodes.values, view.fault view.serials node ≠ none) :
    view.Passable view.handles (view.flag graph) (view.flag graph).sound := by
  refine ⟨current.flag, fun _ member => mem_values_of_mem_sound member,
    fun _ member => intact_of_mem_sound answered member, ?_⟩
  intro entry member definition unfolds
  obtain ⟨handle, stored⟩ :=
    stored_of_reaches (current.flag.reaches_of_unfolds (mem_values_of_mem_sound member) unfolds)
  exact List.mem_map.2 ⟨definition, mem_live_of_lookup stored, rfl⟩

theorem Passable.inside {view : View} {opened : List Handle} {graph : ShaderGraph}
    {nodes inner : List (NodeId × Node)} (passable : view.Passable opened graph nodes)
    (coherent : view.Coherent) {entry : NodeId × Node} (member : entry ∈ nodes) {definition : Live}
    (resolved : entry.2.wrapper?.bind view.resolve = some definition)
    (active : inner ⊆ definition.graph.active) :
    view.Passable (without opened definition.handle) definition.graph inner := by
  have known := passable.known entry member
  have intact := passable.intact entry member
  refine ⟨?_, ?_, ?_, ?_⟩
  · exact passable.current.reaches
      (passable.current.reaches_of_unfolds known ⟨definition, resolved, .inl rfl⟩)
  · exact fun other listed => Graph.mem_values_of_mem_active (active listed)
  · exact fun other listed => (intact.inside resolved other (active listed)).2
  · intro other listed deeper unfolds
    have path := reaches_of_unfolds (active listed) unfolds
    exact mem_without.2 ⟨passable.opened entry member deeper ⟨definition, resolved, .inr path⟩,
      handle_ne_of_reaches coherent passable.current known intact resolved path⟩

private theorem covered_flatMap {view : View} {graph : ShaderGraph} {nodes : List (NodeId × Node)}
    {segment : NodeId × Node → List Event}
    (each : ∀ entry ∈ nodes, view.InsideFirst (segment entry) ∧
      view.Covered (segment entry) graph entry.2) :
    view.InsideFirst (nodes.flatMap segment) ∧
      ∀ entry ∈ nodes, view.Covered (nodes.flatMap segment) graph entry.2 := by
  refine ⟨.flatMap fun entry member => (each entry member).1, ?_⟩
  intro entry member
  apply (each entry member).2.mono
  intro event inside
  exact List.mem_flatMap.2 ⟨entry, member, inside⟩

theorem walk_insideFirst {view : View} (coherent : view.Coherent) {chosen : Node → Bool}
    (sound : ∀ node, node.hasError = false → chosen node = true) {opened : List Handle}
    {owner : Option Serial} {graph : ShaderGraph} {nodes : List (NodeId × Node)}
    (passable : view.Passable opened graph nodes) :
    view.InsideFirst (view.walk chosen opened owner graph nodes) ∧
      ∀ entry ∈ nodes, view.Covered (view.walk chosen opened owner graph nodes) graph entry.2 := by
  induction opened, owner, graph, nodes using walk.induct chosen with
  | case1 opened owner graph nodes ih =>
    rw [walk]
    apply covered_flatMap
    intro entry member
    split
    next missing =>
      exact ⟨InsideFirst.meet graph ⟨owner, entry.1⟩ entry.2, ⟨_, List.mem_cons_self⟩,
        by simp [missing]⟩
    next definition resolved =>
      have inside := passable.opened entry member definition ⟨definition, resolved, .inl rfl⟩
      have intact := (passable.intact entry member).inside resolved
      obtain ⟨first, covered⟩ := ih definition inside
        (passable.inside coherent member resolved List.filter_sublist.subset)
      rw [dif_pos inside]
      -- Nothing inside an intact definition is flagged, so the walk leaves out none of its nodes.
      have prepared : view.Prepared (view.walk chosen (without opened definition.handle)
          (some definition.serial) definition.graph
          (definition.graph.active.filter fun inner => chosen inner.2)) definition :=
        fun inner active => covered inner (List.mem_filter.2
          ⟨active, sound inner.2 (intact inner active).1⟩)
      refine ⟨(InsideFirst.meet graph ⟨owner, entry.1⟩ entry.2).append (first.complete prepared),
        ⟨_, List.mem_cons_self⟩, ?_⟩
      intro other same
      cases resolved.symm.trans same
      simp

/-- An active wrapper of the graph that is chosen stands for the definition. -/
def Leads (view : View) (chosen : Node → Bool) (graph : ShaderGraph) (definition : Live) : Prop :=
  ∃ entry ∈ graph.active, chosen entry.2 = true ∧
    entry.2.wrapper?.bind view.resolve = some definition

/-- The definition that one of the nodes stands for, or one that chosen wrappers lead to from there. -/
def Enters (view : View) (chosen : Node → Bool) (nodes : List (NodeId × Node)) (definition : Live) :
    Prop :=
  ∃ entry ∈ nodes, ∃ outer, entry.2.wrapper?.bind view.resolve = some outer ∧
    (definition = outer ∨ Reaches (view.Leads chosen) outer.graph definition)

theorem leads_iff {view : View} {chosen : Node → Bool} {graph : ShaderGraph} {definition : Live} :
    view.Leads chosen graph definition ↔
      ∃ entry ∈ graph.active.filter fun inner => chosen inner.2,
        entry.2.wrapper?.bind view.resolve = some definition := by
  simp only [Leads, List.mem_filter, and_assoc]

namespace Enters
variable {view : View} {chosen : Node → Bool} {nodes : List (NodeId × Node)} {definition : Live}

/-- What the chosen nodes of a graph enter is what chosen wrappers lead to from it. -/
theorem iff_reaches {graph : ShaderGraph} :
    view.Enters chosen (graph.active.filter fun inner => chosen inner.2) definition ↔
      Reaches (view.Leads chosen) graph definition := by
  constructor
  · rintro ⟨entry, listed, outer, resolved, rfl | path⟩
    · exact .direct (leads_iff.2 ⟨entry, listed, resolved⟩)
    · exact .head (leads_iff.2 ⟨entry, listed, resolved⟩) path
  · intro path
    rcases path.cases_head with leads | ⟨between, leads, rest⟩
    · obtain ⟨entry, listed, resolved⟩ := leads_iff.1 leads
      exact ⟨entry, listed, definition, resolved, .inl rfl⟩
    · obtain ⟨entry, listed, resolved⟩ := leads_iff.1 leads
      exact ⟨entry, listed, between, resolved, .inr rest⟩

theorem inside {entry : NodeId × Node} (member : entry ∈ nodes) {outer : Live}
    (resolved : entry.2.wrapper?.bind view.resolve = some outer)
    (below : view.Enters chosen (outer.graph.active.filter fun inner => chosen inner.2) definition) :
    view.Enters chosen nodes definition :=
  ⟨entry, member, outer, resolved, .inr (iff_reaches.1 below)⟩

theorem exists_unfolds (enters : view.Enters chosen nodes definition) :
    ∃ entry ∈ nodes, view.Unfolds entry.2 definition := by
  obtain ⟨entry, member, outer, resolved, path⟩ := enters
  refine ⟨entry, member, outer, resolved, path.imp_right fun path => ?_⟩
  exact path.mono fun _ _ ⟨inner, active, _, stands⟩ => ⟨inner, active, stands⟩

end Enters

/-- A node that a walk meets is one of those it starts from, or a chosen one of a definition that it
enters; and only such definitions are left. -/
def Finds (view : View) (chosen : Node → Bool) (graph : ShaderGraph) (nodes : List (NodeId × Node)) :
    Event → Prop
  | .meet owner _ node => (owner = graph ∧ ∃ entry ∈ nodes, entry.2 = node) ∨
      ∃ definition, view.Enters chosen nodes definition ∧ owner = definition.graph ∧
        ∃ inner ∈ definition.graph.active, inner.2 = node ∧ chosen node = true
  | .complete definition => view.Enters chosen nodes definition

theorem Finds.outside {view : View} {chosen : Node → Bool} {graph : ShaderGraph}
    {nodes : List (NodeId × Node)} {entry : NodeId × Node} (member : entry ∈ nodes)
    {definition : Live} (resolved : entry.2.wrapper?.bind view.resolve = some definition)
    {event : Event}
    (finds : view.Finds chosen definition.graph
      (definition.graph.active.filter fun inner => chosen inner.2) event) :
    view.Finds chosen graph nodes event := by
  cases event with
  | meet owner site node =>
    rcases finds with ⟨rfl, inner, listed, rfl⟩ | ⟨deeper, enters, same, found⟩
    · obtain ⟨active, picked⟩ := List.mem_filter.1 listed
      exact .inr ⟨definition, ⟨entry, member, definition, resolved, .inl rfl⟩, rfl, inner, active,
        rfl, picked⟩
    · exact .inr ⟨deeper, enters.inside member resolved, same, found⟩
  | complete deeper => exact Enters.inside member resolved finds

theorem walk_finds {view : View} {chosen : Node → Bool} {opened : List Handle}
    {owner : Option Serial} {graph : ShaderGraph} {nodes : List (NodeId × Node)} :
    ∀ event ∈ view.walk chosen opened owner graph nodes, view.Finds chosen graph nodes event := by
  induction opened, owner, graph, nodes using walk.induct chosen with
  | case1 opened owner graph nodes ih =>
    intro event member
    rw [walk] at member
    obtain ⟨entry, listed, member⟩ := List.mem_flatMap.1 member
    rcases List.mem_cons.1 member with rfl | member
    · exact .inl ⟨rfl, entry, listed, rfl⟩
    · split at member
      next => simp at member
      next definition resolved =>
        split at member
        next inside =>
          rcases List.mem_append.1 member with inner | last
          · exact (ih definition inside event inner).outside listed resolved
          · rw [List.mem_singleton.1 last]
            exact ⟨entry, listed, definition, resolved, .inl rfl⟩
        next => simp at member

/-- A node that is met is one of those that the walk starts from, or a chosen one of a definition that
these unfold to; and only such definitions are left. -/
def Traced (view : View) (chosen : Node → Bool) (graph : ShaderGraph) (nodes : List (NodeId × Node)) :
    Event → Prop
  | .meet owner _ node => (owner = graph ∧ ∃ entry ∈ nodes, entry.2 = node) ∨
      ∃ entry ∈ nodes, ∃ definition, view.Unfolds entry.2 definition ∧ owner = definition.graph ∧
        ∃ inner ∈ definition.graph.active, inner.2 = node ∧ chosen node = true
  | .complete definition => ∃ entry ∈ nodes, view.Unfolds entry.2 definition

theorem walk_traced {view : View} {chosen : Node → Bool} {opened : List Handle}
    {owner : Option Serial} {graph : ShaderGraph} {nodes : List (NodeId × Node)} :
    ∀ event ∈ view.walk chosen opened owner graph nodes, view.Traced chosen graph nodes event := by
  intro event member
  have finds := walk_finds event member
  cases event with
  | meet owner site node =>
    refine finds.imp_right fun ⟨definition, enters, found⟩ => ?_
    obtain ⟨entry, listed, unfolds⟩ := enters.exists_unfolds
    exact ⟨entry, listed, definition, unfolds, found⟩
  | complete definition => exact Enters.exists_unfolds finds

def Origin (view : View) (graph : ShaderGraph) : Event → Prop
  | .meet owner _ node => (owner = graph ∨ view.Filed owner) ∧ node ∈ owner.nodes.values
  | .complete definition => ∃ handle, view.lookup handle = some definition

theorem walk_origin {view : View} {chosen : Node → Bool} {opened : List Handle}
    {owner : Option Serial} {graph : ShaderGraph} {nodes : List (NodeId × Node)}
    (current : view.Current graph) (known : ∀ entry ∈ nodes, entry.2 ∈ graph.nodes.values) :
    ∀ event ∈ view.walk chosen opened owner graph nodes, view.Origin graph event := by
  intro event member
  have traced := walk_traced event member
  cases event with
  | meet other site node =>
    rcases traced with ⟨rfl, entry, listed, rfl⟩ | ⟨entry, listed, definition, unfolds, rfl, met⟩
    · exact ⟨.inl rfl, known entry listed⟩
    · obtain ⟨inner, active, rfl, _⟩ := met
      exact ⟨.inr (filed_of_reaches (current.reaches_of_unfolds (known entry listed) unfolds)),
        Graph.mem_values_of_mem_active active⟩
  | complete definition =>
    obtain ⟨entry, listed, unfolds⟩ := traced
    exact stored_of_reaches (current.reaches_of_unfolds (known entry listed) unfolds)

theorem soundWalk_insideFirst {view : View} {graph : ShaderGraph} (coherent : view.Coherent)
    (current : view.Current graph)
    (answered : ∀ node ∈ graph.nodes.values, view.fault view.serials node ≠ none) :
    view.InsideFirst (view.soundWalk (view.flag graph)) ∧
      ∀ entry ∈ (view.flag graph).sound,
        view.Covered (view.soundWalk (view.flag graph)) (view.flag graph) entry.2 :=
  walk_insideFirst coherent (fun _ unflagged => by simp [unflagged]) (.start current answered)

theorem fullWalk_insideFirst {view : View} {graph : ShaderGraph} (coherent : view.Coherent)
    (current : view.Current graph)
    (answered : ∀ node ∈ graph.nodes.values, view.fault view.serials node ≠ none) :
    view.InsideFirst (view.fullWalk (view.flag graph) (view.flag graph).sound) ∧
      ∀ entry ∈ (view.flag graph).sound, view.Covered
        (view.fullWalk (view.flag graph) (view.flag graph).sound) (view.flag graph) entry.2 :=
  walk_insideFirst coherent (fun _ _ => rfl) (.start current answered)

theorem soundWalk_origin {view : View} {graph : ShaderGraph} (current : view.Current graph) :
    ∀ event ∈ view.soundWalk graph, view.Origin graph event :=
  walk_origin current fun _ member => mem_values_of_mem_sound member

end NodeShader.View

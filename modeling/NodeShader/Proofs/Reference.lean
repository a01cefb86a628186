import NodeShader.Proofs.Lookup
import NodeShader.Proofs.Order
import NodeShader.Proofs.Outcome
import NodeShader.Validation
import Mathlib.Data.List.Chain
import Mathlib.Data.List.TakeWhile

/-! References between graphs. The search through them keys graphs by their ids; where ids tell
graphs apart it succeeds exactly when no definition comes back to itself and every graph met can be
put in order, and a failure names a ring of references or a graph whose connections are cyclic. -/
namespace NodeShader

/-- The definitions that one leads to from a graph, in one step or several. -/
inductive Reaches (step : ShaderGraph → Live → Prop) (graph : ShaderGraph) : Live → Prop where
  | direct {definition : Live} (first : step graph definition) : Reaches step graph definition
  | further {between definition : Live} (earlier : Reaches step graph between)
      (last : step between.graph definition) : Reaches step graph definition

namespace Reaches
variable {step : ShaderGraph → Live → Prop} {graph : ShaderGraph} {between definition : Live}

theorem trans (first : Reaches step graph between) (second : Reaches step between.graph definition) :
    Reaches step graph definition := by
  induction second with
  | direct last => exact .further first last
  | further _ last ih => exact .further ih last

theorem head (first : step graph between) (second : Reaches step between.graph definition) :
    Reaches step graph definition := trans (.direct first) second

theorem cases_head (path : Reaches step graph definition) :
    step graph definition ∨
      ∃ between, step graph between ∧ Reaches step between.graph definition := by
  induction path with
  | direct first => exact .inl first
  | further _ last ih =>
    rcases ih with first | ⟨next, first, rest⟩
    · exact .inr ⟨_, first, .direct last⟩
    · exact .inr ⟨next, first, .further rest last⟩

theorem mono {other : ShaderGraph → Live → Prop}
    (weaker : ∀ graph definition, step graph definition → other graph definition)
    (path : Reaches step graph definition) : Reaches other graph definition := by
  induction path with
  | direct first => exact .direct (weaker _ _ first)
  | further _ last ih => exact .further ih (weaker _ _ last)

/-- What is led to depends on the first step alone. -/
theorem imp {other : ShaderGraph} (first : ∀ next, step graph next → step other next)
    (path : Reaches step graph definition) : Reaches step other definition := by
  rcases path.cases_head with here | ⟨between, here, rest⟩
  · exact .direct (first definition here)
  · exact .head (first between here) rest

end Reaches

theorem Node.wrapper?_eq_some_iff (node : Node) (wrapper : Wrapper) :
    node.wrapper? = some wrapper ↔ node.kind = .wrapper wrapper := by
  unfold wrapper?
  split <;> simp_all

namespace View

/-- A graph refers to what is stored under the handles of its wrappers, enabled or not. -/
def Refers (view : View) (graph : ShaderGraph) (definition : Live) : Prop :=
  ∃ node ∈ graph.nodes.values, ∃ wrapper handle, node.kind = .wrapper wrapper ∧
    wrapper.handle = some handle ∧ view.lookup handle = some definition

theorem mem_referenced_iff (view : View) (graph : ShaderGraph) (definition : Live) :
    definition ∈ view.referenced graph ↔ view.Refers graph definition := by
  constructor
  · intro member
    obtain ⟨⟨id, handle⟩, listed, stored⟩ := List.mem_filterMap.1 member
    obtain ⟨node, present, read⟩ := List.mem_filterMap.1 listed
    obtain ⟨wrapper, kind, read⟩ := Option.bind_eq_some_iff.1 read
    obtain ⟨bound, given, read⟩ := Option.bind_eq_some_iff.1 read
    cases read
    exact ⟨node, present, wrapper, handle, (node.wrapper?_eq_some_iff wrapper).1 kind, given, stored⟩
  · rintro ⟨node, present, wrapper, handle, kind, given, stored⟩
    refine List.mem_filterMap.2 ⟨(node.id, handle), List.mem_filterMap.2 ⟨node, present, ?_⟩, stored⟩
    simp [(node.wrapper?_eq_some_iff wrapper).2 kind, given]

/-- The graph itself, or the graph of a definition that it leads to. -/
def Within (view : View) (root graph : ShaderGraph) : Prop :=
  graph = root ∨ ∃ definition, Reaches view.Refers root definition ∧ definition.graph = graph

theorem mem_live_of_lookup {view : View} {handle : Handle} {definition : Live}
    (stored : view.lookup handle = some definition) : definition ∈ view.live := by
  obtain ⟨serial, _, found⟩ := Option.bind_eq_some_iff.1 stored
  exact List.mem_of_find?_eq_some found

theorem forall_lookup_iff (view : View) (holds : Handle → Live → Prop) :
    (∀ handle definition, view.lookup handle = some definition → holds handle definition) ↔
      ∀ entry ∈ view.stored.entries, ∀ definition ∈ view.definition? entry.2,
        holds entry.1 definition := by
  constructor
  · intro all entry member definition found
    refine all entry.1 definition (Option.bind_eq_some_iff.2 ⟨entry.2, ?_, found⟩)
    exact (view.stored.get?_eq_some_iff _ _).2 member
  · intro all handle definition stored
    obtain ⟨serial, known, found⟩ := Option.bind_eq_some_iff.1 stored
    exact all (handle, serial) ((view.stored.get?_eq_some_iff _ _).1 known) definition found

instance (view : View) (holds : Handle → Live → Prop)
    [∀ handle definition, Decidable (holds handle definition)] :
    Decidable (∀ handle definition, view.lookup handle = some definition →
      holds handle definition) :=
  decidable_of_iff _ (view.forall_lookup_iff holds).symm

/-- The ids of graphs tell definitions under different handles apart. -/
def Distinct (view : View) : Prop :=
  ∀ handle definition, view.lookup handle = some definition →
    ∀ other otherDefinition, view.lookup other = some otherDefinition →
      definition.graph.guid = otherDefinition.graph.guid → handle = other

instance (view : View) : Decidable view.Distinct :=
  inferInstanceAs (Decidable (∀ handle definition, view.lookup handle = some definition →
    ∀ other otherDefinition, view.lookup other = some otherDefinition →
      definition.graph.guid = otherDefinition.graph.guid → handle = other))

theorem Distinct.eq_of_guid {view : View} (distinct : view.Distinct) {handle other : Handle}
    {definition otherDefinition : Live} (stored : view.lookup handle = some definition)
    (otherStored : view.lookup other = some otherDefinition)
    (same : definition.graph.guid = otherDefinition.graph.guid) : definition = otherDefinition := by
  cases distinct handle definition stored other otherDefinition otherStored same
  exact Option.some.inj (stored.symm.trans otherStored)

/-- Stored graphs with one id are one graph. There may be copies of a graph under other handles, but
none that were changed. -/
def Consistent (view : View) : Prop :=
  ∀ handle definition, view.lookup handle = some definition →
    ∀ other otherDefinition, view.lookup other = some otherDefinition →
      definition.graph.guid = otherDefinition.graph.guid → definition.graph = otherDefinition.graph

instance (view : View) : Decidable view.Consistent :=
  inferInstanceAs (Decidable (∀ handle definition, view.lookup handle = some definition →
    ∀ other otherDefinition, view.lookup other = some otherDefinition →
      definition.graph.guid = otherDefinition.graph.guid → definition.graph = otherDefinition.graph))

theorem Distinct.consistent {view : View} (distinct : view.Distinct) : view.Consistent :=
  fun _ _ stored _ _ otherStored same => by rw [distinct.eq_of_guid stored otherStored same]

/-- Stored graphs with one id refer to the same definitions, and there is an order for all of them or
for none. This is all that the search for rings takes for granted. -/
def Alike (view : View) : Prop :=
  ∀ handle definition, view.lookup handle = some definition →
    ∀ other otherDefinition, view.lookup other = some otherDefinition →
      definition.graph.guid = otherDefinition.graph.guid →
        (definition.graph.topologicalOrder.isSome → otherDefinition.graph.topologicalOrder.isSome) ∧
          ∀ next, view.Refers definition.graph next → view.Refers otherDefinition.graph next

theorem Consistent.alike {view : View} (consistent : view.Consistent) : view.Alike :=
  fun _ _ stored _ _ otherStored same => by
    rw [consistent _ _ stored _ _ otherStored same]
    exact ⟨id, fun _ => id⟩

def Filed (view : View) (graph : ShaderGraph) : Prop :=
  ∃ handle definition, view.lookup handle = some definition ∧ definition.graph = graph

theorem Refers.stored {view : View} {graph : ShaderGraph} {definition : Live}
    (refers : view.Refers graph definition) : ∃ handle, view.lookup handle = some definition := by
  obtain ⟨_, _, _, handle, _, _, stored⟩ := refers
  exact ⟨handle, stored⟩

theorem Refers.filed {view : View} {graph : ShaderGraph} {definition : Live}
    (refers : view.Refers graph definition) : view.Filed definition.graph := by
  obtain ⟨handle, stored⟩ := refers.stored
  exact ⟨handle, definition, stored, rfl⟩

theorem stored_of_reaches {view : View} {graph : ShaderGraph} {definition : Live}
    (path : Reaches view.Refers graph definition) :
    ∃ handle, view.lookup handle = some definition := by
  cases path with
  | direct last | further _ last => exact last.stored

theorem filed_of_reaches {view : View} {graph : ShaderGraph} {definition : Live}
    (path : Reaches view.Refers graph definition) : view.Filed definition.graph := by
  obtain ⟨handle, stored⟩ := stored_of_reaches path
  exact ⟨handle, definition, stored, rfl⟩

theorem Filed.eq_of_guid {view : View} {graph other : ShaderGraph} (consistent : view.Consistent)
    (first : view.Filed graph) (second : view.Filed other) (same : graph.guid = other.guid) :
    graph = other := by
  obtain ⟨handle, definition, stored, rfl⟩ := first
  obtain ⟨handle', definition', stored', rfl⟩ := second
  exact consistent handle definition stored handle' definition' stored' same

theorem Filed.alike {view : View} {graph other : ShaderGraph} (alike : view.Alike)
    (first : view.Filed graph) (second : view.Filed other) (same : graph.guid = other.guid) :
    (graph.topologicalOrder.isSome → other.topologicalOrder.isSome) ∧
      ∀ next, view.Refers graph next → view.Refers other next := by
  obtain ⟨handle, definition, stored, rfl⟩ := first
  obtain ⟨handle', definition', stored', rfl⟩ := second
  exact alike handle definition stored handle' definition' stored' same

/-- The id of a root is none of the ids of stored definitions. -/
def Outside (view : View) (root : ShaderGraph) : Prop :=
  ∀ handle definition, view.lookup handle = some definition → definition.graph.guid ≠ root.guid

instance (view : View) (root : ShaderGraph) : Decidable (view.Outside root) :=
  inferInstanceAs (Decidable (∀ handle definition, view.lookup handle = some definition →
    definition.graph.guid ≠ root.guid))

/-- A graph that can be put in order, with all it leads to, and that leads to no ring. -/
structure Safe (view : View) (graph : ShaderGraph) : Prop where
  ordered : graph.topologicalOrder.isSome
  inner : ∀ definition, Reaches view.Refers graph definition →
    definition.graph.topologicalOrder.isSome
  apart : ∀ definition, Reaches view.Refers graph definition →
    ¬ Reaches view.Refers definition.graph definition

/-- It is enough to look at the definitions that a graph refers to: one that came back to itself
would be met inside itself. -/
theorem Safe.of_refers {view : View} {graph : ShaderGraph}
    (ordered : graph.topologicalOrder.isSome)
    (below : ∀ definition, view.Refers graph definition → view.Safe definition.graph) :
    view.Safe graph := by
  refine ⟨ordered, ?_, ?_⟩
  · intro definition path
    rcases path.cases_head with first | ⟨between, first, rest⟩
    · exact (below definition first).ordered
    · exact (below between first).inner definition rest
  · intro definition path
    rcases path.cases_head with first | ⟨between, first, rest⟩
    · intro ring
      exact (below definition first).apart definition ring ring
    · exact (below between first).apart definition rest

theorem Safe.refers {view : View} {graph : ShaderGraph} {definition : Live} (safe : view.Safe graph)
    (refers : view.Refers graph definition) : view.Safe definition.graph :=
  ⟨safe.inner definition (.direct refers), fun inner path => safe.inner inner (.head refers path),
    fun inner path => safe.apart inner (.head refers path)⟩

theorem Safe.within {view : View} {graph met : ShaderGraph} (safe : view.Safe graph)
    (inside : view.Within graph met) : met.topologicalOrder.isSome := by
  rcases inside with rfl | ⟨definition, path, rfl⟩
  · exact safe.ordered
  · exact safe.inner definition path

/-- A safe graph that leads to no other ids than those allowed. -/
structure Clear (view : View) (allowed : List Guid) (graph : ShaderGraph) : Prop where
  safe : view.Safe graph
  inner : ∀ definition, Reaches view.Refers graph definition → definition.graph.guid ∈ allowed

theorem Clear.of_refers {view : View} {allowed : List Guid} {graph : ShaderGraph}
    (ordered : graph.topologicalOrder.isSome)
    (below : ∀ definition, view.Refers graph definition →
      view.Clear allowed definition.graph ∧ definition.graph.guid ∈ allowed) :
    view.Clear allowed graph := by
  refine ⟨.of_refers ordered fun definition refers => (below definition refers).1.safe, ?_⟩
  intro definition path
  rcases path.cases_head with first | ⟨between, first, rest⟩
  · exact (below definition first).2
  · exact (below between first).1.inner definition rest

theorem Clear.alike {view : View} {allowed : List Guid} {graph other : ShaderGraph}
    (alike : view.Alike) (clear : view.Clear allowed graph) (filed : view.Filed graph)
    (otherFiled : view.Filed other) (same : graph.guid = other.guid) : view.Clear allowed other := by
  obtain ⟨ordered, _⟩ := filed.alike alike otherFiled same
  obtain ⟨_, back⟩ := otherFiled.alike alike filed same.symm
  exact ⟨⟨ordered clear.safe.ordered, fun definition path => clear.safe.inner definition (path.imp back),
    fun definition path => clear.safe.apart definition (path.imp back)⟩,
    fun definition path => clear.inner definition (path.imp back)⟩

/-- What the search may rely on: stored graphs with the ids found in order are clear. -/
def Sound (view : View) (allowed checked : List Guid) : Prop :=
  ∀ graph, view.Filed graph → graph.guid ∈ checked →
    view.Clear allowed graph ∧ graph.guid ∈ allowed

private theorem clear_of_foldlM {view : View} {allowed : List Guid} {graph : ShaderGraph}
    {search : List Guid → Live → Except ValidationError (List Guid)} {checked result : List Guid}
    (searches : ∀ checked definition result, view.Filed definition.graph →
      view.Sound allowed checked → search checked definition = .ok result →
        view.Sound allowed result ∧
          view.Clear allowed definition.graph ∧ definition.graph.guid ∈ allowed)
    (sound : view.Sound allowed checked) (ordered : ¬ graph.topologicalOrder.isNone = true)
    (ok : (view.referenced graph).foldlM search checked = .ok result) :
    view.Sound allowed result ∧ view.Clear allowed graph := by
  obtain ⟨kept, clear⟩ := Outcome.foldlM_eq_ok (view.Sound allowed)
    (fun definition => view.Clear allowed definition.graph ∧ definition.graph.guid ∈ allowed)
    (fun checked definition result member => searches checked definition result
      ((view.mem_referenced_iff graph definition).1 member).filed) sound ok
  have order : graph.topologicalOrder.isSome := Option.isSome_iff_ne_none.2 (by simpa using ordered)
  refine ⟨kept, .of_refers order ?_⟩
  intro definition refers
  exact clear definition ((view.mem_referenced_iff graph definition).2 refers)

theorem checkCycles_eq_ok {view : View} (alike : view.Alike) {allowed : List Guid}
    {unmarked : List Guid} {path : List (Guid × String)} {checked result : List Guid}
    {graph : ShaderGraph} (within : unmarked ⊆ allowed) (filed : view.Filed graph)
    (sound : view.Sound allowed checked)
    (ok : view.checkCycles unmarked path checked graph = .ok result) :
    view.Sound allowed result ∧ view.Clear allowed graph ∧ graph.guid ∈ allowed := by
  induction unmarked, path, checked, graph using checkCycles.induct generalizing result with
  | case1 unmarked path checked graph opened found =>
    rw [checkCycles, dif_pos opened, if_pos found] at ok
    cases ok
    exact ⟨sound, sound graph filed found⟩
  | case2 unmarked path checked graph opened fresh cyclic =>
    rw [checkCycles, dif_pos opened, if_neg fresh, if_pos cyclic] at ok
    contradiction
  | case3 unmarked path checked graph opened fresh ordered ih =>
    rw [checkCycles, dif_pos opened, if_neg fresh, if_neg ordered] at ok
    obtain ⟨below, searched, rfl⟩ := Outcome.map_eq_ok ok
    have fewer : without unmarked graph.guid ⊆ allowed := fun _ inside =>
      within (mem_without.1 inside).1
    obtain ⟨kept, clear⟩ := clear_of_foldlM (fun checked definition result filed sound step =>
      ih checked definition fewer filed sound step) sound ordered searched
    refine ⟨?_, clear, within opened⟩
    intro other otherFiled member
    rcases List.mem_cons.1 member with same | earlier
    · exact ⟨clear.alike alike filed otherFiled same.symm, same ▸ within opened⟩
    · exact kept other otherFiled earlier
  | case4 unmarked path checked graph closed =>
    rw [checkCycles, dif_neg closed] at ok
    contradiction

/-- The other way round, whatever was found in order before: a graph that came back to an id on the way
would lead to what it leads to from there, and so to itself. -/
theorem exists_checkCycles_eq_ok {view : View} (alike : view.Alike) {unmarked : List Guid}
    (path : List (Guid × String)) (checked : List Guid) {graph : ShaderGraph}
    (filed : view.Filed graph) (clear : view.Clear unmarked graph) (opened : graph.guid ∈ unmarked) :
    ∃ result, view.checkCycles unmarked path checked graph = .ok result := by
  induction unmarked, path, checked, graph using checkCycles.induct with
  | case1 unmarked path checked graph opened found =>
    exact ⟨checked, by rw [checkCycles, dif_pos opened, if_pos found]⟩
  | case2 unmarked path checked graph opened fresh cyclic =>
    have ordered := clear.safe.ordered
    simp [Option.isNone_iff_eq_none.1 cyclic] at ordered
  | case3 unmarked path checked graph opened fresh ordered ih =>
    have apart (definition : Live) (path : Reaches view.Refers graph definition) :
        definition.graph.guid ∈ without unmarked graph.guid := by
      refine mem_without.2 ⟨clear.inner definition path, fun same => ?_⟩
      obtain ⟨_, again⟩ := filed.alike alike (filed_of_reaches path) same.symm
      exact clear.safe.apart definition path (path.imp again)
    obtain ⟨result, searched⟩ := Outcome.exists_foldlM_eq_ok
      (fun checked definition member => by
        have refers := (view.mem_referenced_iff graph definition).1 member
        refine ih checked definition refers.filed ⟨clear.safe.refers refers, ?_⟩
          (apart definition (.direct refers))
        exact fun inner path => apart inner (.head refers path)) checked
    refine ⟨graph.guid :: result, ?_⟩
    rw [checkCycles, dif_pos opened, if_neg fresh, if_neg ordered, searched]
    rfl
  | case4 unmarked path checked graph closed => exact absurd opened closed

/-- The search from a root succeeds exactly if it is safe and its id does not turn up below it. -/
theorem checkCycles_passes_iff {view : View} (alike : view.Alike) (root : ShaderGraph) :
    (∃ checked, view.checkCycles (root.guid :: view.guids) [] [] root = .ok checked) ↔
      view.Safe root ∧ ∀ definition, Reaches view.Refers root definition →
        definition.graph.guid ≠ root.guid := by
  rw [checkCycles, dif_pos List.mem_cons_self, if_neg List.not_mem_nil]
  constructor
  · rintro ⟨checked, ok⟩
    split at ok
    next => contradiction
    next ordered =>
      obtain ⟨below, searched, _⟩ := Outcome.map_eq_ok ok
      obtain ⟨_, clear⟩ := clear_of_foldlM (fun checked definition result filed sound step =>
        checkCycles_eq_ok alike (List.Subset.refl _) filed sound step) (by simp [Sound]) ordered
        searched
      exact ⟨clear.safe, fun definition path => (mem_without.1 (clear.inner definition path)).2⟩
  · rintro ⟨safe, apart⟩
    have unmarked (definition : Live) (path : Reaches view.Refers root definition) :
        definition.graph.guid ∈ without (root.guid :: view.guids) root.guid := by
      obtain ⟨handle, stored⟩ := stored_of_reaches path
      have listed : definition.graph.guid ∈ view.guids :=
        List.mem_map.2 ⟨definition, mem_live_of_lookup stored, rfl⟩
      exact mem_without.2 ⟨List.mem_cons_of_mem _ listed, apart definition path⟩
    obtain ⟨result, searched⟩ := Outcome.exists_foldlM_eq_ok
      (fun checked definition member => by
        have refers := (view.mem_referenced_iff root definition).1 member
        exact exists_checkCycles_eq_ok alike [(root.guid, root.name)] checked refers.filed
          ⟨safe.refers refers, fun inner path => unmarked inner (.head refers path)⟩
          (unmarked definition (.direct refers))) []
    have ordered : ¬ root.topologicalOrder.isNone = true := by
      simp [Option.isNone_iff_eq_none, Option.isSome_iff_ne_none.1 safe.ordered]
    refine ⟨root.guid :: result, ?_⟩
    rw [if_neg ordered, List.nil_append, searched]
    rfl

theorem safe_of_checkCycles {view : View} (alike : view.Alike) {root : ShaderGraph}
    {checked : List Guid}
    (ok : view.checkCycles (root.guid :: view.guids) [] [] root = .ok checked) :
    view.Safe root :=
  ((checkCycles_passes_iff alike root).1 ⟨checked, ok⟩).1

def Links (view : View) (graph other : ShaderGraph) : Prop :=
  ∃ definition, view.Refers graph definition ∧ definition.graph = other

/-- Graphs met from the root that are bound one to the next and lead back to where they began. -/
structure Ring (view : View) (root : ShaderGraph) (graphs : List ShaderGraph) : Prop where
  inside : ∀ graph ∈ graphs, view.Within root graph
  linked : graphs.IsChain view.Links
  closed : ∃ first between, graphs = first :: (between ++ [first])

theorem reaches_of_linked {view : View} {first last : ShaderGraph} {between : List ShaderGraph}
    (linked : (first :: (between ++ [last])).IsChain view.Links) :
    ∃ definition, Reaches view.Refers first definition ∧ definition.graph = last := by
  induction between generalizing first with
  | nil =>
    obtain ⟨definition, refers, same⟩ := List.isChain_pair.1 linked
    exact ⟨definition, .direct refers, same⟩
  | cons next rest ih =>
    obtain ⟨⟨definition, refers, rfl⟩, later⟩ := List.isChain_cons_cons.1 linked
    obtain ⟨final, path, same⟩ := ih later
    exact ⟨final, .head refers path, same⟩

theorem Ring.exists_reaches {view : View} {root : ShaderGraph} {graphs : List ShaderGraph}
    (ring : view.Ring root graphs) :
    ∃ definition, Reaches view.Refers root definition ∧
      Reaches view.Refers definition.graph definition := by
  obtain ⟨first, between, rfl⟩ := ring.closed
  obtain ⟨definition, path, rfl⟩ := reaches_of_linked ring.linked
  rcases ring.inside definition.graph (by simp) with same | ⟨other, before, same⟩
  · exact ⟨definition, same ▸ path, path⟩
  · exact ⟨definition, before.trans (same ▸ path), path⟩

/-- What a reported cause says of the graphs met from the root. -/
def Explains (view : View) (root : ShaderGraph) : ValidationError → Prop
  | .cyclicSubGraph chain => ∃ graphs, view.Ring root graphs ∧ chain = graphs.map (·.name)
  | .graphCycle name => ∃ graph, view.Within root graph ∧ name = graph.name ∧
      graph.topologicalOrder = none ∧ ∃ id, Relation.TransGen graph.Reads id id
  | .endlessNesting => False

/-- How a search has come to a graph: along graphs bound one to the next, and the ids of graphs on
the way are the ones no longer unmarked. -/
structure Approach (view : View) (root : ShaderGraph) (unmarked : List Guid)
    (path : List (Guid × String)) (way : List ShaderGraph) (graph : ShaderGraph) : Prop where
  named : path = way.map fun earlier => (earlier.guid, earlier.name)
  linked : (way ++ [graph]).IsChain view.Links
  inside : ∀ earlier ∈ way ++ [graph], view.Within root earlier
  marked : ∀ other, view.Within root other → other.guid ∉ unmarked → other ∈ way

theorem Within.eq_of_guid {view : View} {root graph other : ShaderGraph}
    (distinct : view.Distinct) (outside : view.Outside root) (first : view.Within root graph)
    (second : view.Within root other) (same : graph.guid = other.guid) : graph = other := by
  have apart {graph : ShaderGraph} (filed : view.Filed graph) : graph.guid ≠ root.guid := by
    obtain ⟨handle, definition, stored, rfl⟩ := filed
    exact outside handle definition stored
  rcases first with rfl | ⟨definition, path, rfl⟩ <;>
    rcases second with rfl | ⟨definition', path', rfl⟩
  · rfl
  · exact absurd same.symm (apart (filed_of_reaches path'))
  · exact absurd same (apart (filed_of_reaches path))
  · exact (filed_of_reaches path).eq_of_guid distinct.consistent (filed_of_reaches path') same

theorem Within.refers {view : View} {root graph : ShaderGraph} {definition : Live}
    (inside : view.Within root graph) (refers : view.Refers graph definition) :
    view.Within root definition.graph := by
  rcases inside with rfl | ⟨between, path, rfl⟩
  · exact .inr ⟨definition, .direct refers, rfl⟩
  · exact .inr ⟨definition, .further path refers, rfl⟩

namespace Approach
variable {view : View} {root graph : ShaderGraph} {unmarked : List Guid}
  {path : List (Guid × String)} {way : List ShaderGraph}

theorem start (view : View) (root : ShaderGraph) :
    view.Approach root (root.guid :: view.guids) [] [] root := by
  refine ⟨rfl, List.isChain_singleton root, by simp [Within], ?_⟩
  rintro other (rfl | ⟨definition, path, rfl⟩) absent
  · simp at absent
  · obtain ⟨handle, stored⟩ := stored_of_reaches path
    have listed : definition.graph.guid ∈ view.guids :=
      List.mem_map.2 ⟨definition, mem_live_of_lookup stored, rfl⟩
    exact absurd (List.mem_cons_of_mem _ listed) absent

theorem here (approach : view.Approach root unmarked path way graph) : view.Within root graph :=
  approach.inside graph (by simp)

theorem refers (approach : view.Approach root unmarked path way graph) (distinct : view.Distinct)
    (outside : view.Outside root) {definition : Live} (refers : view.Refers graph definition) :
    view.Approach root (without unmarked graph.guid) (path ++ [(graph.guid, graph.name)])
      (way ++ [graph]) definition.graph := by
  refine ⟨by simp [approach.named], ?_, ?_, ?_⟩
  · refine List.isChain_append.2 ⟨approach.linked, List.isChain_singleton _, ?_⟩
    intro last final next first
    simp only [List.getLast?_append, List.getLast?_singleton, Option.some_or, Option.mem_some_iff,
      List.head?_cons] at final first
    subst final first
    exact ⟨definition, refers, rfl⟩
  · intro earlier member
    rcases List.mem_append.1 member with before | last
    · exact approach.inside earlier before
    · rw [List.mem_singleton.1 last]
      exact approach.here.refers refers
  · intro other inside absent
    by_cases same : other.guid = graph.guid
    · simp [inside.eq_of_guid distinct outside approach.here same]
    · have gone : other.guid ∉ unmarked := fun present =>
        absent (mem_without.2 ⟨present, same⟩)
      exact List.mem_append_left _ (approach.marked other inside gone)

/-- Coming to a graph that is on the way closes a ring, which begins where the graph was first
met. -/
theorem ring (approach : view.Approach root unmarked path way graph)
    (distinct : view.Distinct) (outside : view.Outside root) (met : graph.guid ∉ unmarked) :
    ∃ graphs, view.Ring root graphs ∧
      (path.dropWhile fun step => step.1 ≠ graph.guid).map (·.2) ++ [graph.name] =
        graphs.map (·.name) := by
  let apart : ShaderGraph → Bool := fun earlier => earlier.guid ≠ graph.guid
  have split : way.takeWhile apart ++ way.dropWhile apart = way := List.takeWhile_append_dropWhile
  have member : graph ∈ way := approach.marked graph approach.here met
  -- The ring starts at the first graph on the way with this id, which is no other graph.
  cases rest : way.dropWhile apart with
  | nil =>
    have all := List.dropWhile_eq_nil_iff.1 rest graph member
    simp [apart] at all
  | cons first between =>
    have same : first.guid = graph.guid := by
      have stopped := List.head_dropWhile_not apart (l := way) (by simp [rest])
      simp only [rest, List.head_cons] at stopped
      simpa [apart] using stopped
    rw [rest] at split
    have inside : view.Within root first := by
      refine approach.inside first ?_
      rw [← split]
      simp
    obtain rfl := inside.eq_of_guid distinct outside approach.here same
    refine ⟨first :: (between ++ [first]), ⟨?_, ?_, first, between, rfl⟩, ?_⟩
    · intro earlier listed
      refine approach.inside earlier ?_
      rw [← split]
      simpa using Or.inr listed
    · refine approach.linked.suffix ⟨way.takeWhile apart, ?_⟩
      rw [← List.cons_append, ← List.append_assoc, split]
    · rw [approach.named, List.dropWhile_map]
      have here : way.dropWhile ((fun step : Guid × String => decide (step.1 ≠ first.guid)) ∘
          fun earlier => (earlier.guid, earlier.name)) = first :: between := rest
      rw [here]
      simp [List.map_map, Function.comp_def]

end Approach

theorem checkCycles_eq_error {view : View} {root : ShaderGraph} (distinct : view.Distinct)
    (outside : view.Outside root) {unmarked : List Guid} {path : List (Guid × String)}
    {checked : List Guid} {graph : ShaderGraph} {way : List ShaderGraph} {cause : ValidationError}
    (approach : view.Approach root unmarked path way graph)
    (failed : view.checkCycles unmarked path checked graph = .error cause) :
    view.Explains root cause := by
  induction unmarked, path, checked, graph using checkCycles.induct generalizing way cause with
  | case1 unmarked path checked graph opened found =>
    rw [checkCycles, dif_pos opened, if_pos found] at failed
    contradiction
  | case2 unmarked path checked graph opened fresh cyclic =>
    rw [checkCycles, dif_pos opened, if_neg fresh, if_pos cyclic] at failed
    cases failed
    have failed := Option.isNone_iff_eq_none.1 cyclic
    exact ⟨graph, approach.here, rfl, failed, Graph.exists_cycle_of_topologicalOrder_eq_none failed⟩
  | case3 unmarked path checked graph opened fresh ordered ih =>
    rw [checkCycles, dif_pos opened, if_neg fresh, if_neg ordered] at failed
    obtain ⟨definition, member, earlier, below⟩ :=
      Outcome.foldlM_eq_error (Outcome.map_eq_error failed)
    exact ih earlier definition
      (approach.refers distinct outside ((view.mem_referenced_iff graph definition).1 member)) below
  | case4 unmarked path checked graph closed =>
    rw [checkCycles, dif_neg closed] at failed
    cases failed
    exact approach.ring distinct outside closed

end View
end NodeShader

import NodeShader.Proofs.Lookup
import NodeShader.Graph
import Mathlib.Logic.Relation

/-! The order in which a graph is worked off. A search that comes back with an order has put every
node behind everything it reads from; it comes back with none exactly when some node leads to a
cycle. -/
namespace NodeShader.Graph
open Relation

def Reads (graph : Graph) (node source : NodeId) : Prop := source ∈ graph.sources node

theorem reads_iff (graph : Graph) (node source : NodeId) :
    graph.Reads node source ↔
      ∃ connection ∈ graph.connections,
        connection.target.node = node ∧ connection.source.node = source := by
  simp [Reads, sources, and_assoc]

theorem mentioned_of_reads {graph : Graph} {node source : NodeId} (reads : graph.Reads node source) :
    node ∈ graph.mentioned ∧ source ∈ graph.mentioned := by
  obtain ⟨connection, present, rfl, rfl⟩ := (graph.reads_iff node source).1 reads
  exact ⟨List.mem_append_right _ (List.mem_map.2 ⟨_, present, rfl⟩),
    List.mem_append_left _ (List.mem_append_right _ (List.mem_map.2 ⟨_, present, rfl⟩))⟩

/-- Whatever stands in the order has all its sources in front of it. -/
def SourcesFirst (graph : Graph) (order : List NodeId) : Prop :=
  ∀ before id after, order = before ++ id :: after → ∀ source, graph.Reads id source →
    source ∈ before

theorem sourcesFirst_nil (graph : Graph) : graph.SourcesFirst [] := by
  intro before id after split
  simp at split

theorem sourcesFirst_append {graph : Graph} {order : List NodeId} {id : NodeId}
    (ordered : graph.SourcesFirst order) (ready : ∀ source, graph.Reads id source → source ∈ order) :
    graph.SourcesFirst (order ++ [id]) := by
  intro before other after split source reads
  rcases List.eq_nil_or_concat after with rfl | ⟨rest, last, rfl⟩
  · obtain ⟨rfl, same⟩ := List.append_inj' split rfl
    cases same
    exact ready source reads
  · have shorter : order = before ++ other :: rest := by
      rw [List.concat_eq_append, ← List.cons_append, ← List.append_assoc] at split
      exact (List.append_inj' split rfl).1
    exact ordered before other rest shorter source reads

theorem mem_before_of_reads {graph : Graph} {order : List NodeId}
    (ordered : graph.SourcesFirst order) {id source : NodeId} (path : TransGen graph.Reads id source)
    {before after : List NodeId} (split : order = before ++ id :: after) : source ∈ before := by
  induction path with
  | single reads => exact ordered before id after split _ reads
  | @tail between _ _ reads ih =>
    obtain ⟨first, second, here⟩ := List.append_of_mem ih
    have deeper : order = first ++ between :: (second ++ id :: after) := by
      rw [split, here]
      simp
    rw [here]
    exact List.mem_append_left _ (ordered _ _ _ deeper _ reads)

theorem mem_order_of_reads {graph : Graph} {order : List NodeId}
    (ordered : graph.SourcesFirst order) {id source : NodeId} (member : id ∈ order)
    (path : ReflTransGen graph.Reads id source) : source ∈ order := by
  rcases reflTransGen_iff_eq_or_transGen.1 path with same | further
  · exact same ▸ member
  · obtain ⟨before, after, split⟩ := List.append_of_mem member
    rw [split]
    exact List.mem_append_left _ (mem_before_of_reads ordered further split)

theorem not_cyclic_of_mem {graph : Graph} {order : List NodeId}
    (ordered : graph.SourcesFirst order) {id : NodeId} (member : id ∈ order) :
    ¬ TransGen graph.Reads id id := by
  intro cycle
  obtain ⟨before, after, split, fresh⟩ := List.eq_append_cons_of_mem member
  exact fresh (mem_before_of_reads ordered cycle split)

/-- What a search that meets no cycle makes of an order, given the ids that it may pass. -/
structure Extension (graph : Graph) (unmarked order result : List NodeId) : Prop where
  kept : ∀ id ∈ order, id ∈ result
  added : ∀ id ∈ result, id ∈ order ∨ id ∈ unmarked
  distinct : order.Nodup → result.Nodup
  sourcesFirst : graph.SourcesFirst order → graph.SourcesFirst result

namespace Extension
variable {graph : Graph} {unmarked order between result : List NodeId}

theorem refl : Extension graph unmarked order order :=
  ⟨fun _ member => member, fun _ member => .inl member, id, id⟩

theorem trans (first : Extension graph unmarked order between)
    (second : Extension graph unmarked between result) : Extension graph unmarked order result where
  kept id member := second.kept id (first.kept id member)
  added id member := by
    rcases second.added id member with old | fresh
    · exact first.added id old
    · exact .inr fresh
  distinct apart := second.distinct (first.distinct apart)
  sourcesFirst ordered := second.sourcesFirst (first.sourcesFirst ordered)

theorem of_foldlM {step : List NodeId → NodeId → Option (List NodeId)} {ids : List NodeId}
    (grows : ∀ order id result, step order id = some result →
      Extension graph unmarked order result ∧ id ∈ result)
    (found : ids.foldlM step order = some result) :
    Extension graph unmarked order result ∧ ∀ id ∈ ids, id ∈ result := by
  induction ids generalizing order with
  | nil =>
    cases found
    exact ⟨refl, by simp⟩
  | cons head rest ih =>
    rw [List.foldlM_cons] at found
    obtain ⟨next, here, later⟩ := Option.bind_eq_some_iff.1 found
    obtain ⟨first, member⟩ := grows order head next here
    obtain ⟨second, members⟩ := ih later
    refine ⟨first.trans second, ?_⟩
    intro id inside
    rcases List.mem_cons.1 inside with same | other
    · exact same ▸ second.kept head member
    · exact members id other

theorem append {id : NodeId} (rest : Extension graph (without unmarked id) order result)
    (opened : id ∈ unmarked) (fresh : id ∉ order)
    (ready : ∀ source, graph.Reads id source → source ∈ result) :
    Extension graph unmarked order (result ++ [id]) where
  kept other member := List.mem_append_left _ (rest.kept other member)
  added other member := by
    rcases List.mem_append.1 member with earlier | last
    · exact (rest.added other earlier).imp_right fun inside => (mem_without.1 inside).1
    · exact .inr (List.mem_singleton.1 last ▸ opened)
  distinct apart := by
    have absent : id ∉ result := by
      intro member
      rcases rest.added id member with old | inside
      · exact fresh old
      · exact (mem_without.1 inside).2 rfl
    refine List.nodup_append.2 ⟨rest.distinct apart, by simp, ?_⟩
    intro other member last here same
    rw [List.mem_singleton] at here
    exact absent (here ▸ same ▸ member)
  sourcesFirst ordered := sourcesFirst_append (rest.sourcesFirst ordered) ready

end Extension

theorem visit_extension (graph : Graph) (unmarked order : List NodeId) (id : NodeId)
    {result : List NodeId} (found : graph.visit unmarked order id = some result) :
    Extension graph unmarked order result ∧ id ∈ result := by
  induction unmarked, order, id using visit.induct generalizing result with
  | case1 unmarked order id opened known =>
    rw [visit, dif_pos opened, if_pos known] at found
    cases found
    exact ⟨.refl, known⟩
  | case2 unmarked order id opened fresh ih =>
    rw [visit, dif_pos opened, if_neg fresh] at found
    obtain ⟨before, searched, rfl⟩ := Option.map_eq_some_iff.1 found
    obtain ⟨extension, ready⟩ := Extension.of_foldlM (fun order source _ => ih order source) searched
    exact ⟨extension.append opened fresh ready, by simp⟩
  | case3 unmarked order id closed =>
    rw [visit, dif_neg closed] at found
    contradiction

private theorem isSome_foldlM {α β : Type} {step : β → α → Option β} {items : List α}
    (steps : ∀ state, ∀ item ∈ items, (step state item).isSome) (state : β) :
    (items.foldlM step state).isSome := by
  induction items generalizing state with
  | nil => rfl
  | cons item rest ih =>
    obtain ⟨next, here⟩ := Option.isSome_iff_exists.1 (steps state item (by simp))
    rw [List.foldlM_cons, here]
    exact ih (fun state other member => steps state other (by simp [member])) next

/-- A visit only fails on the way round a cycle: it succeeds when all that the node leads to is
open and none of it reads from itself. -/
theorem visit_isSome (graph : Graph) (unmarked order : List NodeId) (id : NodeId)
    (opened : ∀ other, ReflTransGen graph.Reads id other → other ∈ unmarked)
    (acyclic : ∀ other, ReflTransGen graph.Reads id other → ¬ TransGen graph.Reads other other) :
    (graph.visit unmarked order id).isSome := by
  induction unmarked, order, id using visit.induct with
  | case1 unmarked order id inside known => simp [visit, inside, known]
  | case2 unmarked order id inside fresh ih =>
    rw [visit, dif_pos inside, if_neg fresh, Option.isSome_map]
    refine isSome_foldlM (fun order source reads => ih order source ?_ ?_) order
    · intro other path
      have further : TransGen graph.Reads id other := .head' reads path
      refine mem_without.2 ⟨opened other further.to_reflTransGen, ?_⟩
      rintro rfl
      exact acyclic _ .refl further
    · exact fun other path => acyclic other (.head reads path)
  | case3 unmarked order id closed => exact absurd (opened id .refl) closed

theorem mem_mentioned_of_reads {graph : Graph} {id other : NodeId} (member : id ∈ graph.nodes.keys)
    (path : ReflTransGen graph.Reads id other) : other ∈ graph.mentioned := by
  rcases path.cases_tail with same | ⟨between, _, reads⟩
  · exact List.mem_append_left _ (List.mem_append_left _ (same ▸ member))
  · exact (mentioned_of_reads reads).2

theorem topologicalOrder_extension {graph : Graph} {order : List NodeId}
    (found : graph.topologicalOrder = some order) :
    graph.SourcesFirst order ∧ order.Nodup ∧ ∀ id ∈ graph.nodes.keys, id ∈ order := by
  obtain ⟨extension, members⟩ := Extension.of_foldlM
    (fun order id _ => graph.visit_extension graph.mentioned order id) found
  exact ⟨extension.sourcesFirst graph.sourcesFirst_nil, extension.distinct List.nodup_nil, members⟩

/-- There is an order exactly when no node leads to a cycle. -/
theorem topologicalOrder_isSome_iff (graph : Graph) :
    graph.topologicalOrder.isSome ↔
      ∀ id ∈ graph.nodes.keys, ∀ other, ReflTransGen graph.Reads id other →
        ¬ TransGen graph.Reads other other := by
  constructor
  · intro found id member other path
    obtain ⟨order, found⟩ := Option.isSome_iff_exists.1 found
    obtain ⟨ordered, _, members⟩ := topologicalOrder_extension found
    exact not_cyclic_of_mem ordered (mem_order_of_reads ordered (members id member) path)
  · intro acyclic
    exact isSome_foldlM (fun order id member => graph.visit_isSome graph.mentioned order id
      (fun _ => mem_mentioned_of_reads member) (acyclic id member)) []

theorem exists_cycle_of_topologicalOrder_eq_none {graph : Graph}
    (failed : graph.topologicalOrder = none) : ∃ id, TransGen graph.Reads id id := by
  have cyclic := mt graph.topologicalOrder_isSome_iff.2 (by simp [failed])
  simp only [Classical.not_forall, Classical.not_not] at cyclic
  obtain ⟨_, _, other, _, cycle⟩ := cyclic
  exact ⟨other, cycle⟩

theorem node?_of_mem_active {graph : Graph} {id : NodeId} {node : Node}
    (member : (id, node) ∈ graph.active) : graph.node? id = some node := by
  obtain ⟨member, _⟩ := List.mem_filter.1 member
  split at member
  next order _ =>
    obtain ⟨other, _, known⟩ := List.mem_filterMap.1 member
    obtain ⟨same, known, pair⟩ := Option.map_eq_some_iff.1 known
    cases pair
    exact known
  next => exact (graph.nodes.get?_eq_some_iff id node).2 member

theorem mem_values_of_mem_active {graph : Graph} {entry : NodeId × Node}
    (member : entry ∈ graph.active) : entry.2 ∈ graph.nodes.values :=
  Keyed.mem_values_of_get? (node?_of_mem_active member)

theorem mem_active_iff {graph : Graph} {order : List NodeId}
    (found : graph.topologicalOrder = some order) (id : NodeId) (node : Node) :
    (id, node) ∈ graph.active ↔ id ∈ order ∧ graph.node? id = some node ∧ node.enabled = true := by
  simp only [active, found, List.mem_filter, List.mem_filterMap, Option.map_eq_some_iff,
    Prod.mk.injEq]
  grind

theorem SourcesFirst.pairwise {graph : Graph} {order : List NodeId}
    (ordered : graph.SourcesFirst order) (distinct : order.Nodup) :
    order.Pairwise fun id later => ¬ graph.Reads id later := by
  have onward (before rest : List NodeId) (split : order = before ++ rest) :
      rest.Pairwise fun id later => ¬ graph.Reads id later := by
    induction rest generalizing before with
    | nil => exact .nil
    | cons id rest ih =>
      refine List.pairwise_cons.2 ⟨?_, ih (before ++ [id]) (by simp [split])⟩
      intro later member reads
      have earlier := ordered before id rest split later reads
      rw [split] at distinct
      exact (List.nodup_append.1 distinct).2.2 later earlier later (by simp [member]) rfl
  exact onward [] order rfl

theorem active_pairwise {graph : Graph} {order : List NodeId}
    (found : graph.topologicalOrder = some order) :
    graph.active.Pairwise fun entry later => ¬ graph.Reads entry.1 later.1 := by
  obtain ⟨ordered, distinct, _⟩ := topologicalOrder_extension found
  simp only [active, found]
  refine List.Pairwise.filter _ (List.pairwise_filterMap.2 ?_)
  apply (ordered.pairwise distinct).imp
  intro id later apart entry here other there
  obtain ⟨_, _, rfl⟩ := Option.map_eq_some_iff.1 here
  obtain ⟨_, _, rfl⟩ := Option.map_eq_some_iff.1 there
  exact apart

/-- Among the enabled nodes, too, what a node reads from stands in front of it. -/
theorem active_sourcesFirst {graph : Graph} (orderly : graph.topologicalOrder.isSome)
    {front rest : List (NodeId × Node)} {entry : NodeId × Node}
    (split : graph.active = front ++ entry :: rest) {source : NodeId} {node : Node}
    (reads : graph.Reads entry.1 source) (known : graph.node? source = some node)
    (enabled : node.enabled = true) :
    (source, node) ∈ front ∧ ∀ later ∈ entry :: rest, later.1 ≠ source := by
  obtain ⟨order, found⟩ := Option.isSome_iff_exists.1 orderly
  obtain ⟨ordered, _, _⟩ := topologicalOrder_extension found
  have here : entry.1 ∈ order :=
    ((mem_active_iff found entry.1 entry.2).1 (by simp [split])).1
  have member : (source, node) ∈ graph.active :=
    (mem_active_iff found source node).2 ⟨mem_order_of_reads ordered here (.single reads), known,
      enabled⟩
  have pairwise := active_pairwise found
  rw [split, List.pairwise_append] at pairwise
  obtain ⟨_, behind, _⟩ := pairwise
  have later : ∀ later ∈ entry :: rest, later.1 ≠ source := by
    rintro later inside rfl
    rcases List.mem_cons.1 inside with rfl | inside
    · exact not_cyclic_of_mem ordered here (.single reads)
    · exact ((List.pairwise_cons.1 behind).1 later inside) reads
  refine ⟨?_, later⟩
  rw [split] at member
  rcases List.mem_append.1 member with front | inside
  · exact front
  · exact absurd rfl (later _ inside)

end NodeShader.Graph

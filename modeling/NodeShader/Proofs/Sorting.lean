import NodeShader.Proofs.Order
import Mathlib.Data.List.Nodup

/-! The search for an order as it goes, step by step and with no bound on its depth. It ends for every
set of connections, cyclic ones and ones that dangle included, and with the answer that is computed: an
order of all nodes in which connections run forward, or none if some node leads to a cycle. -/
namespace NodeShader.Graph
open Relation

/-- A run through ids that are to be placed, given the ids on the way to them and the order so far. An id
is placed when its sources are, and one that turns up on the way to itself ends the whole search. -/
inductive Search (graph : Graph) :
    List NodeId → List NodeId → List NodeId → Option (List NodeId) → Prop where
  | finished {way order : List NodeId} : Search graph way order [] (some order)
  | ring {way order rest : List NodeId} {id : NodeId} (met : id ∈ way) :
    Search graph way order (id :: rest) none
  | known {way order rest : List NodeId} {id : NodeId} {result : Option (List NodeId)}
    (apart : id ∉ way) (placed : id ∈ order) (later : Search graph way order rest result) :
    Search graph way order (id :: rest) result
  | place {way order between rest : List NodeId} {id : NodeId} {result : Option (List NodeId)}
    (apart : id ∉ way) (fresh : id ∉ order)
    (inner : Search graph (id :: way) order (graph.sources id) (some between))
    (later : Search graph way (between ++ [id]) rest result) :
    Search graph way order (id :: rest) result
  | stuck {way order rest : List NodeId} {id : NodeId} (apart : id ∉ way) (fresh : id ∉ order)
    (inner : Search graph (id :: way) order (graph.sources id) none) :
    Search graph way order (id :: rest) none

namespace Search
variable {graph : Graph} {way order ids : List NodeId} {result other : Option (List NodeId)}

theorem unique (first : graph.Search way order ids result) (second : graph.Search way order ids other) :
    result = other := by
  induction first generalizing other with
  | finished => cases second; rfl
  | ring met =>
    cases second with
    | ring | stuck => rfl
    | known apart | place apart => exact absurd met apart
  | known apart placed _ ih =>
    cases second with
    | ring met => exact absurd met apart
    | known _ _ later => exact ih later
    | place _ fresh | stuck _ fresh => exact absurd placed fresh
  | place apart fresh _ _ inner later =>
    cases second with
    | ring met => exact absurd met apart
    | known _ placed => exact absurd placed fresh
    | place _ _ within rest =>
      cases inner within
      exact later rest
    | stuck _ _ within => cases inner within
  | stuck apart fresh _ inner =>
    cases second with
    | ring | stuck => rfl
    | known _ placed => exact absurd placed fresh
    | place _ _ within => cases inner within

/-- What was found out about one id is how every run goes that has to place it next. -/
structure Continues (graph : Graph) (way order : List NodeId) (id : NodeId)
    (found : Option (List NodeId)) : Prop where
  ends : found = none → ∀ rest, graph.Search way order (id :: rest) none
  goes : ∀ next, found = some next → ∀ rest result, graph.Search way next rest result →
    graph.Search way order (id :: rest) result

theorem of_continues {step : List NodeId → NodeId → Option (List NodeId)}
    (continues : ∀ order, ∀ id ∈ ids, Continues graph way order id (step order id)) :
    graph.Search way order ids (ids.foldlM step order) := by
  induction ids generalizing order with
  | nil => exact .finished
  | cons id rest ih =>
    rw [List.foldlM_cons]
    have here := continues order id (by simp)
    cases found : step order id with
    | none => exact here.ends found rest
    | some next =>
      exact here.goes next found rest _
        (ih fun order other member => continues order other (by simp [member]))

end Search

/-- The ids still open are those that are not on the way. -/
theorem visit_continues (graph : Graph) (unmarked order : List NodeId) (id : NodeId)
    {way : List NodeId} (marks : ∀ other ∈ graph.mentioned, other ∈ way ↔ other ∉ unmarked)
    (member : id ∈ graph.mentioned) :
    Search.Continues graph way order id (graph.visit unmarked order id) := by
  induction unmarked, order, id using visit.induct generalizing way with
  | case1 unmarked order id opened known =>
    rw [visit, dif_pos opened, if_pos known]
    have apart : id ∉ way := fun met => (marks id member).1 met opened
    refine ⟨by simp, ?_⟩
    rintro next ⟨⟩ rest result later
    exact .known apart known later
  | case2 unmarked order id opened fresh ih =>
    rw [visit, dif_pos opened, if_neg fresh]
    have apart : id ∉ way := fun met => (marks id member).1 met opened
    have inside : ∀ other ∈ graph.mentioned, other ∈ id :: way ↔ other ∉ without unmarked id := by
      intro other mentioned
      rw [List.mem_cons, marks other mentioned, mem_without]
      by_cases same : other = id <;> simp [same]
    have searched : graph.Search (id :: way) order (graph.sources id)
        ((graph.sources id).foldlM (fun order source => graph.visit (without unmarked id) order source)
          order) :=
      .of_continues fun order source reads =>
        ih order source inside (mentioned_of_reads reads).2
    refine ⟨fun failed rest => ?_, fun next found rest result later => ?_⟩
    · rw [Option.map_eq_none_iff.1 failed] at searched
      exact .stuck apart fresh searched
    · obtain ⟨between, same, rfl⟩ := Option.map_eq_some_iff.1 found
      rw [same] at searched
      exact .place apart fresh searched later
  | case3 unmarked order id closed =>
    rw [visit, dif_neg closed]
    have met : id ∈ way := (marks id member).2 closed
    exact ⟨fun _ _ => .ring met, by simp⟩

theorem search_topologicalOrder (graph : Graph) :
    graph.Search [] [] graph.nodes.keys graph.topologicalOrder :=
  .of_continues fun order id member =>
    graph.visit_continues graph.mentioned order id (fun other mentioned => by simp [mentioned])
      (mem_mentioned_of_reads member .refl)

theorem sublist_of_reads {graph : Graph} {order : List NodeId} (ordered : graph.SourcesFirst order)
    {id source : NodeId} (member : id ∈ order) (reads : graph.Reads id source) :
    [source, id].Sublist order := by
  obtain ⟨before, after, rfl⟩ := List.append_of_mem member
  have earlier : source ∈ before := ordered before id after rfl source reads
  have first : [source].Sublist before := List.singleton_sublist.2 earlier
  exact first.append (List.singleton_sublist.2 List.mem_cons_self)

theorem nodup_active (graph : Graph) : graph.active.Nodup := by
  refine List.Nodup.filter _ ?_
  split
  next order found =>
    obtain ⟨_, distinct, _⟩ := topologicalOrder_extension found
    refine distinct.filterMap fun id other entry here there => ?_
    obtain ⟨_, _, rfl⟩ := Option.map_eq_some_iff.1 here
    obtain ⟨_, _, same⟩ := Option.map_eq_some_iff.1 there
    exact (congrArg Prod.fst same).symm
  next => exact .of_map _ graph.nodes.distinct

theorem active_of_cyclic {graph : Graph} (failed : graph.topologicalOrder = none) :
    graph.active = graph.nodes.entries.filter fun entry => entry.2.enabled := by
  simp only [active, failed]

/-- With or without an order every enabled node is active once. -/
theorem active_perm (graph : Graph) :
    graph.active.Perm (graph.nodes.entries.filter fun entry => entry.2.enabled) := by
  cases found : graph.topologicalOrder with
  | none => rw [active_of_cyclic found]
  | some order =>
    obtain ⟨_, _, complete⟩ := topologicalOrder_extension found
    have entries : graph.nodes.entries.Nodup := .of_map _ graph.nodes.distinct
    refine (List.perm_ext_iff_of_nodup graph.nodup_active (entries.filter _)).2 fun entry => ?_
    obtain ⟨id, node⟩ := entry
    rw [mem_active_iff found, List.mem_filter, ← Keyed.get?_eq_some_iff]
    refine ⟨And.right, fun inside => ⟨complete id ?_, inside⟩⟩
    exact (graph.nodes.mem_keys_iff id).2 ⟨node, inside.1⟩

theorem ids_active {graph : Graph} {order : List NodeId} (found : graph.topologicalOrder = some order) :
    graph.active.map (·.1) = order.filter fun id => (graph.node? id).any Node.isActive := by
  simp only [active, found]
  clear found
  induction order with
  | nil => rfl
  | cons id rest ih =>
    cases known : graph.node? id with
    | none => simpa [known] using ih
    | some node => cases enabled : node.enabled <;> simpa [known, enabled, Node.isActive] using ih

/-- All nodes, each once and behind what it reads from; the active ones are taken from there. -/
structure Sorts (graph : Graph) (order : List NodeId) : Prop where
  distinct : order.Nodup
  complete : ∀ id ∈ graph.nodes.keys, id ∈ order
  forward : ∀ connection ∈ graph.connections, connection.target.node ∈ order →
    [connection.source.node, connection.target.node].Sublist order
  active : graph.active.map (·.1) = order.filter fun id => (graph.node? id).any Node.isActive

theorem sorts_of_topologicalOrder {graph : Graph} {order : List NodeId}
    (found : graph.topologicalOrder = some order) : graph.Sorts order := by
  obtain ⟨ordered, distinct, complete⟩ := topologicalOrder_extension found
  refine ⟨distinct, complete, fun connection present member => ?_, ids_active found⟩
  exact sublist_of_reads ordered member
    ((graph.reads_iff _ _).2 ⟨connection, present, rfl, rfl⟩)

/-- The search always ends, and only in one way. It fails exactly if some node leads to a cycle; else it
puts all nodes in order. Either way the active nodes are the enabled ones, each once. -/
theorem topologicalOrder_decides (graph : Graph) :
    (∀ result, graph.Search [] [] graph.nodes.keys result ↔ result = graph.topologicalOrder) ∧
      (graph.topologicalOrder = none ↔ ∃ id ∈ graph.nodes.keys, ∃ other,
        ReflTransGen graph.Reads id other ∧ TransGen graph.Reads other other) ∧
      (∀ order, graph.topologicalOrder = some order → graph.Sorts order) ∧
      graph.active.Perm (graph.nodes.entries.filter fun entry => entry.2.enabled) ∧
      (graph.topologicalOrder = none →
        graph.active = graph.nodes.entries.filter fun entry => entry.2.enabled) := by
  have searched := graph.search_topologicalOrder
  refine ⟨fun result => ⟨fun other => other.unique searched, fun same => same ▸ searched⟩, ?_,
    fun order => sorts_of_topologicalOrder, graph.active_perm, active_of_cyclic⟩
  have failed : graph.topologicalOrder = none ↔ ¬ graph.topologicalOrder.isSome := by simp
  rw [failed, topologicalOrder_isSome_iff]
  simp only [Classical.not_forall, Classical.not_not, exists_prop]

/-- Three nodes, the second of them disabled. Each connection is given by its source and its target. -/
def wired (ends : List (UInt64 × UInt64)) : Graph where
  nodes := .ofList ([(1, true), (2, false), (3, true)].map fun (number, enabled) =>
    (⟨⟨number, 0⟩⟩, { Node.make ⟨⟨number, 0⟩⟩ "Outputs" .output with enabled }))
  filed := ends.map fun (source, target) => (⟨source, target⟩, ⟨⟨source, target⟩,
    ⟨⟨⟨source, 0⟩⟩, .positional 0⟩, ⟨⟨⟨target, 0⟩⟩, .positional 0⟩⟩)

/-- A connection from an id that no node has counts as well, and so does a disabled node on the way. -/
theorem wired_decides :
    let dangling := wired [(1, 3), (3, 2), (9, 1)]
    let cyclic := wired [(2, 3), (3, 2)]
    let order : List NodeId := [⟨⟨9, 0⟩⟩, ⟨⟨1, 0⟩⟩, ⟨⟨3, 0⟩⟩, ⟨⟨2, 0⟩⟩]
    dangling.topologicalOrder = some order ∧ dangling.Sorts order ∧
      dangling.active.map (·.1) = [⟨⟨1, 0⟩⟩, ⟨⟨3, 0⟩⟩] ∧
      cyclic.topologicalOrder = none ∧ (∃ id ∈ cyclic.nodes.keys, ∃ other,
        ReflTransGen cyclic.Reads id other ∧ TransGen cyclic.Reads other other) ∧
      cyclic.active.map (·.1) = [⟨⟨1, 0⟩⟩, ⟨⟨3, 0⟩⟩] ∧
      cyclic.active = cyclic.nodes.entries.filter fun entry => entry.2.enabled := by
  intro dangling cyclic order
  have found : dangling.topologicalOrder = some order := by decide +kernel
  have failed : cyclic.topologicalOrder = none := by decide +kernel
  obtain ⟨_, _, sorts, _⟩ := topologicalOrder_decides dangling
  obtain ⟨_, fails, _, _, inserted⟩ := topologicalOrder_decides cyclic
  exact ⟨found, sorts order found, by decide +kernel, failed, fails.1 failed, by decide +kernel,
    inserted failed⟩

end NodeShader.Graph

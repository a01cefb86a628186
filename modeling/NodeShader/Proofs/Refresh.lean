import NodeShader.Proofs.Editing
import NodeShader.Proofs.Memory
import NodeShader.Proofs.Readings

/-! What a refresh leaves of a graph. Whether it runs through or not, it only brings wrappers up to
date, which then remember what is stored and nothing else; when it has run through, a graph that was
saved in order is well-formed. -/
namespace NodeShader
open Relation

namespace Wrapper

/-- Deriving slots asks for the handle of a wrapper alone. -/
theorem sync_congr (view : View) {wrapper other : Wrapper} (slots : SlotTable)
    (same : wrapper.handle = other.handle) :
    (wrapper.sync view slots).slots = (other.sync view slots).slots ∧
      (wrapper.sync view slots).outcome = (other.sync view slots).outcome := by
  unfold sync
  simp only [View.resolve_forgetful]
  rw [same]
  cases other.handle.bind view.lookup with
  | none => exact ⟨rfl, rfl⟩
  | some definition => cases derived : definition.graph.interface <;> simp [derived]

/-- What a wrapper that was brought up to date remembers. -/
theorem cached_sync (view : View) (wrapper : Wrapper) (slots : SlotTable) :
    (wrapper.sync view slots).wrapper.cached =
      (wrapper.handle.bind view.lookup).map fun definition => definition.serial := by
  unfold sync
  simp only [View.resolve_forgetful]
  cases wrapper.handle.bind view.lookup with
  | none => rfl
  | some definition => cases derived : definition.graph.interface <;> simp [derived]

theorem sync_cached {view : View} {wrapper : Wrapper} {slots : SlotTable} {serial : Serial}
    (remembers : (wrapper.sync view slots).wrapper.cached = some serial) :
    ∃ definition, wrapper.handle.bind view.lookup = some definition ∧
      definition.serial = serial := by
  rw [cached_sync] at remembers
  exact Option.map_eq_some_iff.1 remembers

/-- A wrapper that was brought up to date remembers nothing or what is stored. -/
theorem sync_recalls (view : View) (wrapper : Wrapper) (slots : SlotTable) :
    view.Recalls (wrapper.sync view slots).wrapper := by
  intro handle remembered bound known
  obtain ⟨serial, cached, found⟩ := Option.bind_eq_some_iff.1 known
  obtain ⟨definition, stored, rfl⟩ := sync_cached cached
  rw [sync_handle] at bound
  rw [bound, Option.bind_some] at stored
  rw [stored, ← found, View.serial_of_lookup stored]

end Wrapper

theorem Node.exists_sync_of_refresh {view : View} {node : Node} {wrapper : Wrapper}
    (kind : (node.refresh view).1.kind = .wrapper wrapper) :
    ∃ before, node.kind = .wrapper before ∧ wrapper = (before.sync view node.slots).wrapper ∧
      (node.refresh view).1.slots = (before.sync view node.slots).slots ∧
      (node.refresh view).2 = (before.sync view node.slots).outcome := by
  unfold refresh at kind ⊢
  split at kind
  next before was =>
    simp only [withSync, NodeKind.wrapper.injEq] at kind
    exact ⟨before, was, kind.symm, rfl, rfl⟩
  next other => exact absurd kind (other wrapper)

theorem Node.refresh_eq_self {view : View} {node : Node}
    (other : ∀ wrapper, (node.refresh view).1.kind ≠ .wrapper wrapper) :
    (node.refresh view).1 = node := by
  unfold refresh at other ⊢
  split at other
  next wrapper kind => exact absurd rfl (other _)
  next => rfl

namespace ShaderGraph
variable {view : View} {graph : ShaderGraph}

/-- Refresh passes over nodes or brings them up to date, also when it stops at one at fault. -/
theorem exists_of_mem_refreshEntries {count : Nat} {entries : List (NodeId × Node)}
    {entry : NodeId × Node} (member : entry ∈ (refreshEntries view count entries).1) :
    ∃ before ∈ entries, entry.2 = before.2 ∨ entry.2 = (before.2.refresh view).1 := by
  induction entries generalizing count with
  | nil => simp [refreshEntries] at member
  | cons first rest ih =>
    obtain ⟨id, node⟩ := first
    simp only [refreshEntries] at member
    split at member
    next refreshed cause step =>
      rcases List.mem_cons.1 member with rfl | later
      · exact ⟨(id, node), by simp, .inr (by rw [step])⟩
      · exact ⟨entry, List.mem_cons_of_mem _ later, .inl rfl⟩
    next refreshed changed step =>
      rcases List.mem_cons.1 member with rfl | later
      · exact ⟨(id, node), by simp, .inr (by rw [step])⟩
      · obtain ⟨before, inside, same⟩ := ih later
        exact ⟨before, List.mem_cons_of_mem _ inside, same⟩

theorem exists_of_mem_refreshWrappers {node : Node}
    (member : node ∈ (graph.refreshWrappers view).1.nodes.values) :
    ∃ before ∈ graph.nodes.values, node = before ∨ node = (before.refresh view).1 := by
  rw [Keyed.values, entries_refreshWrappers] at member
  obtain ⟨entry, listed, rfl⟩ := List.mem_map.1 member
  obtain ⟨before, inside, same⟩ := exists_of_mem_refreshEntries listed
  exact ⟨before.2, List.mem_map.2 ⟨before, inside, rfl⟩, same⟩

theorem outcome_of_refreshEntries {count total : Nat} {entries : List (NodeId × Node)}
    (ok : (refreshEntries view count entries).2 = .ok total) :
    ∀ entry ∈ entries, ∃ changed, (entry.2.refresh view).2 = .ok changed := by
  induction entries generalizing count with
  | nil => simp
  | cons first rest ih =>
    obtain ⟨id, node⟩ := first
    simp only [refreshEntries] at ok
    split at ok
    next => contradiction
    next refreshed changed step =>
      intro entry member
      rcases List.mem_cons.1 member with rfl | later
      · exact ⟨changed, by rw [step]⟩
      · exact ih ok entry later

theorem outcome_of_refreshWrappers {count : Nat} (ok : (graph.refreshWrappers view).2 = .ok count) :
    ∀ node ∈ graph.nodes.values, ∃ changed, (node.refresh view).2 = .ok changed := by
  intro node member
  obtain ⟨entry, listed, rfl⟩ := List.mem_map.1 member
  exact outcome_of_refreshEntries ((outcome_refreshWrappers view graph).symm.trans ok) entry listed

/-- A graph as it is saved, whatever its wrappers got their slots from: connections join the slots that
are there without a cycle, output nodes only take values, and nodes and outputs are filed under their
own ids. -/
structure Saved (graph : ShaderGraph) : Prop where
  joined : ∀ connection ∈ graph.connections,
    graph.Offers connection.source .output ∧ graph.Offers connection.target .input
  acyclic : ∀ id, ¬ TransGen graph.Reads id id
  outlets : ∀ id node, graph.node? id = some node → node.kind = .output →
    ∀ place slot, node.slots.get? place = some slot → slot.direction = .input
  nodes : ∀ id node, graph.node? id = some node → node.id = id
  outputs : ∀ id node, graph.node? id = some node →
    ∀ place slot, node.slots.get? place = some slot → slot.direction = .output → slot.id = place

theorem Saved.ordered (saved : graph.Saved) : graph.topologicalOrder.isSome :=
  graph.topologicalOrder_isSome_iff.2 fun _ _ other _ => saved.acyclic other

/-- What can be seen of this: the connections are in place, there is an order of the nodes, and all
slots are filed under their own ids. -/
def Ready (graph : ShaderGraph) : Prop :=
  (∀ connection ∈ graph.connections, graph.joins connection = true) ∧
    graph.topologicalOrder.isSome ∧
    ∀ entry ∈ graph.nodes.entries, entry.2.id = entry.1 ∧
      ∀ filed ∈ entry.2.slots.entries, filed.2.id = filed.1 ∧
        (entry.2.kind = .output → filed.2.direction = .input)

instance (graph : ShaderGraph) : Decidable graph.Ready := inferInstanceAs (Decidable (_ ∧ _))

theorem Saved.of_ready (ready : graph.Ready) : graph.Saved := by
  obtain ⟨joined, ordered, own⟩ := ready
  have joins := fun connection member => (graph.joins_iff connection).1 (joined connection member)
  have filed {id : NodeId} {node : Node} (known : graph.node? id = some node) :=
    own _ ((graph.nodes.get?_eq_some_iff id node).1 known)
  have held {node : Node} {place : SlotId} {slot : Slot} (found : node.slots.get? place = some slot) :=
    (node.slots.get?_eq_some_iff place slot).1 found
  exact ⟨joins, acyclic_of_ordered joins ordered,
    fun _ _ known kind _ _ found => ((filed known).2 _ (held found)).2 kind,
    fun _ _ known => (filed known).1,
    fun _ _ known _ _ found _ => ((filed known).2 _ (held found)).1⟩

theorem Saved.wellFormed_refreshWrappers (saved : graph.Saved) {count : Nat}
    (ok : (graph.refreshWrappers view).2 = .ok count) :
    (graph.refreshWrappers view).1.WellFormed view := by
  obtain ⟨fewer, joined⟩ := joined_refreshWrappers saved.joined ok
  have before {id : NodeId} {node : Node}
      (known : (graph.refreshWrappers view).1.node? id = some node) :
      ∃ old, graph.node? id = some old ∧ (old.refresh view).1 = node := by
    rw [node?_refreshWrappers ok] at known
    exact Option.map_eq_some_iff.1 known
  refine ⟨joined, ?_, ?_, ?_⟩
  · intro id cycle
    have fewerReads : (graph.refreshWrappers view).1.Reads ≤ graph.Reads := fun _ _ =>
      Graph.reads_of_subset fun _ member => (fewer.map (·.2)).subset member
    exact saved.acyclic id (TransGen.mono fewerReads id id cycle)
  · intro id node known kind
    obtain ⟨old, present, rfl⟩ := before known
    have same := Node.refresh_eq_self fun wrapper other =>
      absurd (kind.symm.trans other) (by simp)
    rw [same] at kind ⊢
    exact saved.outlets id old present kind
  · intro id node wrapper known kind
    obtain ⟨old, present, rfl⟩ := before known
    obtain ⟨earlier, was, rfl, slots, outcome⟩ := Node.exists_sync_of_refresh kind
    obtain ⟨changed, run⟩ := outcome_of_refreshWrappers ok old (Keyed.mem_values_of_get? present)
    obtain ⟨again, answer⟩ := Wrapper.sync_congr view old.slots
      (earlier.sync_handle view old.slots)
    exact ⟨old.slots, changed, answer.trans (outcome.symm.trans run), slots.trans again.symm⟩

theorem Saved.labelled_refreshWrappers (saved : graph.Saved) {count : Nat}
    (ok : (graph.refreshWrappers view).2 = .ok count) :
    (graph.refreshWrappers view).1.Labelled := by
  constructor
  · intro id node known
    rw [node?_refreshWrappers ok] at known
    obtain ⟨old, present, rfl⟩ := Option.map_eq_some_iff.1 known
    rw [(old.refresh_resynced view).id]
    exact saved.nodes id old present
  · intro id node call known kind
    rw [node?_refreshWrappers ok] at known
    obtain ⟨old, present, rfl⟩ := Option.map_eq_some_iff.1 known
    have same := Node.refresh_eq_self fun wrapper other =>
      absurd (kind.symm.trans other) (by simp)
    rw [same]
    exact saved.outputs id old present

theorem recalls_of_refreshWrappers {count : Nat} (ok : (graph.refreshWrappers view).2 = .ok count) :
    ∀ node ∈ (graph.refreshWrappers view).1.nodes.values, ∀ wrapper, node.kind = .wrapper wrapper →
      view.Recalls wrapper := by
  intro node member wrapper kind
  obtain ⟨id, known⟩ := (Keyed.mem_values_iff _ node).1 member
  have known : (graph.refreshWrappers view).1.node? id = some node := known
  rw [node?_refreshWrappers ok] at known
  obtain ⟨old, _, rfl⟩ := Option.map_eq_some_iff.1 known
  obtain ⟨before, _, rfl, _⟩ := Node.exists_sync_of_refresh kind
  exact before.sync_recalls view old.slots

end ShaderGraph

/-- Where stored definitions remember nothing outdated, neither does a graph that was refreshed. -/
theorem View.Current.refreshWrappers {view : View} {graph : ShaderGraph} {count : Nat}
    (stored : ∀ handle definition, view.lookup handle = some definition →
      ∀ node ∈ definition.graph.nodes.values, ∀ wrapper, node.kind = .wrapper wrapper →
        view.Recalls wrapper)
    (ok : (graph.refreshWrappers view).2 = .ok count) :
    view.Current (graph.refreshWrappers view).1 :=
  ⟨ShaderGraph.recalls_of_refreshWrappers ok, stored⟩

end NodeShader

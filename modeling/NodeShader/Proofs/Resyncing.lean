import NodeShader.Proofs.Flagging
import NodeShader.Proofs.Surviving

/-! Bringing wrappers up to date once more. A wrapper derives the slots it has, and so it stays as it is.
What it reports is another matter: slots are compared by their values, and a value with a component that
is not a number differs even from itself. A wrapper with such a default reports a change every time, is
marked as dirty again and has its graph looked through; every other one reports exactly when its slots
are different. -/
namespace NodeShader

theorem Single.sameNumber_self (x : Single) : x.sameNumber x = !x.isNaN := by
  simp [sameNumber]

private theorem all_zip_self {α : Type} (test : α × α → Bool) (items : List α) :
    (items.zip items).all test = items.all fun item => test (item, item) := by
  induction items with
  | nil => rfl
  | cons item rest ih => simp [ih]

namespace Value

def isNumeric (value : Value) : Bool := value.numbers.all fun x => !x.isNaN

theorem same_self (value : Value) : value.same value = value.isNumeric := by
  simp [same, all_zip_self, Single.sameNumber_self, isNumeric]

end Value

theorem Slot.same_self (slot : Slot) : slot.same slot = slot.default.isNumeric := by
  simp [same, Value.same_self]

theorem Slot.eq_of_same {x y : Slot} (same : x.same y = true) (default : x.default = y.default) :
    x = y := by
  simp only [Slot.same, Bool.and_eq_true, decide_eq_true_eq] at same
  obtain ⟨⟨⟨⟨⟨id, display⟩, reference⟩, direction⟩, type⟩, _⟩ := same
  cases x
  cases y
  simp_all

namespace SlotTable

def isNumeric (table : SlotTable) : Bool := table.slots.all fun slot => slot.default.isNumeric

theorem same_self (table : SlotTable) : table.same table = table.isNumeric := by
  simp [same, all_zip_self, Slot.same_self, isNumeric]

theorem mem_ids_iff (table : SlotTable) (id : SlotId) :
    id ∈ table.ids ↔ ∃ slot, table.get? id = some slot := by
  simp [ids, get?_eq_some_iff]

/-- A slot that comes out the same took its default over, so that the tables are equal. -/
theorem same_replace_iff {all : List Slot} (distinct : (all.map (·.id)).Nodup) (table : SlotTable) :
    ((table.addAll all).keepOnly (all.map (·.id))).same table = true ↔
      (table.addAll all).keepOnly (all.map (·.id)) = table ∧ table.isNumeric = true := by
  constructor
  · intro same
    have equal : (table.addAll all).keepOnly (all.map (·.id)) = table := by
      refine ext_get? fun id => ?_
      cases found : table.get? id with
      | none =>
        have ids := (Bool.and_eq_true_iff.1 same).1
        refine Option.eq_none_iff_forall_ne_some.2 fun slot held => ?_
        have listed := (mem_ids_iff _ id).2 ⟨slot, held⟩
        rw [of_decide_eq_true ids, mem_ids_iff, found] at listed
        simp at listed
      | some slot =>
        obtain ⟨other, held, alike⟩ := exists_same same found
        obtain ⟨source, member, rfl, rfl⟩ := (get?_replace distinct table id other).1 held
        have fields := alike
        simp only [Slot.same, Bool.and_eq_true, decide_eq_true_eq] at fields
        have kept : table.inherited source = slot.default := by
          simp [inherited, found, fields.1.2, fields.1.1.2]
        rw [held, Slot.eq_of_same alike kept]
    rw [equal, same_self] at same
    exact ⟨equal, same⟩
  · rintro ⟨equal, numeric⟩
    rw [equal, same_self, numeric]

end SlotTable

namespace Wrapper
variable {view : View} {wrapper : Wrapper} {slots : SlotTable} {changed : Bool}

/-- A change is reported if the slots are different, and also if one of them has a default that is not
made of numbers. -/
theorem sync_eq_ok_true_iff (view : View) (wrapper : Wrapper) (slots : SlotTable) :
    (wrapper.sync view slots).outcome = .ok true ↔ (wrapper.sync view slots).slots ≠ slots ∨
      (∃ changed, (wrapper.sync view slots).outcome = .ok changed) ∧ slots.isNumeric = false := by
  have reported {all : List Slot} (distinct : (all.map (·.id)).Nodup) :
      (!((slots.addAll all).keepOnly (all.map (·.id))).same slots) = true ↔
        (slots.addAll all).keepOnly (all.map (·.id)) ≠ slots ∨ slots.isNumeric = false := by
    rw [Bool.not_eq_true', Bool.eq_false_iff, Ne, SlotTable.same_replace_iff distinct, not_and_or,
      Bool.not_eq_true]
  rcases wrapper.sync_cases view slots with
    ⟨_, left, outcome⟩ | ⟨_, _, all, _, derived, left, outcome⟩ | ⟨_, _, _, _, left, outcome⟩
  · have empty : (([] : List Slot).map (·.id)).Nodup := List.nodup_nil
    simpa [left, outcome, SlotTable.addAll] using reported empty
  · obtain ⟨_, _, distinct⟩ := interface_eq_ok derived
    simpa [left, outcome] using reported distinct
  · simp [left, outcome]

/-- Whether slots can be derived depends on the definition alone. -/
theorem exists_sync_eq_ok (ok : (wrapper.sync view slots).outcome = .ok changed) {other : Wrapper}
    (same : other.handle = wrapper.handle) (table : SlotTable) :
    ∃ answer, (other.sync view table).outcome = .ok answer := by
  rcases other.sync_cases view table with
    ⟨_, _, outcome⟩ | ⟨_, _, _, _, _, _, outcome⟩ | ⟨definition, cause, stored, clash, _, _⟩
  · exact ⟨_, outcome⟩
  · exact ⟨_, outcome⟩
  · rw [same] at stored
    rw [sync_of_clash stored clash] at ok
    contradiction

/-- A wrapper that is up to date stays as it is. -/
theorem sync_of_synced (ok : (wrapper.sync view slots).outcome = .ok changed) :
    let synced := wrapper.sync view slots
    synced.wrapper.sync view synced.slots =
      ⟨synced.wrapper, synced.slots, .ok (!synced.slots.isNumeric)⟩ := by
  intro synced
  have bound : synced.wrapper.handle = wrapper.handle := sync_handle view wrapper slots
  obtain ⟨left, order⟩ : (synced.wrapper.sync view synced.slots).slots = synced.slots ∧ _ :=
    sync_sync view wrapper slots
  have remembered : (synced.wrapper.sync view synced.slots).wrapper = synced.wrapper := by
    rw [Wrapper.mk.injEq]
    refine ⟨sync_handle view synced.wrapper synced.slots, ?_, order⟩
    rw [cached_sync, bound, ← cached_sync view wrapper slots]
  obtain ⟨answer, outcome⟩ := exists_sync_eq_ok ok bound synced.slots
  have reported := sync_eq_ok_true_iff view synced.wrapper synced.slots
  rw [outcome, left] at reported
  have answered : answer = !synced.slots.isNumeric := by
    refine Bool.eq_iff_iff.2 ?_
    rw [Bool.not_eq_true']
    simpa using reported
  calc synced.wrapper.sync view synced.slots
      = ⟨(synced.wrapper.sync view synced.slots).wrapper,
          (synced.wrapper.sync view synced.slots).slots,
          (synced.wrapper.sync view synced.slots).outcome⟩ := rfl
    _ = ⟨synced.wrapper, synced.slots, .ok (!synced.slots.isNumeric)⟩ := by
        rw [remembered, left, outcome, answered]

end Wrapper

namespace Node
variable {view : View} {node : Node} {changed : Bool}

/-- A wrapper with a default that is not made of numbers. -/
def restless (node : Node) : Bool := node.wrapper?.isSome && !node.slots.isNumeric

/-- A node that was brought up to date, and was marked or not since then. -/
theorem refresh_of_refreshed (ok : (node.refresh view).2 = .ok changed) (dirty : Bool) :
    let marked := { (node.refresh view).1 with dirty := dirty }
    marked.refresh view =
      ({ marked with dirty := dirty || marked.restless }, .ok marked.restless) := by
  cases kind : node.kind with
  | wrapper wrapper =>
    have outcome := (refresh_of_wrapper view kind).2.symm.trans ok
    have again := Wrapper.sync_of_synced outcome
    simp only [refresh, kind, withSync, restless, wrapper?, again]
    simp
  | function | reader | output => simp [refresh, kind, restless, wrapper?]

theorem changes_of_restless (ok : (node.refresh view).2 = .ok changed)
    (restless : (node.refresh view).1.restless = true) : ShaderGraph.changes view node = true := by
  obtain ⟨wraps, odd⟩ := Bool.and_eq_true_iff.1 restless
  obtain ⟨wrapper, kind⟩ := Option.isSome_iff_exists.1 wraps
  obtain ⟨before, was, _, slots, outcome⟩ :=
    exists_sync_of_refresh ((Node.wrapper?_eq_some_iff _ wrapper).1 kind)
  rw [slots, Bool.not_eq_true'] at odd
  have loud : (before.sync view node.slots).outcome = .ok true := by
    refine (before.sync_eq_ok_true_iff view node.slots).2 ?_
    by_cases same : (before.sync view node.slots).slots = node.slots
    · exact .inr ⟨⟨changed, outcome.symm.trans ok⟩, same ▸ odd⟩
    · exact .inl same
  simp [ShaderGraph.changes, outcome, loud, Except.toOption]

end Node

namespace ShaderGraph
variable {view : View} {graph : ShaderGraph}

theorem prune_prune (graph : ShaderGraph) : graph.prune.prune = graph.prune := by
  have joins : graph.prune.joins = graph.joins := rfl
  show graph.prune.withGraph { graph.prune.toGraph with
    filed := (graph.filed.filter fun entry => graph.joins entry.2).filter fun entry =>
      graph.prune.joins entry.2 } = graph.prune
  rw [joins, List.filter_filter]
  simp only [Bool.and_self]
  rfl

/-- Connections are dropped for what becomes of slots alone. -/
theorem prune_mapNodes {change : NodeId → Node → Node}
    (same : ∀ id node, (change id node).slots = node.slots) (graph : ShaderGraph) :
    (graph.mapNodes change).prune = graph.prune.mapNodes change := by
  have slot (place : Endpoint) : (graph.mapNodes change).slot? place = graph.slot? place := by
    show ((graph.nodes.mapValues change).get? place.node).bind _ = (graph.nodes.get? place.node).bind _
    rw [Keyed.get?_mapValues]
    cases graph.nodes.get? place.node <;> simp [same]
  have joins : (graph.mapNodes change).joins = graph.joins := by
    funext connection
    rw [Graph.joins, slot, slot, ← Graph.joins]
  show graph.withGraph { (graph.mapNodes change).toGraph with
    filed := graph.filed.filter fun entry => (graph.mapNodes change).joins entry.2 } = _
  rw [joins]
  rfl

/-- Where no wrapper is at fault the refresh runs through. -/
theorem refreshWrappers_of_passed
    (passed : ∀ node ∈ graph.nodes.values, ∃ changed, (node.refresh view).2 = .ok changed) :
    let changed := graph.mapNodes fun _ node => (node.refresh view).1
    let count := graph.nodes.values.countP (changes view)
    graph.refreshWrappers view = (if count = 0 then changed else changed.prune, .ok count) := by
  intro changed count
  cases outcome : (graph.refreshWrappers view).2 with
  | error cause =>
    obtain ⟨before, failing, behind, halts, _⟩ := refreshWrappers_eq_error outcome
    have listed : failing ∈ graph.nodes.entries := by simp [halts.split]
    obtain ⟨answer, ok⟩ := passed failing.2 (List.mem_map.2 ⟨failing, listed, rfl⟩)
    cases ok.symm.trans halts.failed
  | ok total =>
    obtain ⟨counted, result⟩ := refreshWrappers_of_ok outcome
    have same : total = count := by
      rw [counted]
      simp only [count, Keyed.values, List.countP_map, Function.comp_def]
    rw [same] at outcome result
    exact Prod.ext result outcome

def marked (graph : ShaderGraph) (dirty : NodeId → Bool) : ShaderGraph :=
  graph.mapNodes fun id node => { node with dirty := dirty id }

theorem exists_of_mem_marked {count : Nat} (ok : (graph.refreshWrappers view).2 = .ok count)
    {dirty : NodeId → Bool} {node : Node}
    (member : node ∈ ((graph.refreshWrappers view).1.marked dirty).nodes.values) :
    ∃ old ∈ graph.nodes.values, ∃ mark, node = { (old.refresh view).1 with dirty := mark } := by
  obtain ⟨id, known⟩ := (Keyed.mem_values_iff _ node).1 member
  rw [marked, mapNodes, withGraph, Keyed.get?_mapValues] at known
  obtain ⟨refreshed, here, rfl⟩ := Option.map_eq_some_iff.1 known
  obtain ⟨old, present, rfl⟩ := Option.map_eq_some_iff.1 ((node?_refreshWrappers ok id).symm.trans here)
  exact ⟨old, Keyed.mem_values_of_get? present, dirty id, rfl⟩

/-- A restless wrapper was counted by the refresh, which has dropped what connections there were to drop. -/
theorem prune_refreshed {count : Nat} (ok : (graph.refreshWrappers view).2 = .ok count)
    {dirty : NodeId → Bool} {node : Node}
    (member : node ∈ ((graph.refreshWrappers view).1.marked dirty).nodes.values)
    (restless : node.restless = true) :
    ((graph.refreshWrappers view).1.marked dirty).prune =
      (graph.refreshWrappers view).1.marked dirty := by
  obtain ⟨counted, result⟩ := refreshWrappers_of_ok ok
  have loud : count ≠ 0 := by
    intro quiet
    obtain ⟨old, present, mark, rfl⟩ := exists_of_mem_marked ok member
    obtain ⟨changed, run⟩ := outcome_of_refreshWrappers ok old present
    obtain ⟨entry, listed, rfl⟩ := List.mem_map.1 present
    exact List.countP_eq_zero.1 (counted.symm.trans quiet) entry listed
      (Node.changes_of_restless run restless)
  have pruned : (graph.refreshWrappers view).1.prune = (graph.refreshWrappers view).1 := by
    rw [result, if_neg loud, prune_prune]
  exact (prune_mapNodes (fun _ _ => by rfl) _).trans (congrArg (marked · dirty) pruned)

/-- A refresh after a refresh counts the restless wrappers, marks them and does nothing else. -/
theorem refreshWrappers_of_refreshed {count : Nat} (ok : (graph.refreshWrappers view).2 = .ok count)
    (dirty : NodeId → Bool) :
    let again := (graph.refreshWrappers view).1.marked dirty
    again.refreshWrappers view =
      (again.mapNodes fun _ node => { node with dirty := node.dirty || node.restless },
        .ok (again.nodes.values.countP Node.restless)) := by
  intro again
  have answers := outcome_of_refreshWrappers ok
  have refreshed (node : Node) (member : node ∈ again.nodes.values) :
      node.refresh view = ({ node with dirty := node.dirty || node.restless }, .ok node.restless) := by
    obtain ⟨old, present, mark, rfl⟩ := exists_of_mem_marked ok member
    obtain ⟨changed, run⟩ := answers old present
    exact Node.refresh_of_refreshed run mark
  have same : again.mapNodes (fun _ node => (node.refresh view).1) =
      again.mapNodes fun _ node => { node with dirty := node.dirty || node.restless } :=
    mapNodes_congr fun _ node member => by rw [refreshed node member]
  have counted : again.nodes.values.countP (changes view) = again.nodes.values.countP Node.restless := by
    refine List.countP_congr fun node member => ?_
    simp [changes, refreshed node member, Except.toOption]
  rw [refreshWrappers_of_passed fun node member => ⟨_, congrArg Prod.snd (refreshed node member)⟩,
    same, counted]
  refine Prod.ext ?_ rfl
  split
  next => rfl
  next nonzero =>
    obtain ⟨node, member, restless⟩ := List.countP_pos_iff.1 (Nat.pos_of_ne_zero nonzero)
    exact (prune_mapNodes (fun _ _ => by rfl) again).trans
      (congrArg (mapNodes _) (prune_refreshed ok member restless))

end ShaderGraph

/-- What wrappers report when they are brought up to date, and what is left to report for the nodes and
for the graph when this is done once more, whatever was marked since. -/
structure View.Resyncs (view : View) : Prop where
  reports : ∀ (wrapper : Wrapper) (slots : SlotTable),
    (wrapper.sync view slots).outcome = .ok true ↔ (wrapper.sync view slots).slots ≠ slots ∨
      (∃ changed, (wrapper.sync view slots).outcome = .ok changed) ∧ slots.isNumeric = false
  node : ∀ (node : Node) (changed : Bool), (node.refresh view).2 = .ok changed → ∀ dirty : Bool,
    let marked := { (node.refresh view).1 with dirty := dirty }
    marked.refresh view =
      ({ marked with dirty := dirty || marked.restless }, .ok marked.restless)
  graph : ∀ (graph : ShaderGraph) (count : Nat), (graph.refreshWrappers view).2 = .ok count →
    ∀ dirty : NodeId → Bool,
      let marked := (graph.refreshWrappers view).1.marked dirty
      marked.refreshWrappers view =
        (marked.mapNodes fun _ node => { node with dirty := node.dirty || node.restless },
          .ok (marked.nodes.values.countP Node.restless))

/-- Wrappers report a change exactly when their slots are different, and a second refresh changes and
reports nothing, but for restless wrappers. -/
theorem resync_steady (view : View) : view.Resyncs where
  reports wrapper slots := wrapper.sync_eq_ok_true_iff view slots
  node _ _ ok dirty := Node.refresh_of_refreshed ok dirty
  graph _ _ ok dirty := ShaderGraph.refreshWrappers_of_refreshed ok dirty

/-- Two definitions were replaced, and both wrappers are brought up to date, one of them with a slot
less and one with a slot more. There is nothing to report after that. -/
theorem relayed_resync_steady :
    let view := ShaderGraph.lenders [] [Wrapper.propertyNamed 2 "Scale" (.float .one), ShaderGraph.tint] []
    let marked := (ShaderGraph.relayed.refreshWrappers view).1.marked fun _ => false
    (ShaderGraph.relayed.refreshWrappers view).2 = .ok 2 ∧ view.Resyncs ∧
      (marked.refreshWrappers view).2 = .ok 0 ∧
      (marked.refreshWrappers view).1.nodes.values.map Node.dirty = [false, false, false] := by
  intro view marked
  have ok : (ShaderGraph.relayed.refreshWrappers view).2 = .ok 2 := by decide +kernel
  have resyncs := resync_steady view
  rw [show marked.refreshWrappers view = _ from resyncs.graph _ _ ok fun _ => false]
  exact ⟨ok, resyncs, by decide +kernel, by decide +kernel⟩

/-- A property whose value is not a number. -/
def odd : Property := Wrapper.propertyNamed 1 "Scale" (.float ⟨0x7FC00000⟩)

/-- The slots of a wrapper stay, and it is reported and marked all the same. -/
theorem odd_reported_again :
    let view := Wrapper.exposingView (Wrapper.exposing [odd] [])
    let graph := (ShaderGraph.root ⟨7, 0⟩ "Root").addNode
      (Node.make ⟨⟨6, 1⟩⟩ "Sub-graph" (.wrapper (.bound (some ⟨⟨3, 0⟩⟩))))
    let marked := (graph.refreshWrappers view).1.marked fun _ => false
    (graph.refreshWrappers view).2 = .ok 1 ∧
      (∀ node ∈ marked.nodes.values, ∀ wrapper ∈ node.wrapper?,
        (wrapper.sync view node.slots).slots = node.slots ∧
          (wrapper.sync view node.slots).outcome = .ok true) ∧
      (marked.refreshWrappers view).2 = .ok 1 ∧
      (marked.refreshWrappers view).1.nodes.values.map Node.dirty = [true] := by
  decide +kernel

end NodeShader

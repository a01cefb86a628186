import Mathlib.Data.List.Induction
import NodeShader.Proofs.Editing

/-! Types along an edited graph. A connection is made between types that go together, and no step of
editing changes the type of a slot that stays, but for bringing a wrapper up to date: its definition may
lend another type under the same id, and the connection is kept. -/
namespace NodeShader

/-- The connection joins slots whose types go together. -/
def Graph.Fits (graph : Graph) (connection : Connection) : Prop :=
  ∃ source target, graph.slot? connection.source = some source ∧
    graph.slot? connection.target = some target ∧ source.type.connectsTo target.type = true

instance (graph : Graph) (connection : Connection) : Decidable (graph.Fits connection) :=
  match source : graph.slot? connection.source, target : graph.slot? connection.target with
  | some here, some there =>
    if fits : here.type.connectsTo there.type = true then .isTrue ⟨here, there, source, target, fits⟩
    else .isFalse fun ⟨_, _, first, second, fitting⟩ => by
      cases source.symm.trans first
      cases target.symm.trans second
      exact fits fitting
  | none, _ => .isFalse fun ⟨_, _, first, _⟩ => by simp [source] at first
  | some _, none => .isFalse fun ⟨_, _, _, second, _⟩ => by simp [target] at second

namespace Edit

/-- Whether wrappers are brought up to date by the step. -/
def Resyncs : Edit → Prop
  | setSubGraph .. | refreshWrappers .. => True
  | _ => False

/-- The step brings a wrapper up to date and gives a slot that the wrapper keeps another type. -/
def Retypes (graph : ShaderGraph) (edit : Edit) (place : Endpoint) : Prop :=
  edit.Resyncs ∧ (∃ node, graph.node? place.node = some node ∧ node.wrapper?.isSome) ∧
    ∃ old new, graph.slot? place = some old ∧ (edit.apply graph).slot? place = some new ∧
      old.type ≠ new.type

/-- The step is carried out and not refused. -/
def succeeds (graph : ShaderGraph) : Edit → Bool
  | connect id source target => (graph.connect id source target).toOption.isSome
  | addProperty property => (graph.addProperty property).toOption.isSome
  | removeProperty guid => (graph.removeProperty guid).isSome
  | addOutput => graph.addOutput.isSome
  | removeOutput => graph.removeOutput.isSome
  | setSubGraph view id handle => (graph.setSubGraph view id handle).2.toOption.isSome
  | refreshWrappers view => (graph.refreshWrappers view).2.toOption.isSome
  | addNode _ | removeNode _ => true

def allSucceed (graph : ShaderGraph) : List Edit → Bool
  | [] => true
  | edit :: rest => edit.succeeds graph && allSucceed (edit.apply graph) rest

/-- Some step of the run changes a type at an end of the connection, which is there before the step
and from then on. -/
def RetypedUnder (start : ShaderGraph) (edits : List Edit) (connection : Connection) : Prop :=
  ∃ before edit after, edits = before ++ edit :: after ∧
    (edit.Retypes (before.foldl apply start) connection.source ∨
      edit.Retypes (before.foldl apply start) connection.target) ∧
    ∀ made, before <+: made → made <+: edits → connection ∈ (made.foldl apply start).connections

end Edit

namespace ShaderGraph

/-- The outlets of a graph that was made by editing are vectors of four. -/
def PlainOutlets (graph : ShaderGraph) : Prop :=
  ∀ place slot, graph.outputNode = some place.node → graph.slot? place = some slot →
    slot.type = .vector4

theorem PlainOutlets.new {graph : ShaderGraph} (start : graph.New) : graph.PlainOutlets := by
  intro place slot is found
  cases start with
  | root guid name => simp [root] at is
  | subGraph guid name output =>
    cases is
    obtain ⟨node, known, found⟩ := (Graph.slot?_eq_some_iff _ place slot).1 found
    have only : (subGraph guid name place.node).node? place.node =
        some (Node.outputNode place.node) := by
      have added := Graph.empty.node?_addNode (Node.outputNode place.node) place.node
      exact added.trans (if_pos rfl)
    cases only.symm.trans known
    simp [Node.outputNode, Node.make, SlotTable.get?, SlotTable.empty] at found

end ShaderGraph

namespace Graph

theorem slot?_of_node? {graph changed : Graph} {place : Endpoint} {slot : Slot}
    (same : changed.node? place.node = graph.node? place.node)
    (found : changed.slot? place = some slot) : graph.slot? place = some slot := by
  rwa [slot?, same] at found

theorem slot?_removeNode {graph : Graph} {id : NodeId} {place : Endpoint} {slot : Slot}
    (found : (graph.removeNode id).slot? place = some slot) : graph.slot? place = some slot := by
  obtain ⟨node, known, found⟩ := (slot?_eq_some_iff _ place slot).1 found
  exact (graph.slot?_eq_some_iff place slot).2 ⟨node, node?_of_removeNode known, found⟩

theorem slot?_foldl_removeNode {graph : Graph} {ids : List NodeId} {place : Endpoint} {slot : Slot}
    (found : (ids.foldl removeNode graph).slot? place = some slot) :
    graph.slot? place = some slot := by
  induction ids generalizing graph with
  | nil => exact found
  | cons id rest ih => exact slot?_removeNode (ih found)

theorem slot?_modifyNode {graph : Graph} {id : NodeId} {changed : Node} {place : Endpoint}
    {slot : Slot} (found : (graph.modifyNode id fun _ => changed).slot? place = some slot) :
    graph.slot? place = some slot ∨
      place.node = id ∧ changed.slots.get? place.slot = some slot := by
  obtain ⟨node, known, found⟩ := (slot?_eq_some_iff _ place slot).1 found
  rw [node?_modifyNode] at known
  split at known
  next here =>
    obtain ⟨_, _, rfl⟩ := Option.map_eq_some_iff.1 known
    exact .inr ⟨here, found⟩
  next => exact .inl ((graph.slot?_eq_some_iff place slot).2 ⟨node, known, found⟩)

theorem connections_of_sublist {graph fewer : Graph} (sublist : fewer.filed.Sublist graph.filed)
    {connection : Connection} (member : connection ∈ fewer.connections) :
    connection ∈ graph.connections := (sublist.map _).subset member

theorem connections_foldl_removeNode {graph : Graph} {ids : List NodeId} {connection : Connection}
    (member : connection ∈ (ids.foldl removeNode graph).connections) :
    connection ∈ graph.connections := by
  induction ids generalizing graph with
  | nil => exact member
  | cons id rest ih => exact connections_of_sublist List.filter_sublist (ih member)

end Graph

theorem Node.setSubGraph_of_plain (view : View) (handle : Option Handle) {node : Node}
    (plain : node.wrapper? = none) : (node.setSubGraph view handle).1 = node := by
  cases kind : node.kind with
  | wrapper wrapper => simp [wrapper?, kind] at plain
  | function | reader | output => simp [setSubGraph, kind]

theorem Node.refresh_of_plain (view : View) {node : Node} (plain : node.wrapper? = none) :
    (node.refresh view).1 = node := by
  cases kind : node.kind with
  | wrapper wrapper => simp [wrapper?, kind] at plain
  | function | reader | output => simp [refresh, kind]

namespace Edit

/-- What an admitted step comes to. A step may do nothing, and one that brings wrappers up to date may
drop connections. -/
inductive Does (graph : ShaderGraph) : Edit → ShaderGraph → Prop where
  | nothing (edit : Edit) : Does graph edit graph
  | addNode {node : Node} (fresh : graph.node? node.id = none) :
      Does graph (.addNode node) (graph.addNode node)
  | connect {id : Guid} {source target : Endpoint} {changed : Graph}
      (connected : graph.toGraph.connect id source target = .ok changed) :
      Does graph (.connect id source target) (graph.withGraph changed)
  | removeNode (id : NodeId) :
      Does graph (.removeNode id) (graph.withGraph (graph.toGraph.removeNode id))
  | addProperty (property : Property) :
      Does graph (.addProperty property)
        { graph with properties := graph.properties ++ [property] }
  | removeProperty (guid : Guid) :
      Does graph (.removeProperty guid)
        { (graph.withGraph ((graph.readers guid).foldl Graph.removeNode graph.toGraph)) with
          properties := graph.properties.eraseP fun other => other.guid = guid }
  | addOutput {id : NodeId} {node : Node} {added : Nat × Node} (is : graph.outputNode = some id)
      (known : graph.node? id = some node) (grown : node.addOutlet = some added) :
      Does graph .addOutput (graph.modifyNode id fun _ => added.2)
  | removeOutput {id : NodeId} {node : Node} {removed : Slot × Node}
      (is : graph.outputNode = some id) (known : graph.node? id = some node)
      (shrunk : node.removeOutlet = some removed) :
      Does graph .removeOutput (graph.modifyNode id fun _ => removed.2).prune
  | setSubGraph {view : View} {id : NodeId} {handle : Option Handle} {node : Node}
      {result : ShaderGraph} (known : graph.node? id = some node)
      (left : let rebound := graph.modifyNode id fun _ => (node.setSubGraph view handle).1
        result = rebound ∨ result = rebound.prune) :
      Does graph (.setSubGraph view id handle) result
  | refreshWrappers {view : View} {refreshed result : ShaderGraph}
      (filed : refreshed.filed = graph.filed) (output : refreshed.outputNode = graph.outputNode)
      (looked : ∀ id, refreshed.node? id = (graph.node? id).map fun node => (node.refresh view).1)
      (left : result = refreshed ∨ result = refreshed.prune) :
      Does graph (.refreshWrappers view) result

theorem does_addOutput (graph : ShaderGraph) : addOutput.Does graph (addOutput.apply graph) := by
  cases added : graph.addOutput with
  | none =>
    simp only [apply, added, Option.map_none, Option.getD_none]
    exact .nothing addOutput
  | some result =>
    simp only [apply, added, Option.map_some, Option.getD_some]
    unfold ShaderGraph.addOutput at added
    obtain ⟨id, is, added⟩ := Option.bind_eq_some_iff.1 added
    obtain ⟨node, known, added⟩ := Option.bind_eq_some_iff.1 added
    obtain ⟨grown, outlet, added⟩ := Option.bind_eq_some_iff.1 added
    cases added
    exact .addOutput is known outlet

theorem does_removeOutput (graph : ShaderGraph) :
    removeOutput.Does graph (removeOutput.apply graph) := by
  cases removed : graph.removeOutput with
  | none =>
    simp only [apply, removed, Option.map_none, Option.getD_none]
    exact .nothing removeOutput
  | some result =>
    simp only [apply, removed, Option.map_some, Option.getD_some]
    unfold ShaderGraph.removeOutput at removed
    obtain ⟨id, is, removed⟩ := Option.bind_eq_some_iff.1 removed
    obtain ⟨node, known, removed⟩ := Option.bind_eq_some_iff.1 removed
    obtain ⟨shrunk, outlet, removed⟩ := Option.bind_eq_some_iff.1 removed
    cases removed
    exact .removeOutput is known outlet

theorem does_setSubGraph (graph : ShaderGraph) (view : View) (id : NodeId) (handle : Option Handle) :
    (setSubGraph view id handle).Does graph ((setSubGraph view id handle).apply graph) := by
  simp only [apply, ShaderGraph.setSubGraph]
  split
  next => exact .nothing (setSubGraph view id handle)
  next node known =>
    split
    next => exact .setSubGraph known (.inr rfl)
    next => exact .setSubGraph known (.inl rfl)

theorem does_apply {graph : ShaderGraph} {edit : Edit} (admitted : edit.Admitted graph) :
    edit.Does graph (edit.apply graph) := by
  cases edit with
  | addNode node => exact .addNode admitted
  | connect id source target =>
    simp only [apply]
    split
    next result ok =>
      obtain ⟨changed, connected, rfl⟩ := Outcome.map_eq_ok ok
      exact .connect connected
    next => exact .nothing (connect id source target)
  | removeNode id =>
    simp only [apply, ShaderGraph.removeNode]
    split
    next => exact .nothing (removeNode id)
    next => exact .removeNode id
  | addProperty property =>
    simp only [apply]
    split
    next result ok =>
      obtain ⟨_, _, last⟩ := Outcome.bind_eq_ok ok
      cases last
      exact .addProperty property
    next => exact .nothing (addProperty property)
  | removeProperty guid =>
    simp only [apply, ShaderGraph.removeProperty]
    cases graph.property? guid with
    | none => exact .nothing (removeProperty guid)
    | some property => exact .removeProperty guid
  | addOutput => exact does_addOutput graph
  | removeOutput => exact does_removeOutput graph
  | setSubGraph view id handle => exact does_setSubGraph graph view id handle
  | refreshWrappers view =>
    obtain ⟨count, ok⟩ := admitted
    obtain ⟨refreshed, filed, output, looked, _, result⟩ := ShaderGraph.refreshWrappers_eq_ok ok
    refine .refreshWrappers filed output looked ?_
    rw [apply, result]
    split
    next => exact .inl rfl
    next => exact .inr rfl

namespace Does
variable {graph result : ShaderGraph} {edit : Edit}

theorem outputNode (does : edit.Does graph result) : result.outputNode = graph.outputNode := by
  cases does with
  | setSubGraph _ left => rcases left with rfl | rfl <;> rfl
  | refreshWrappers _ output _ left => rcases left with rfl | rfl <;> exact output
  | nothing | addNode | connect | removeNode | addProperty | removeProperty | addOutput
  | removeOutput => rfl

/-- A connection is there before the step, or the step made it between types that go together. -/
theorem connection (does : edit.Does graph result) {connection : Connection}
    (member : connection ∈ result.connections) :
    connection ∈ graph.connections ∨ result.Fits connection := by
  cases does with
  | nothing | addNode | addProperty | addOutput => exact .inl member
  | @connect id source target _ connected =>
    obtain ⟨⟨first, second, here, there, _, _, fits⟩, _, _, _, rfl⟩ := Graph.connect_eq_ok connected
    rcases (Graph.mem_connections_withConnection _ _ connection).1 member with old | rfl
    · exact .inl old
    · exact .inr ⟨first, second, here, there, fits⟩
  | removeNode id => exact .inl (Graph.connections_of_sublist List.filter_sublist member)
  | removeProperty guid => exact .inl (Graph.connections_foldl_removeNode member)
  | removeOutput => exact .inl (Graph.connections_of_sublist List.filter_sublist member)
  | setSubGraph _ left =>
    rcases left with rfl | rfl
    · exact .inl member
    · exact .inl (Graph.connections_of_sublist List.filter_sublist member)
  | refreshWrappers filed _ _ left =>
    have fewer : result.filed.Sublist graph.filed := by
      rw [← filed]
      rcases left with rfl | rfl
      · exact List.Sublist.refl _
      · exact List.filter_sublist
    exact .inl (Graph.connections_of_sublist fewer member)

end Does

/-- Where a slot comes from that is there after a step. -/
inductive Leaves (graph : ShaderGraph) (edit : Edit) (place : Endpoint) (slot : Slot) : Prop where
  | kept (found : graph.slot? place = some slot)
  | added (fresh : graph.node? place.node = none)
  | outlet (is : graph.outputNode = some place.node) (plain : slot.type = .vector4)
  | resynced (resyncs : edit.Resyncs)
      (wrapper : ∃ node, graph.node? place.node = some node ∧ node.wrapper?.isSome)

/-- A node that is no wrapper keeps its slots when wrappers are brought up to date. -/
theorem Leaves.of_resync {graph : ShaderGraph} {edit : Edit} (resyncs : edit.Resyncs)
    {place : Endpoint} {slot : Slot} {node changed : Node} (known : graph.node? place.node = some node)
    (plain : node.wrapper? = none → changed = node)
    (found : changed.slots.get? place.slot = some slot) : edit.Leaves graph place slot := by
  cases wraps : node.wrapper? with
  | some wrapper => exact .resynced resyncs ⟨node, known, by simp [wraps]⟩
  | none =>
    rw [plain wraps] at found
    exact .kept ((Graph.slot?_eq_some_iff _ place slot).2 ⟨node, known, found⟩)

theorem Leaves.of_addOutlet {graph : ShaderGraph} {edit : Edit} {place : Endpoint} {slot : Slot}
    {node : Node} {added : Nat × Node} (is : graph.outputNode = some place.node)
    (known : graph.node? place.node = some node) (grown : node.addOutlet = some added)
    (found : added.2.slots.get? place.slot = some slot) : edit.Leaves graph place slot := by
  unfold Node.addOutlet at grown
  split at grown
  next =>
    cases grown
    have looked := node.slots.get?_add (Node.outlet (node.slots.inputs.length + 1))
    rw [Node.addSlot, looked] at found
    split at found
    next => exact .outlet is (by rw [← Option.some.inj found]; rfl)
    next => exact .kept ((Graph.slot?_eq_some_iff _ place slot).2 ⟨node, known, found⟩)
  next => contradiction

theorem Leaves.of_removeOutlet {graph : ShaderGraph} {edit : Edit} {place : Endpoint} {slot : Slot}
    {node : Node} {removed : Slot × Node} (known : graph.node? place.node = some node)
    (shrunk : node.removeOutlet = some removed)
    (found : removed.2.slots.get? place.slot = some slot) : edit.Leaves graph place slot := by
  unfold Node.removeOutlet at shrunk
  split at shrunk
  next =>
    obtain ⟨_, _, rfl⟩ := Option.map_eq_some_iff.1 shrunk
    rw [SlotTable.get?_erase] at found
    split at found
    next => contradiction
    next => exact .kept ((Graph.slot?_eq_some_iff _ place slot).2 ⟨node, known, found⟩)
  next => contradiction

theorem Does.leaves {graph result : ShaderGraph} {edit : Edit} (does : edit.Does graph result)
    {place : Endpoint} {slot : Slot} (found : result.slot? place = some slot) :
    edit.Leaves graph place slot := by
  cases does with
  | nothing | addProperty => exact .kept found
  | @addNode node fresh =>
    by_cases here : place.node = node.id
    · exact .added (here ▸ fresh)
    · have same : (graph.toGraph.addNode node).node? place.node = graph.node? place.node := by
        rw [Graph.node?_addNode, if_neg here]
      exact .kept (Graph.slot?_of_node? same found)
  | connect connected =>
    obtain ⟨_, _, _, _, rfl⟩ := Graph.connect_eq_ok connected
    exact .kept found
  | removeNode id => exact .kept (Graph.slot?_removeNode found)
  | removeProperty guid => exact .kept (Graph.slot?_foldl_removeNode found)
  | addOutput is known grown =>
    rcases Graph.slot?_modifyNode found with kept | ⟨rfl, here⟩
    · exact .kept kept
    · exact .of_addOutlet is known grown here
  | removeOutput is known shrunk =>
    rcases Graph.slot?_modifyNode found with kept | ⟨rfl, here⟩
    · exact .kept kept
    · exact .of_removeOutlet known shrunk here
  | @setSubGraph view id handle node _ known left =>
    have rebound : (graph.modifyNode id fun _ => (node.setSubGraph view handle).1).slot? place =
        some slot := by
      rcases left with rfl | rfl <;> exact found
    rcases Graph.slot?_modifyNode rebound with kept | ⟨rfl, here⟩
    · exact .kept kept
    · have resyncs : (Edit.setSubGraph view place.node handle).Resyncs := trivial
      exact .of_resync resyncs known (fun plain => Node.setSubGraph_of_plain view handle plain) here
  | @refreshWrappers view refreshed _ _ _ looked left =>
    have same : refreshed.slot? place = some slot := by rcases left with rfl | rfl <;> exact found
    obtain ⟨changed, known, inside⟩ := (Graph.slot?_eq_some_iff _ place slot).1 same
    rw [looked] at known
    obtain ⟨node, here, rfl⟩ := Option.map_eq_some_iff.1 known
    have resyncs : (Edit.refreshWrappers view).Resyncs := trivial
    exact .of_resync resyncs here (fun plain => Node.refresh_of_plain view plain) inside

theorem apply_plainOutlets {graph : ShaderGraph} (kept : graph.Kept) (plain : graph.PlainOutlets)
    {edit : Edit} (admitted : edit.Admitted graph) : (edit.apply graph).PlainOutlets := by
  intro place slot is found
  have does := does_apply admitted
  rw [does.outputNode] at is
  obtain ⟨output, known, takes⟩ := kept.housed.output place.node is
  cases does.leaves found with
  | kept found => exact plain place slot is found
  | added fresh => simp [known] at fresh
  | outlet _ plain => exact plain
  | resynced _ wrapper =>
    obtain ⟨node, here, wraps⟩ := wrapper
    cases known.symm.trans here
    simp [Node.wrapper?, takes.1] at wraps

/-- A slot that stays keeps its type, unless the step retypes it. -/
theorem type_apply {graph : ShaderGraph} (plain : graph.PlainOutlets) {edit : Edit}
    (admitted : edit.Admitted graph) {place : Endpoint} {old new : Slot}
    (before : graph.slot? place = some old) (after : (edit.apply graph).slot? place = some new) :
    new.type = old.type ∨ edit.Retypes graph place := by
  cases (does_apply admitted).leaves after with
  | kept found =>
    cases before.symm.trans found
    exact .inl rfl
  | added fresh =>
    obtain ⟨node, known, _⟩ := (Graph.slot?_eq_some_iff _ place old).1 before
    simp [known] at fresh
  | outlet is vector => exact .inl (vector.trans (plain place old is before).symm)
  | resynced resyncs wrapper =>
    by_cases same : new.type = old.type
    · exact .inl same
    · exact .inr ⟨resyncs, wrapper, old, new, before, after, fun equal => same equal.symm⟩

/-- A connection that ceases to fit has an end that the step retypes. -/
theorem fits_apply {graph : ShaderGraph} (kept : graph.Kept) (plain : graph.PlainOutlets)
    {edit : Edit} (admitted : edit.Admitted graph) {connection : Connection}
    (member : connection ∈ (edit.apply graph).connections) (fits : graph.Fits connection) :
    (edit.apply graph).Fits connection ∨ edit.Retypes graph connection.source ∨
      edit.Retypes graph connection.target := by
  obtain ⟨source, target, here, there, types⟩ := fits
  obtain ⟨joinedSource, joinedTarget⟩ := (apply_kept kept admitted).connected.joined _ member
  obtain ⟨owner, newSource, known, found, _⟩ := joinedSource
  have sourceAfter : (edit.apply graph).slot? connection.source = some newSource :=
    (Graph.slot?_eq_some_iff _ _ _).2 ⟨owner, known, found⟩
  obtain ⟨owner, newTarget, known, found, _⟩ := joinedTarget
  have targetAfter : (edit.apply graph).slot? connection.target = some newTarget :=
    (Graph.slot?_eq_some_iff _ _ _).2 ⟨owner, known, found⟩
  rcases type_apply plain admitted here sourceAfter with sameSource | retyped
  · rcases type_apply plain admitted there targetAfter with sameTarget | retyped
    · have still : newSource.type.connectsTo newTarget.type = true := by
        rw [sameSource, sameTarget]
        exact types
      exact .inl ⟨newSource, newTarget, sourceAfter, targetAfter, still⟩
    · exact .inr (.inr retyped)
  · exact .inr (.inl retyped)

theorem allAdmitted_concat {start : ShaderGraph} {edits : List Edit} {last : Edit}
    (admitted : AllAdmitted start (edits ++ [last])) :
    AllAdmitted start edits ∧ last.Admitted (edits.foldl apply start) := by
  induction edits generalizing start with
  | nil => exact ⟨trivial, admitted.1⟩
  | cons edit rest ih =>
    obtain ⟨others, final⟩ := ih admitted.2
    exact ⟨⟨admitted.1, others⟩, final⟩

theorem run_plainOutlets {start : ShaderGraph} (kept : start.Kept) (plain : start.PlainOutlets)
    {edits : List Edit} (admitted : AllAdmitted start edits) :
    (edits.foldl apply start).PlainOutlets := by
  induction edits generalizing start with
  | nil => exact plain
  | cons edit rest ih =>
    have next : (edit.apply start).Kept := apply_kept kept admitted.1
    exact ih next (apply_plainOutlets kept plain admitted.1) admitted.2

theorem RetypedUnder.concat {start : ShaderGraph} {edits : List Edit} {connection : Connection}
    (retyped : RetypedUnder start edits connection) {last : Edit}
    (member : connection ∈ ((edits ++ [last]).foldl apply start).connections) :
    RetypedUnder start (edits ++ [last]) connection := by
  obtain ⟨before, edit, after, rfl, change, since⟩ := retyped
  refine ⟨before, edit, after ++ [last], by simp, change, ?_⟩
  intro made first upTo
  rcases List.prefix_concat_iff.1 upTo with rfl | earlier
  · exact member
  · exact since made first earlier

theorem RetypedUnder.now {start : ShaderGraph} {edits : List Edit} {connection : Connection}
    {last : Edit} (before : connection ∈ (edits.foldl apply start).connections)
    (after : connection ∈ ((edits ++ [last]).foldl apply start).connections)
    (change : last.Retypes (edits.foldl apply start) connection.source ∨
      last.Retypes (edits.foldl apply start) connection.target) :
    RetypedUnder start (edits ++ [last]) connection := by
  refine ⟨edits, last, [], rfl, change, ?_⟩
  intro made first upTo
  rcases List.prefix_concat_iff.1 upTo with rfl | earlier
  · exact after
  · rwa [earlier.eq_of_length_le first.length_le]

end Edit

/-- However a graph was edited, the ends of a connection go together, unless a wrapper at one of them
was given another type under the connection. -/
theorem edited_fits_or_retyped (start : ShaderGraph) (fresh : start.New) (edits : List Edit)
    (admitted : Edit.AllAdmitted start edits) :
    ∀ connection ∈ (edits.foldl Edit.apply start).connections,
      (edits.foldl Edit.apply start).Fits connection ∨ Edit.RetypedUnder start edits connection := by
  have begun : start.Kept := .new fresh
  induction edits using List.reverseRecOn with
  | nil =>
    intro connection member
    have none : start.connections = [] := by cases fresh <;> rfl
    simp [none] at member
  | append_singleton edits last ih =>
    obtain ⟨others, final⟩ := Edit.allAdmitted_concat admitted
    have kept : (edits.foldl Edit.apply start).Kept := Edit.run_kept begun others
    have plain : (edits.foldl Edit.apply start).PlainOutlets :=
      Edit.run_plainOutlets begun (.new fresh) others
    have reached : (edits ++ [last]).foldl Edit.apply start =
        last.apply (edits.foldl Edit.apply start) := by simp
    intro connection member
    rw [reached]
    rcases (Edit.does_apply final).connection (reached ▸ member) with old | made
    · rcases ih others connection old with fits | earlier
      · rcases Edit.fits_apply kept plain final (reached ▸ member) fits with still | change
        · exact .inl still
        · exact .inr (.now old member change)
      · exact .inr (earlier.concat member)
    · exact .inl made

namespace Edit

/-- The definition that a wrapper is bound to, with one property of the given value. -/
def strength (value : PropertyValue) : Definition :=
  ⟨⟨8, 0⟩, "Strength", { ShaderGraph.root ⟨8, 1⟩ "Strength" with
    properties := [⟨⟨8, 2⟩, "Strength", "Strength", value⟩] }⟩

def beforeRetyping : Assets := Assets.empty.store (strength (.float .zero))

def afterRetyping : Assets := beforeRetyping.store (strength (.texture none))

/-- A number is joined to a property that the definition turns into a texture afterwards. -/
def retyping : List Edit :=
  [.addNode (relay ⟨8, 3⟩), .addNode (relay ⟨8, 4⟩),
    .addNode (Node.make ⟨8, 5⟩ "Sub-graph" (.wrapper (.bound none))),
    .setSubGraph beforeRetyping.view ⟨8, 5⟩ (some ⟨8, 0⟩),
    .connect ⟨8, 6⟩ ⟨⟨8, 3⟩, .positional 1⟩ ⟨⟨8, 4⟩, .positional 0⟩,
    .connect ⟨8, 7⟩ ⟨⟨8, 4⟩, .positional 1⟩ ⟨⟨8, 5⟩, .ofGuid ⟨8, 2⟩⟩,
    .refreshWrappers afterRetyping.view]

end Edit

theorem retyping_fits_or_retyped :
    let start := ShaderGraph.root ⟨8, 8⟩ "Edited"
    let reached := Edit.retyping.foldl Edit.apply start
    start.New ∧ Edit.AllAdmitted start Edit.retyping ∧ reached.connections.length = 2 ∧
      ∀ connection ∈ reached.connections,
        reached.Fits connection ∨ Edit.RetypedUnder start Edit.retyping connection := by
  intro start reached
  have fresh : start.New := .root ⟨8, 8⟩ "Edited"
  have admitted : Edit.AllAdmitted start Edit.retyping := by decide +kernel
  have two : reached.connections.length = 2 := by decide +kernel
  exact ⟨fresh, admitted, two, edited_fits_or_retyped start fresh Edit.retyping admitted⟩

/-- No step of the run is refused, and a connection is left between a vector and a texture. -/
theorem retyping_unfits :
    let start := ShaderGraph.root ⟨8, 8⟩ "Edited"
    let reached := Edit.retyping.foldl Edit.apply start
    start.New ∧ Edit.AllAdmitted start Edit.retyping ∧ Edit.allSucceed start Edit.retyping ∧
      ∃ connection ∈ reached.connections, ¬ reached.Fits connection := by
  intro start reached
  have fresh : start.New := .root ⟨8, 8⟩ "Edited"
  have admitted : Edit.AllAdmitted start Edit.retyping := by decide +kernel
  have succeed : Edit.allSucceed start Edit.retyping := by decide +kernel
  have unfit : ∃ connection ∈ reached.connections, ¬ reached.Fits connection := by decide +kernel
  exact ⟨fresh, admitted, succeed, unfit⟩

end NodeShader

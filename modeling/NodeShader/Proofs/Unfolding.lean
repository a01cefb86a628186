import NodeShader.Proofs.Flagging

/-! Definitions inside definitions. What a wrapper stands for is expanded through the active wrappers
inside it; where the ids of stored graphs can be trusted and no ring of references is found, this
never leads back to a definition on the way, however deep it goes. A changed copy of a graph that kept
its id escapes the search for rings and may nest without end. -/
namespace NodeShader.View

/-- An active wrapper of the graph stands for the definition. -/
def Expands (view : View) (graph : ShaderGraph) (definition : Live) : Prop :=
  ∃ entry ∈ graph.active, entry.2.wrapper?.bind view.resolve = some definition

/-- The definition that a wrapper stands for, or one that is met inside it. -/
def Unfolds (view : View) (node : Node) (definition : Live) : Prop :=
  ∃ outer, node.wrapper?.bind view.resolve = some outer ∧
    (definition = outer ∨ Reaches view.Expands outer.graph definition)

theorem reaches_of_unfolds {view : View} {graph : ShaderGraph} {entry : NodeId × Node}
    {definition : Live} (active : entry ∈ graph.active) (unfolds : view.Unfolds entry.2 definition) :
    Reaches view.Expands graph definition := by
  obtain ⟨outer, resolved, rfl | path⟩ := unfolds
  · exact .direct ⟨entry, active, resolved⟩
  · exact .head ⟨entry, active, resolved⟩ path

/-- What holds of the definition that a node stands for, and goes over to each one that is met inside,
holds of all that the node unfolds to. -/
theorem Unfolds.induction {view : View} {node : Node} {holds : Live → Prop}
    (outer : ∀ definition, node.wrapper?.bind view.resolve = some definition → holds definition)
    (inner : ∀ between definition, holds between → view.Expands between.graph definition →
      holds definition) {definition : Live} (unfolds : view.Unfolds node definition) :
    holds definition := by
  obtain ⟨start, resolved, rfl | path⟩ := unfolds
  · exact outer definition resolved
  · induction path with
    | direct expands => exact inner start _ (outer start resolved) expands
    | further _ expands ih => exact inner _ _ ih expands

theorem Current.reaches {view : View} {graph : ShaderGraph} {definition : Live}
    (current : view.Current graph) (path : Reaches view.Refers graph definition) :
    view.Current definition.graph := by
  obtain ⟨handle, stored⟩ := stored_of_reaches path
  exact current.of_lookup stored

theorem Current.refers_of_expands {view : View} {graph : ShaderGraph} {definition : Live}
    (current : view.Current graph) (expands : view.Expands graph definition) :
    view.Refers graph definition := by
  obtain ⟨entry, active, resolved⟩ := expands
  obtain ⟨wrapper, kind, resolved⟩ := Option.bind_eq_some_iff.1 resolved
  exact current.refers_of_resolve (Graph.mem_values_of_mem_active active)
    ((entry.2.wrapper?_eq_some_iff wrapper).1 kind) resolved

theorem Current.reaches_of_expands {view : View} {graph : ShaderGraph} {definition : Live}
    (current : view.Current graph) (path : Reaches view.Expands graph definition) :
    Reaches view.Refers graph definition := by
  induction path with
  | direct expands => exact .direct (current.refers_of_expands expands)
  | further _ expands ih => exact .further ih ((current.reaches ih).refers_of_expands expands)

theorem Current.reaches_of_unfolds {view : View} {graph : ShaderGraph} {node : Node}
    {definition : Live} (current : view.Current graph) (member : node ∈ graph.nodes.values)
    (unfolds : view.Unfolds node definition) : Reaches view.Refers graph definition := by
  refine unfolds.induction ?_ ?_
  · intro outer resolved
    obtain ⟨wrapper, kind, resolved⟩ := Option.bind_eq_some_iff.1 resolved
    exact .direct (current.refers_of_resolve member
      ((node.wrapper?_eq_some_iff wrapper).1 kind) resolved)
  · intro between inner path expands
    exact .further path ((current.reaches path).refers_of_expands expands)

/-- Below nodes that were searched without finding a fault the search met only definitions that were
open to it. -/
theorem serial_mem_of_reaches {view : View} {unmarked : List Serial} {graph : ShaderGraph}
    {definition : Live}
    (cleared : ∀ entry ∈ graph.active, view.fault unmarked entry.2 = some false)
    (path : Reaches view.Expands graph definition) :
    definition.serial ∈ unmarked ∧ ∃ left ⊆ unmarked,
      ∀ entry ∈ definition.graph.active, view.fault left entry.2 = some false := by
  have step {open_ : List Serial} {inner : Live} {entry : NodeId × Node} (within : open_ ⊆ unmarked)
      (answer : view.fault open_ entry.2 = some false)
      (resolved : entry.2.wrapper?.bind view.resolve = some inner) :
      inner.serial ∈ unmarked ∧ ∃ left ⊆ unmarked,
        ∀ entry ∈ inner.graph.active, view.fault left entry.2 = some false := by
    obtain ⟨member, below⟩ := fault_eq_false answer resolved
    exact ⟨within member, without open_ inner.serial,
      fun serial inside => within (mem_without.1 inside).1, fun entry active => (below entry active).2⟩
  induction path with
  | direct expands =>
    obtain ⟨entry, active, resolved⟩ := expands
    exact step (fun _ inside => inside) (cleared entry active) resolved
  | further _ expands ih =>
    obtain ⟨_, left, within, below⟩ := ih
    obtain ⟨entry, active, resolved⟩ := expands
    exact step within (below entry active) resolved

namespace Intact
variable {view : View} {node : Node} {definition : Live}

theorem apart (intact : view.Intact node) {outer : Live}
    (resolved : node.wrapper?.bind view.resolve = some outer)
    (path : Reaches view.Expands outer.graph definition) : definition.serial ≠ outer.serial := by
  obtain ⟨unmarked, cleared⟩ := intact
  have below := (fault_eq_false cleared resolved).2
  have inside := (serial_mem_of_reaches (fun entry active => (below entry active).2) path).1
  exact (mem_without.1 inside).2

theorem unfolds (intact : view.Intact node) (unfolds : view.Unfolds node definition) :
    ∀ entry ∈ definition.graph.active, entry.2.hasError = false ∧ view.Intact entry.2 := by
  refine unfolds.induction (fun outer resolved => intact.inside resolved) ?_
  intro between inner below expands
  obtain ⟨entry, active, resolved⟩ := expands
  exact (below entry active).2.inside resolved

end Intact

/-- The expansion of a definition ends, step by step without a look at what is being expanded. -/
theorem acc_of_safe {view : View} {unmarked : List Serial} {definition : Live}
    (current : view.Current definition.graph) (safe : view.Safe definition.graph)
    (unmet : ∀ inner, Reaches view.Refers definition.graph inner → inner.serial ∈ unmarked) :
    Acc (fun inner outer : Live => view.Expands outer.graph inner) definition := by
  induction count : unmarked.length using Nat.strong_induction_on generalizing unmarked definition with
  | _ count ih =>
    refine ⟨_, fun inner expands => ?_⟩
    have refers := current.refers_of_expands expands
    refine ih _ (count ▸ length_without_lt (unmet inner (.direct refers))) (current.refers refers)
      (safe.refers refers) ?_ rfl
    intro deeper path
    exact mem_without.2 ⟨unmet deeper (.head refers path),
      serial_ne_of_apart refers path (safe.apart inner (.direct refers))⟩

/-- The definitions below the wrappers of a graph: none is met inside itself, expanding one always
ends, and so validation comes to its end with a report. -/
structure Founded (view : View) (root : ShaderGraph) : Prop where
  apart : ∀ node ∈ root.nodes.values, ∀ definition, view.Unfolds node definition →
    ¬ Reaches view.Expands definition.graph definition
  ends : ∀ node ∈ root.nodes.values, ∀ definition, view.Unfolds node definition →
    Acc (fun inner outer : Live => view.Expands outer.graph inner) definition
  answered : view.validate root = .ok (view.report root, view.flag root)

/-- If the search for rings finds none then expansion ends, provided that stored graphs with one id
are one graph. -/
theorem nesting_founded {view : View} {root : ShaderGraph} {checked : List Guid}
    (consistent : view.Consistent) (current : view.Current root)
    (ok : view.checkCycles (root.guid :: view.guids) [] [] root = .ok checked) :
    view.Founded root := by
  have safe := safe_of_checkCycles consistent.alike ok
  refine ⟨?_, ?_, by rw [validate_eq consistent current, ok]; rfl⟩
  · intro node member definition unfolds ring
    have path := current.reaches_of_unfolds member unfolds
    exact safe.apart definition path ((current.reaches path).reaches_of_expands ring)
  · intro node member definition unfolds
    have path := current.reaches_of_unfolds member unfolds
    refine acc_of_safe (current.reaches path) ?_
      fun inner below => mem_serials_of_reaches below
    exact ⟨safe.inner definition path, fun inner below => safe.inner inner (path.trans below),
      fun inner below => safe.apart inner (path.trans below)⟩

/-- Two wrappers stand for one graph, which is stored under two handles. -/
def copied : View :=
  let noise := ShaderGraph.root ⟨1, 0⟩ "Noise"
  let outer := (wrapping 2 "Outer" ⟨1, 1⟩).addNode
    (Node.make ⟨2, 2⟩ "Sub-graph" (.wrapper (.bound (some ⟨2, 2⟩))))
  (Assets.empty.storeAll
    [⟨⟨1, 1⟩, "Noise", noise⟩, ⟨⟨2, 2⟩, "Copy", noise⟩, ⟨⟨3, 3⟩, "Outer", outer⟩]).view

theorem nesting_copied_founded :
    let root := wrapping 3 "Root" ⟨3, 3⟩
    copied.Consistent ∧ ¬ copied.Distinct ∧ copied.Current root ∧
      (∃ checked, copied.checkCycles (root.guid :: copied.guids) [] [] root = .ok checked) ∧
      copied.Founded root := by
  intro root
  have consistent : copied.Consistent := by decide +kernel
  have current : copied.Current root := by decide +kernel
  have succeeds : (copied.checkCycles (root.guid :: copied.guids) [] [] root).toBool = true := by
    decide +kernel
  obtain ⟨checked, ok⟩ := Outcome.exists_eq_ok succeeds
  exact ⟨consistent, by decide +kernel, current, ⟨checked, ok⟩, nesting_founded consistent current ok⟩

/-- No wrapper of a graph or of a stored definition remembers anything. -/
def Fresh (view : View) (graph : ShaderGraph) : Prop :=
  (∀ node ∈ graph.nodes.values, ∀ wrapper ∈ node.wrapper?, wrapper.cached = none) ∧
    ∀ handle definition, view.lookup handle = some definition →
      ∀ node ∈ definition.graph.nodes.values, ∀ wrapper ∈ node.wrapper?, wrapper.cached = none

instance (view : View) (graph : ShaderGraph) : Decidable (view.Fresh graph) :=
  inferInstanceAs (Decidable (_ ∧ _))

/-- A copy of a graph that got a wrapper of itself, behind some other nodes, and kept its id. -/
def selfCopy (front : List Node) : ShaderGraph :=
  let wrapper := Node.make ⟨1, 2⟩ "Sub-graph" (.wrapper (.bound (some ⟨2, 2⟩)))
  (front ++ [wrapper]).foldl ShaderGraph.addNode (.root ⟨1, 0⟩ "Copy")

def changed (front : List Node) : View :=
  (Assets.empty.storeAll
    [⟨⟨1, 1⟩, "Noise", .root ⟨1, 0⟩ "Noise"⟩, ⟨⟨2, 2⟩, "Copy", selfCopy front⟩]).view

/-- The search for rings finds none though a definition below the graph is met inside itself. -/
def Escapes (view : View) (root : ShaderGraph) : Prop :=
  (∃ checked, view.checkCycles (root.guid :: view.guids) [] [] root = .ok checked) ∧
    ∃ node ∈ root.nodes.values, ∃ definition, view.Unfolds node definition ∧
      Reaches view.Expands definition.graph definition

theorem Escapes.of_changed {front : List Node} {root : ShaderGraph}
    (succeeds : ((changed front).checkCycles (root.guid :: (changed front).guids) [] [] root).toBool)
    (met : ∃ node ∈ root.nodes.values, node.wrapper?.bind (changed front).resolve =
      some ⟨⟨⟨2, 2⟩, "Copy", selfCopy front⟩, 1⟩)
    (again : ∃ entry ∈ (selfCopy front).active, entry.2.wrapper?.bind (changed front).resolve =
      some ⟨⟨⟨2, 2⟩, "Copy", selfCopy front⟩, 1⟩) : (changed front).Escapes root := by
  obtain ⟨node, member, resolved⟩ := met
  exact ⟨Outcome.exists_eq_ok succeeds, node, member, _, ⟨_, resolved, .inl rfl⟩, .direct again⟩

/-- Below the changed copy the search for faults has no end, unless it happens to meet a broken node
before. -/
theorem nesting_changed_escapes :
    let root := (wrapping 3 "Root" ⟨1, 1⟩).addNode
      (Node.make ⟨3, 2⟩ "Sub-graph" (.wrapper (.bound (some ⟨2, 2⟩))))
    let broken := { Node.make ⟨1, 1⟩ "Broken" .output with hasError := true }
    ((changed []).Fresh root ∧ (changed []).Escapes root ∧
        (changed []).validate root = .error .endlessNesting) ∧
      (changed [broken]).Fresh root ∧ (changed [broken]).Escapes root ∧
        ((changed [broken]).validate root).toBool = true := by
  intro root broken
  refine ⟨⟨by decide +kernel, ?_, by decide +kernel⟩, by decide +kernel, ?_, by decide +kernel⟩
  · exact .of_changed (by decide +kernel) (by decide +kernel) (by decide +kernel)
  · exact .of_changed (by decide +kernel) (by decide +kernel) (by decide +kernel)

end NodeShader.View

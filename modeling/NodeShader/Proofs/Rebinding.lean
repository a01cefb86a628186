import NodeShader.Proofs.Surviving

/-! A wrapper that is bound to a definition at fault. Slots, order and connections stay as they were, yet
the wrapper has the new handle, so that to try again is to bind it to the handle it has. -/
namespace NodeShader

namespace Node
variable {view : View} {handle : Option Handle} {node : Node}

theorem setSubGraph_of_bound (view : View) {wrapper : Wrapper} (kind : node.kind = .wrapper wrapper)
    (bound : wrapper.handle = handle) : node.setSubGraph view handle = (node, .ok false) := by
  simp [setSubGraph, kind, bound]

theorem setSubGraph_eq_error {cause : SlotError}
    (failed : (node.setSubGraph view handle).2 = .error cause) :
    ∃ wrapper definition, node.kind = .wrapper wrapper ∧ wrapper.handle ≠ handle ∧
      view.Misfits handle definition cause ∧
      (node.setSubGraph view handle).1 =
        { node with kind := .wrapper { wrapper with handle, cached := some definition.serial } } := by
  unfold setSubGraph at failed ⊢
  split at failed
  next wrapper kind =>
    split at failed
    next => cases failed
    next other =>
      obtain ⟨definition, misfits, left⟩ := Wrapper.sync_eq_error failed
      refine ⟨wrapper, definition, kind, other, misfits, ?_⟩
      simp only [if_neg other, left]
      rfl
  next => cases failed

/-- A definition at fault is found again whenever the wrapper is brought up to date. -/
theorem refresh_of_misfits {wrapper : Wrapper} {definition : Live} {cause : SlotError}
    (kind : node.kind = .wrapper wrapper) (misfits : view.Misfits wrapper.handle definition cause) :
    ∃ found, (node.refresh view).2 = .error found := by
  obtain ⟨stored, refused⟩ := misfits
  rcases definition.graph.interface_cases with ⟨all, lendable, _⟩ | ⟨found, _, clash⟩
  · exact absurd lendable (refused.not_lendable all)
  · refine ⟨found, ?_⟩
    rw [(refresh_of_wrapper view kind).2, Wrapper.sync_of_clash stored clash]

end Node

namespace ShaderGraph
variable {view : View} {graph : ShaderGraph} {id : NodeId} {handle : Option Handle}

theorem setSubGraph_of_bound (view : View) {node : Node} {wrapper : Wrapper}
    (known : graph.node? id = some node) (kind : node.kind = .wrapper wrapper)
    (bound : wrapper.handle = handle) : graph.setSubGraph view id handle = (graph, .ok false) := by
  have still : (graph.nodes.modify id fun _ => node) = graph.nodes := Keyed.modify_eq_self known
  simp only [setSubGraph, known, node.setSubGraph_of_bound view kind bound, modifyNode, withGraph,
    Graph.modifyNode, still]

theorem setSubGraph_eq_error {cause : SlotError}
    (failed : (graph.setSubGraph view id handle).2 = .error cause) :
    ∃ node, graph.node? id = some node ∧ (node.setSubGraph view handle).2 = .error cause ∧
      (graph.setSubGraph view id handle).1 =
        graph.modifyNode id fun _ => (node.setSubGraph view handle).1 := by
  cases known : graph.node? id with
  | none =>
    simp only [setSubGraph, known] at failed
    cases failed
  | some node =>
    have answer : (graph.setSubGraph view id handle).2 = (node.setSubGraph view handle).2 := by
      simp only [setSubGraph, known]
      split <;> rfl
    rw [answer] at failed
    exact ⟨node, rfl, failed, by simp only [setSubGraph, known, failed]⟩

/-- Only a definition at fault is refused. The wrapper has its handle all the same, and nothing else is
different but what the wrapper remembers. To bind it once more then does nothing and is not refused, and
no refresh runs through while the definition is stored. -/
theorem refused_rebinding (view : View) (graph : ShaderGraph) (id : NodeId) (handle : Option Handle)
    (cause : SlotError) (failed : (graph.setSubGraph view id handle).2 = .error cause) :
    let after := (graph.setSubGraph view id handle).1
    (∃ node wrapper definition, graph.node? id = some node ∧ node.kind = .wrapper wrapper ∧
      wrapper.handle ≠ handle ∧ view.Misfits handle definition cause ∧
      after = graph.modifyNode id fun _ =>
        { node with kind := .wrapper { wrapper with handle, cached := some definition.serial } }) ∧
      (∀ other : View, after.setSubGraph other id handle = (after, .ok false)) ∧
      ∀ count, (after.refreshWrappers view).2 ≠ .ok count := by
  intro after
  obtain ⟨node, known, refused, left⟩ := setSubGraph_eq_error failed
  obtain ⟨wrapper, definition, kind, apart, misfits, bound⟩ := Node.setSubGraph_eq_error refused
  rw [bound] at left
  let rebound : Wrapper := { wrapper with handle, cached := some definition.serial }
  have there : after.node? id = some { node with kind := .wrapper rebound } := by
    show (graph.setSubGraph view id handle).1.node? id = _
    rw [left, toGraph_modifyNode, Graph.node?_modifyNode, if_pos rfl, known, Option.map_some]
  refine ⟨⟨node, wrapper, definition, known, kind, apart, misfits, left⟩, fun other => ?_,
    fun count ok => ?_⟩
  · exact setSubGraph_of_bound other there rfl rfl
  · obtain ⟨found, stuck⟩ := @Node.refresh_of_misfits view { node with kind := .wrapper rebound }
      rebound definition cause rfl misfits
    obtain ⟨changed, passed⟩ := outcome_of_refreshWrappers ok _ (Keyed.mem_values_of_get? there)
    cases stuck.symm.trans passed

/-- The wrapper that had an outlet of one definition is bound to one with two properties under one
identity. -/
theorem relayed_refused_rebinding :
    let view := lenders [Node.outlet 1] [tint, { tint with displayName := "Twin" }] []
    let place : NodeId := ⟨⟨6, 1⟩⟩
    let handle : Option Handle := some ⟨⟨4, 0⟩⟩
    let cause := SlotError.identityCollision tint.slotId "Tint" "Twin"
    let after := (relayed.setSubGraph view place handle).1
    (relayed.setSubGraph view place handle).2 = .error cause ∧
      (∃ node wrapper definition, relayed.node? place = some node ∧ node.kind = .wrapper wrapper ∧
        wrapper.handle ≠ handle ∧ view.Misfits handle definition cause ∧
        after = relayed.modifyNode place fun _ =>
          { node with kind := .wrapper { wrapper with handle, cached := some definition.serial } }) ∧
      after.setSubGraph view place handle = (after, .ok false) := by
  intro view place handle cause after
  have failed : (relayed.setSubGraph view place handle).2 = .error cause := by decide +kernel
  obtain ⟨left, again, _⟩ := refused_rebinding view relayed place handle cause failed
  exact ⟨failed, left, again view⟩

/-- The handle is another one after the call that failed, and the call is not refused any more. -/
theorem relayed_rebound_all_the_same :
    let view := lenders [Node.outlet 1] [tint, { tint with displayName := "Twin" }] []
    let place : NodeId := ⟨⟨6, 1⟩⟩
    let failed := relayed.setSubGraph view place (some ⟨⟨4, 0⟩⟩)
    let bound (graph : ShaderGraph) :=
      ((graph.node? place).bind Node.wrapper?).bind fun wrapper => wrapper.handle
    failed.2 = .error (.identityCollision tint.slotId "Tint" "Twin") ∧
      bound relayed = some ⟨⟨3, 0⟩⟩ ∧ bound failed.1 = some ⟨⟨4, 0⟩⟩ ∧
      (failed.1.setSubGraph view place (some ⟨⟨4, 0⟩⟩)).2 = .ok false := by
  intro view place failed bound
  exact ⟨by decide +kernel, by decide +kernel, by decide +kernel, by decide +kernel⟩

end ShaderGraph
end NodeShader

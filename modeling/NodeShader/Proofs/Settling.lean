import NodeShader.Proofs.Forgetting

/-! What wrappers learn as they are resolved. A wrapper that was resolved remembers what it stood for, and
it stands for the same as before. So it makes no difference which of them were resolved so far: if all
were, the same graphs would be left. -/
namespace NodeShader

namespace View
variable {view : View}

theorem wrapper?_settleNode (view : View) (node : Node) :
    (view.settleNode node).wrapper? = node.wrapper?.map view.settle := by
  unfold settleNode Node.wrapper?
  cases kind : node.kind <;> simp [kind]

theorem settleGraph_nil (view : View) (owner : Option Serial) (graph : ShaderGraph) :
    view.settleGraph [] owner graph = graph := by
  simp [settleGraph, Keyed.mapValues, ShaderGraph.withGraph]

theorem forget_settle (view : View) (wrapper : Wrapper) :
    (view.settle wrapper).forget = wrapper.forget := by
  unfold settle
  split <;> rfl

theorem forget_settleNode (view : View) (node : Node) :
    (view.settleNode node).forget = node.forget := by
  unfold settleNode
  split
  next wrapper kind => simp only [Node.forget, NodeKind.forget, kind, forget_settle]
  next => rfl

theorem forget_settleGraph (view : View) (sites : List Site) (owner : Option Serial)
    (graph : ShaderGraph) : (view.settleGraph sites owner graph).forget = graph.forget := by
  refine (ShaderGraph.mapNodes_mapNodes _ (fun _ => Node.forget) graph).trans ?_
  refine ShaderGraph.mapNodes_congr fun id node _ => ?_
  split
  next => exact view.forget_settleNode node
  next => rfl

def settleLive (view : View) (sites : List Site) (definition : Live) : Live :=
  { definition with graph := view.settleGraph sites (some definition.serial) definition.graph }

theorem settleLive_serial (view : View) (sites : List Site) (definition : Live) :
    (view.settleLive sites definition).serial = definition.serial := rfl

/-- What can be seen when the wrappers at some sites inside definitions were resolved. -/
def settled (view : View) (sites : List Site) : View := view.mapLive (view.settleLive sites)

theorem resolve_settle (wrapper : Wrapper) : view.resolve (view.settle wrapper) = view.resolve wrapper := by
  unfold settle
  split
  next definition resolved =>
    have found := definition?_of_resolve resolved
    rw [resolved]
    unfold resolve at resolved ⊢
    cases bound : wrapper.handle with
    | none => simp [bound] at resolved
    | some handle =>
      simp only [bound] at resolved
      simp only [Option.bind_some, found]
      by_cases same : definition.handle = handle
      · rw [if_pos same]
      · -- What is remembered stands under the handle, so this was found in the store.
        rw [if_neg same]
        split at resolved
        next remembered _ =>
          split at resolved
          next alike => exact absurd (Option.some.inj resolved ▸ alike) same
          next => exact resolved
        next => exact resolved
  next missing => rw [missing]

theorem settle_settle (wrapper : Wrapper) : view.settle (view.settle wrapper) = view.settle wrapper := by
  rw [settle, resolve_settle, settle]
  split <;> rfl

theorem settleNode_settleNode (node : Node) :
    view.settleNode (view.settleNode node) = view.settleNode node := by
  unfold settleNode
  cases kind : node.kind <;> simp [kind, settle_settle]

end View

/-- All wrappers are resolved. -/
def Retouch.settling (view : View) : Retouch where
  change := view.settleNode
  id node := by unfold View.settleNode; split <;> rfl
  name node := by unfold View.settleNode; split <;> rfl
  enabled node := by unfold View.settleNode; split <;> rfl
  slots node := by unfold View.settleNode; split <;> rfl
  kind node := congrArg Node.kind (view.forget_settleNode node)

namespace View
variable {view : View}

theorem overlooks_settling : view.Overlooks (.settling view) fun _ _ => True where
  flag node := by
    show (view.settleNode node).hasError = node.hasError
    unfold settleNode
    split <;> rfl
  flagging node hasError := by
    show view.settleNode _ = { view.settleNode node with hasError }
    unfold settleNode
    cases kind : node.kind <;> simp only [kind]
  tracks _ node _ := by
    have same : ((Retouch.settling view).change node).wrapper? = node.wrapper?.map view.settle :=
      view.wrapper?_settleNode node
    rw [Tracks, same]
    cases node.wrapper? with
    | none => rfl
    | some wrapper => exact (retouch_resolve _ _).trans (congrArg _ (resolve_settle wrapper))
  inside _ _ _ _ _ _ _ := trivial

theorem settle_settled (sites : List Site) : (view.settled sites).settle = view.settle := by
  funext wrapper
  have same : (view.settled sites).resolve wrapper = (view.resolve wrapper).map (view.settleLive sites) :=
    resolve_mapLive (view.settleLive_serial sites) (fun _ => rfl) wrapper
  rw [settle, settle, same]
  cases view.resolve wrapper <;> rfl

theorem settling_settled (sites : List Site) : Retouch.settling (view.settled sites) = .settling view := by
  have same : (view.settled sites).settleNode = view.settleNode := by
    funext node
    rw [settleNode, settleNode, settle_settled]
  simp only [Retouch.settling, same]

theorem retouch_settleGraph (sites : List Site) (owner : Option Serial) (graph : ShaderGraph) :
    (view.settleGraph sites owner graph).retouch (.settling view) = graph.retouch (.settling view) := by
  refine (ShaderGraph.mapNodes_mapNodes _ (fun _ => view.settleNode) graph).trans ?_
  refine ShaderGraph.mapNodes_congr fun id node _ => ?_
  split
  next => exact settleNode_settleNode node
  next => rfl

/-- When all wrappers are resolved it does not show which ones were resolved before. -/
theorem retouch_settled (sites : List Site) :
    (view.settled sites).retouch (.settling (view.settled sites)) = view.retouch (.settling view) := by
  rw [settling_settled]
  have lives : (view.live.map (view.settleLive sites)).map (Live.retouch (.settling view)) =
      view.live.map (Live.retouch (.settling view)) := by
    rw [List.map_map]
    refine List.map_congr_left fun definition _ => ?_
    exact congrArg (fun graph => { definition with graph }) (retouch_settleGraph _ _ _)
  exact congrArg (View.mk · view.stored) lives

end View

namespace Assets

theorem settle_nil (assets : Assets) (view : View) : assets.settle view [] = assets := by
  simp [settle, View.settleGraph_nil]

end Assets
end NodeShader

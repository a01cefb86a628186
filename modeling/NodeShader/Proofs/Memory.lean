import NodeShader.Proofs.Lookup
import NodeShader.Proofs.Reference

/-! What wrappers remember. As long as none of them remembers anything but what is stored under its
handle, resolving a wrapper and looking its handle up are the same, so that expansion follows
references. -/
namespace NodeShader

namespace View

theorem serial_of_lookup {view : View} {handle : Handle} {definition : Live}
    (stored : view.lookup handle = some definition) :
    view.definition? definition.serial = some definition := by
  obtain ⟨serial, _, found⟩ := Option.bind_eq_some_iff.1 stored
  have same : definition.serial = serial := by simpa using List.find?_some found
  rw [same]
  exact found

theorem definition?_of_resolve {view : View} {wrapper : Wrapper} {definition : Live}
    (resolved : view.resolve wrapper = some definition) :
    view.definition? definition.serial = some definition := by
  unfold resolve at resolved
  split at resolved
  next => contradiction
  next handle bound =>
    split at resolved
    next remembered known =>
      split at resolved
      next =>
        cases resolved
        obtain ⟨serial, _, found⟩ := Option.bind_eq_some_iff.1 known
        have same : definition.serial = serial := by simpa using List.find?_some found
        rw [same]
        exact found
      next => exact serial_of_lookup resolved
    next => exact serial_of_lookup resolved

/-- Other definitions in the place of the living ones. -/
def mapLive (change : Live → Live) (view : View) : View := { view with live := view.live.map change }

section MapLive
variable {change : Live → Live} {view : View}
  (serial : ∀ definition, (change definition).serial = definition.serial)
include serial

theorem definition?_mapLive (number : Serial) :
    (view.mapLive change).definition? number = (view.definition? number).map change := by
  have test : (fun definition : Live => decide (definition.serial = number)) ∘ change =
      fun definition => decide (definition.serial = number) := by
    funext definition
    simp [serial]
  rw [definition?, definition?, mapLive, List.find?_map, test]

theorem lookup_mapLive (handle : Handle) :
    (view.mapLive change).lookup handle = (view.lookup handle).map change := by
  rw [lookup, lookup, Option.map_bind]
  congr 1
  funext number
  exact definition?_mapLive serial number

/-- What a wrapper stands for is found by serials and handles alone. -/
theorem resolve_mapLive (handle : ∀ definition, (change definition).handle = definition.handle)
    (wrapper : Wrapper) :
    (view.mapLive change).resolve wrapper = (view.resolve wrapper).map change := by
  unfold resolve
  cases wrapper.handle with
  | none => rfl
  | some bound =>
    have remembered : wrapper.cached.bind (view.mapLive change).definition? =
        (wrapper.cached.bind view.definition?).map change := by
      cases wrapper.cached with
      | none => rfl
      | some number => exact definition?_mapLive serial number
    simp only [remembered, lookup_mapLive serial]
    cases wrapper.cached.bind view.definition? with
    | none => rfl
    | some definition =>
      by_cases same : definition.handle = bound <;> simp [handle, same]

end MapLive

theorem mem_serials_of_lookup {view : View} {handle : Handle} {definition : Live}
    (stored : view.lookup handle = some definition) : definition.serial ∈ view.serials :=
  List.mem_map.2 ⟨definition, mem_live_of_lookup stored, rfl⟩

/-- A wrapper that remembers nothing that lives, or what is stored under its handle. -/
def Recalls (view : View) (wrapper : Wrapper) : Prop :=
  ∀ handle remembered, wrapper.handle = some handle →
    wrapper.cached.bind view.definition? = some remembered → view.lookup handle = some remembered

theorem Recalls.resolve {view : View} {wrapper : Wrapper} (recalls : view.Recalls wrapper) :
    view.resolve wrapper = wrapper.handle.bind view.lookup := by
  unfold View.resolve
  split
  next unbound => simp [unbound]
  next handle bound =>
    rw [bound, Option.bind_some]
    split
    next remembered known =>
      rw [recalls handle remembered bound known, ite_self]
    next => rfl

/-- Neither in a graph nor in a stored definition does a wrapper remember anything outdated. -/
structure Current (view : View) (graph : ShaderGraph) : Prop where
  here : ∀ node ∈ graph.nodes.values, ∀ wrapper, node.kind = .wrapper wrapper →
    view.Recalls wrapper
  stored : ∀ handle definition, view.lookup handle = some definition →
    ∀ node ∈ definition.graph.nodes.values, ∀ wrapper, node.kind = .wrapper wrapper →
      view.Recalls wrapper

instance (view : View) (wrapper : Wrapper) : Decidable (view.Recalls wrapper) :=
  decidable_of_iff
    (∀ handle ∈ wrapper.handle, ∀ remembered ∈ wrapper.cached.bind view.definition?,
      view.lookup handle = some remembered)
    ⟨fun all handle remembered bound known => all handle bound remembered known,
      fun recalls handle bound remembered known => recalls handle remembered bound known⟩

instance (view : View) (node : Node) :
    Decidable (∀ wrapper, node.kind = .wrapper wrapper → view.Recalls wrapper) :=
  decidable_of_iff (∀ wrapper ∈ node.wrapper?, view.Recalls wrapper)
    (by simp [node.wrapper?_eq_some_iff])

instance (view : View) (graph : ShaderGraph) : Decidable (view.Current graph) :=
  decidable_of_iff
    ((∀ node ∈ graph.nodes.values, ∀ wrapper, node.kind = .wrapper wrapper →
      view.Recalls wrapper) ∧
      ∀ handle definition, view.lookup handle = some definition →
        ∀ node ∈ definition.graph.nodes.values, ∀ wrapper, node.kind = .wrapper wrapper →
          view.Recalls wrapper)
    ⟨fun all => ⟨all.1, all.2⟩, fun current => ⟨current.here, current.stored⟩⟩

theorem Current.of_lookup {view : View} {graph : ShaderGraph} (current : view.Current graph)
    {handle : Handle} {definition : Live} (stored : view.lookup handle = some definition) :
    view.Current definition.graph := ⟨current.stored handle definition stored, current.stored⟩

theorem Current.refers {view : View} {graph : ShaderGraph} (current : view.Current graph)
    {definition : Live} (refers : view.Refers graph definition) :
    view.Current definition.graph := by
  obtain ⟨handle, stored⟩ := refers.stored
  exact current.of_lookup stored

theorem Current.refers_of_resolve {view : View} {graph : ShaderGraph}
    (current : view.Current graph) {node : Node} (member : node ∈ graph.nodes.values)
    {wrapper : Wrapper} (kind : node.kind = .wrapper wrapper) {definition : Live}
    (resolved : view.resolve wrapper = some definition) : view.Refers graph definition := by
  rw [(current.here node member wrapper kind).resolve] at resolved
  obtain ⟨handle, bound, stored⟩ := Option.bind_eq_some_iff.1 resolved
  exact ⟨node, member, wrapper, handle, kind, bound, stored⟩

end View
end NodeShader

import NodeShader.Proofs.Lookup
import NodeShader.Assets

/-! Stores as they come about from the empty one. Serials are never given twice, so that what is
found under a handle is always a definition that was stored under this very handle. -/
namespace NodeShader

namespace Assets

/-- The stores that the operations on them lead to. -/
inductive Reached : Assets → Prop where
  | empty : Reached .empty
  | store {assets : Assets} (earlier : Reached assets) (definition : Definition) :
    Reached (assets.store definition)
  | remove {assets : Assets} (earlier : Reached assets) (handle : Handle) :
    Reached (assets.remove handle)
  | hold {assets : Assets} (earlier : Reached assets) (handle : Handle) :
    Reached (assets.hold handle)
  | unhold {assets : Assets} (earlier : Reached assets) (handle : Handle) :
    Reached (assets.unhold handle)
  | settle {assets : Assets} (earlier : Reached assets) (view : View) (sites : List Site) :
    Reached (assets.settle view sites)

/-- Serials in use have been given out, and a stored one belongs to a definition of its handle. -/
structure Orderly (assets : Assets) : Prop where
  given : ∀ definition ∈ assets.live, definition.serial < assets.next
  known : ∀ handle serial, assets.stored.get? handle = some serial → serial < assets.next
  owned : ∀ definition ∈ assets.live, ∀ handle,
    assets.stored.get? handle = some definition.serial → definition.handle = handle

namespace Orderly
variable {assets : Assets}

theorem empty : Orderly .empty := by
  refine ⟨?_, ?_, ?_⟩ <;> simp [Assets.empty, Keyed.get?, Keyed.empty]

theorem release (orderly : assets.Orderly) : assets.release.Orderly :=
  ⟨fun definition member => orderly.given definition (List.mem_filter.1 member).1,
    orderly.known,
    fun definition member => orderly.owned definition (List.mem_filter.1 member).1⟩

theorem store (orderly : assets.Orderly) (definition : Definition) :
    (assets.store definition).Orderly := by
  refine release ⟨?_, ?_, ?_⟩
  · intro other member
    rcases List.mem_append.1 member with old | new
    · exact Nat.lt_succ_of_lt (orderly.given other old)
    · rw [List.mem_singleton.1 new]
      exact Nat.lt_succ_self _
  · intro handle serial found
    rw [Keyed.get?_insert] at found
    split at found
    next => exact Option.some.inj found ▸ Nat.lt_succ_self _
    next => exact Nat.lt_succ_of_lt (orderly.known handle serial found)
  · intro other member handle found
    rw [Keyed.get?_insert] at found
    split at found
    next same =>
      rcases List.mem_append.1 member with old | new
      · have below := orderly.given other old
        rw [← Option.some.inj found] at below
        exact absurd below (Nat.lt_irrefl _)
      · rw [List.mem_singleton.1 new, same]
    next =>
      rcases List.mem_append.1 member with old | new
      · exact orderly.owned other old handle found
      · rw [List.mem_singleton.1 new] at found
        exact absurd (orderly.known handle _ found) (Nat.lt_irrefl _)

theorem remove (orderly : assets.Orderly) (handle : Handle) : (assets.remove handle).Orderly := by
  have kept (other : Handle) (serial : Serial)
      (found : (assets.stored.erase handle).get? other = some serial) :
      assets.stored.get? other = some serial := by
    rw [Keyed.get?_erase] at found
    split at found
    next => contradiction
    next => exact found
  exact release ⟨orderly.given, fun other serial found => orderly.known other serial (kept _ _ found),
    fun definition member other found => orderly.owned definition member other (kept _ _ found)⟩

theorem hold (orderly : assets.Orderly) (handle : Handle) : (assets.hold handle).Orderly := by
  unfold Assets.hold
  split
  next => exact release ⟨orderly.given, orderly.known, orderly.owned⟩
  next => exact orderly

theorem unhold (orderly : assets.Orderly) (handle : Handle) : (assets.unhold handle).Orderly :=
  release ⟨orderly.given, orderly.known, orderly.owned⟩

theorem settle (orderly : assets.Orderly) (view : View) (sites : List Site) :
    (assets.settle view sites).Orderly := by
  refine ⟨?_, orderly.known, ?_⟩
  · intro definition member
    obtain ⟨before, old, rfl⟩ := List.mem_map.1 member
    exact orderly.given before old
  · intro definition member
    obtain ⟨before, old, rfl⟩ := List.mem_map.1 member
    exact orderly.owned before old

theorem of_reached (reached : assets.Reached) : assets.Orderly := by
  induction reached with
  | empty => exact empty
  | store _ definition ih => exact ih.store definition
  | remove _ handle ih => exact ih.remove handle
  | hold _ handle ih => exact ih.hold handle
  | unhold _ handle ih => exact ih.unhold handle
  | settle _ view sites ih => exact ih.settle view sites

end Orderly

theorem Reached.handle_of_lookup {assets : Assets} (reached : assets.Reached) {handle : Handle}
    {definition : Live} (stored : assets.view.lookup handle = some definition) :
    definition.handle = handle := by
  obtain ⟨serial, known, found⟩ := Option.bind_eq_some_iff.1 stored
  have same : definition.serial = serial := by simpa using List.find?_some found
  exact (Orderly.of_reached reached).owned definition (List.mem_of_find?_eq_some found) handle
    (same ▸ known)

theorem Reached.storeAll {assets : Assets} (reached : assets.Reached)
    (definitions : List Definition) : (assets.storeAll definitions).Reached := by
  induction definitions generalizing assets with
  | nil => exact reached
  | cons definition rest ih => exact ih (reached.store definition)

end Assets
end NodeShader

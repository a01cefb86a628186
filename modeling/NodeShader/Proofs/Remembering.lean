import NodeShader.Proofs.Expansion
import Mathlib.Data.List.Nodup

/-! Wrappers while the store that they refer to changes. Definitions are stored, replaced and removed,
other owners keep some of them alive, and wrappers are bound anew, copied and resolved in between. What
a wrapper remembers never brings up a definition that died or that stands under another handle, and it
shows only as long as someone keeps a definition that the store has given up. -/
namespace NodeShader

namespace Keyed
variable {κ α : Type} [DecidableEq κ]

theorem mem_values_of_insert {table : Keyed κ α} {key : κ} {value other : α}
    (member : other ∈ (table.insert key value).values) : other = value ∨ other ∈ table.values := by
  obtain ⟨place, found⟩ := (mem_values_iff _ other).1 member
  rw [get?_insert] at found
  split at found
  next => exact .inl (Option.some.inj found).symm
  next => exact .inr (mem_values_of_get? found)

theorem mem_values_of_erase {table : Keyed κ α} {key : κ} {value : α}
    (member : value ∈ (table.erase key).values) : value ∈ table.values := by
  obtain ⟨place, found⟩ := (mem_values_iff _ value).1 member
  rw [get?_erase] at found
  split at found
  next => contradiction
  next => exact mem_values_of_get? found

end Keyed

/-- What a wrapper resolves to lives, and stands under its handle. -/
theorem View.Coherent.resolve_eq_some {view : View} (coherent : view.Coherent) {wrapper : Wrapper}
    {definition : Live} (resolved : view.resolve wrapper = some definition) :
    definition ∈ view.live ∧ wrapper.handle = some definition.handle := by
  unfold resolve at resolved
  split at resolved
  next => contradiction
  next handle bound =>
    have stored (found : view.lookup handle = some definition) :
        definition ∈ view.live ∧ wrapper.handle = some definition.handle :=
      ⟨mem_live_of_lookup found, by rw [bound, coherent handle definition found]⟩
    split at resolved
    next remembered known =>
      split at resolved
      next same =>
        cases resolved
        obtain ⟨serial, _, found⟩ := Option.bind_eq_some_iff.1 known
        exact ⟨List.mem_of_find?_eq_some found, by rw [bound, same]⟩
      next => exact stored resolved
    next => exact stored resolved

namespace Assets

/-- Another owner takes hold of a living definition and lets go of the one that it held before. -/
def keep (assets : Assets) (owner : Handle) (serial : Serial) : Assets :=
  if serial ∈ assets.view.serials then
    release { assets with held := assets.held.insert owner serial }
  else assets

/-- What an operation sees that is given the store, or one that is given an empty one. -/
def seen (assets : Assets) (blind : Bool) : View := if blind then assets.blindView else assets.view

theorem live_seen (assets : Assets) (blind : Bool) : (assets.seen blind).live = assets.live := by
  cases blind <;> rfl

/-- Serials tell living definitions apart, and alive is what is stored or held. -/
structure Accounted (assets : Assets) : Prop where
  orderly : assets.Orderly
  distinct : assets.view.serials.Nodup
  alive : ∀ serial, serial ∈ assets.view.serials ↔
    serial ∈ assets.stored.values ∨ serial ∈ assets.held.values

theorem serials_release (assets : Assets) :
    assets.release.view.serials = assets.view.serials.filter fun serial =>
      assets.stored.values.contains serial || assets.held.values.contains serial := by
  simp [View.serials, view, release, List.filter_map, Function.comp_def]

namespace Accounted
variable {assets : Assets}

theorem coherent (accounted : assets.Accounted) : assets.view.Coherent := by
  intro handle definition stored
  obtain ⟨serial, known, found⟩ := Option.bind_eq_some_iff.1 stored
  have same : definition.serial = serial := by simpa using List.find?_some found
  exact accounted.orderly.owned definition (List.mem_of_find?_eq_some found) handle (same ▸ known)

theorem coherent_seen (accounted : assets.Accounted) (blind : Bool) :
    (assets.seen blind).Coherent := by
  cases blind with
  | false => exact accounted.coherent
  | true =>
    intro handle definition stored
    simp [seen, View.lookup, blindView, Keyed.get?, Keyed.empty] at stored

theorem empty : Accounted .empty := by
  refine ⟨.empty, List.nodup_nil, ?_⟩
  simp [View.serials, view, Assets.empty, Keyed.values, Keyed.empty]

/-- Letting go of what nobody needs leaves what is stored or held, if all of this was alive. -/
theorem release (orderly : assets.release.Orderly) (distinct : assets.view.serials.Nodup)
    (stored : assets.stored.values ⊆ assets.view.serials)
    (held : assets.held.values ⊆ assets.view.serials) : assets.release.Accounted := by
  refine ⟨orderly, ?_, ?_⟩
  · rw [serials_release]
    exact distinct.sublist List.filter_sublist
  · intro serial
    rw [serials_release, List.mem_filter]
    simp only [Bool.or_eq_true, List.contains_iff_mem]
    exact ⟨And.right, fun needed => ⟨needed.elim (stored ·) (held ·), needed⟩⟩

theorem store (accounted : assets.Accounted) (definition : Definition) :
    (assets.store definition).Accounted := by
  let grown : Assets := { assets with
    live := assets.live ++ [⟨definition, assets.next⟩]
    stored := assets.stored.insert definition.handle assets.next
    next := assets.next + 1 }
  have serials : grown.view.serials = assets.view.serials ++ [assets.next] := by
    simp [View.serials, Assets.view, grown]
  have older (serial : Serial) (living : serial ∈ assets.view.serials) :
      serial ∈ grown.view.serials := by
    rw [serials]
    exact List.mem_append_left _ living
  show grown.release.Accounted
  refine release (accounted.orderly.store definition) ?_ ?_ ?_
  · rw [serials]
    refine List.nodup_append.2 ⟨accounted.distinct, by simp, ?_⟩
    intro serial member last new same
    obtain ⟨other, living, rfl⟩ := List.mem_map.1 member
    have below := accounted.orderly.given other living
    rw [same, List.mem_singleton.1 new] at below
    exact Nat.lt_irrefl _ below
  · intro serial member
    rcases Keyed.mem_values_of_insert member with rfl | old
    · simp [serials]
    · exact older serial ((accounted.alive serial).2 (.inl old))
  · exact fun serial member => older serial ((accounted.alive serial).2 (.inr member))

theorem remove (accounted : assets.Accounted) (handle : Handle) :
    (assets.remove handle).Accounted :=
  release (accounted.orderly.remove handle) accounted.distinct
    (fun _ member => (accounted.alive _).2 (.inl (Keyed.mem_values_of_erase member)))
    fun _ member => (accounted.alive _).2 (.inr member)

theorem keep (accounted : assets.Accounted) (owner : Handle) (serial : Serial) :
    (assets.keep owner serial).Accounted := by
  unfold Assets.keep
  split
  next living =>
    have orderly := accounted.orderly
    refine release (.release ⟨orderly.given, orderly.known, orderly.owned⟩) accounted.distinct
      (fun _ member => (accounted.alive _).2 (.inl member)) ?_
    intro other member
    rcases Keyed.mem_values_of_insert member with rfl | old
    · exact living
    · exact (accounted.alive other).2 (.inr old)
  next => exact accounted

theorem unhold (accounted : assets.Accounted) (owner : Handle) :
    (assets.unhold owner).Accounted :=
  release (accounted.orderly.unhold owner) accounted.distinct
    (fun _ member => (accounted.alive _).2 (.inl member))
    fun _ member => (accounted.alive _).2 (.inr (Keyed.mem_values_of_erase member))

/-- To hold what is stored under a handle is to keep it in the name of this handle. -/
theorem hold_eq (accounted : assets.Accounted) (handle : Handle) :
    assets.hold handle = assets ∨ ∃ serial, assets.hold handle = assets.keep handle serial := by
  unfold Assets.hold
  cases known : assets.stored.get? handle with
  | none => exact .inl rfl
  | some serial =>
    have living := (accounted.alive serial).2 (.inl (Keyed.mem_values_of_get? known))
    exact .inr ⟨serial, by simp [Assets.keep, living]⟩

theorem eq_of_serial (accounted : assets.Accounted) {definition other : Live}
    (living : definition ∈ assets.live) (otherLiving : other ∈ assets.live)
    (same : definition.serial = other.serial) : definition = other :=
  List.inj_on_of_nodup_map accounted.distinct living otherLiving same

theorem definition?_of_mem (accounted : assets.Accounted) {definition : Live}
    (living : definition ∈ assets.live) :
    assets.view.definition? definition.serial = some definition := by
  have present : (assets.view.definition? definition.serial).isSome :=
    List.find?_isSome.2 ⟨definition, living, by simp⟩
  obtain ⟨found, first⟩ := Option.isSome_iff_exists.1 present
  have same : found.serial = definition.serial := by simpa using List.find?_some first
  rw [first, accounted.eq_of_serial (List.mem_of_find?_eq_some first) living same]

end Accounted

/-- A store later on: what lives there has lived before under the same handle, or it has the serial
that was the next one. -/
structure Onward (assets later : Assets) : Prop where
  next : assets.next ≤ later.next
  living : ∀ definition ∈ later.live, (∃ other ∈ assets.live,
    other.serial = definition.serial ∧ other.handle = definition.handle) ∨
      definition.serial = assets.next

namespace Onward
variable {assets : Assets}

theorem refl (assets : Assets) : assets.Onward assets :=
  ⟨Nat.le_refl _, fun definition member => .inl ⟨definition, member, rfl, rfl⟩⟩

theorem release (assets : Assets) (stored held : Keyed Handle Serial) :
    assets.Onward (Assets.release { assets with stored, held }) :=
  ⟨Nat.le_refl _, fun definition member =>
    .inl ⟨definition, (List.mem_filter.1 member).1, rfl, rfl⟩⟩

theorem store (assets : Assets) (definition : Definition) :
    assets.Onward (assets.store definition) := by
  refine ⟨Nat.le_succ _, ?_⟩
  intro other member
  rcases List.mem_append.1 (List.mem_filter.1 member).1 with old | new
  · exact .inl ⟨other, old, rfl, rfl⟩
  · exact .inr (by rw [List.mem_singleton.1 new])

theorem keep (assets : Assets) (owner : Handle) (serial : Serial) :
    assets.Onward (assets.keep owner serial) := by
  unfold Assets.keep
  split
  next => exact release assets _ _
  next => exact refl assets

end Onward
end Assets

/-- The serial that a wrapper remembers was given out, and while its definition lives the wrapper is
bound to the handle of it. -/
structure Wrapper.Honest (assets : Assets) (wrapper : Wrapper) : Prop where
  given : ∀ serial, wrapper.cached = some serial → serial < assets.next
  bound : ∀ definition ∈ assets.live, wrapper.cached = some definition.serial →
    wrapper.handle = some definition.handle

namespace Wrapper.Honest
variable {assets : Assets} {wrapper : Wrapper}

theorem of_forgetful (forgetful : wrapper.cached = none) : wrapper.Honest assets :=
  ⟨by simp [forgetful], by simp [forgetful]⟩

theorem congr {other : Wrapper} (honest : wrapper.Honest assets) (handle : other.handle = wrapper.handle)
    (cached : other.cached = wrapper.cached) : other.Honest assets :=
  ⟨fun serial remembers => honest.given serial (cached ▸ remembers),
    fun definition living remembers => handle ▸ honest.bound definition living (cached ▸ remembers)⟩

theorem onward {later : Assets} (honest : wrapper.Honest assets) (onward : assets.Onward later) :
    wrapper.Honest later := by
  refine ⟨fun serial remembers => Nat.lt_of_lt_of_le (honest.given serial remembers) onward.next, ?_⟩
  intro definition member remembers
  rcases onward.living definition member with ⟨other, old, serial, handle⟩ | new
  · exact handle ▸ honest.bound other old (serial ▸ remembers)
  · exact absurd (new ▸ honest.given _ remembers) (Nat.lt_irrefl _)

theorem settle (honest : wrapper.Honest assets) (accounted : assets.Accounted) (blind : Bool) :
    ((assets.seen blind).settle wrapper).Honest assets := by
  unfold View.settle
  split
  next definition resolved =>
    obtain ⟨living, bound⟩ := (accounted.coherent_seen blind).resolve_eq_some resolved
    rw [assets.live_seen] at living
    refine ⟨?_, ?_⟩
    · intro serial remembers
      exact Option.some.inj remembers ▸ accounted.orderly.given definition living
    · intro other member remembers
      have same := accounted.eq_of_serial living member (Option.some.inj remembers)
      exact same ▸ bound
  next => exact honest

end Wrapper.Honest

/-- What a wrapper resolves to in a store: a definition that is stored or held, under the handle of the
wrapper; nothing only where the wrapper is unbound, or neither remembers what lives nor finds something
stored; and just what is stored, when nothing else is alive. -/
structure Wrapper.Answers (assets : Assets) (wrapper : Wrapper) : Prop where
  found : ∀ definition, assets.view.resolve wrapper = some definition →
    definition ∈ assets.live ∧ wrapper.handle = some definition.handle ∧
      (definition.serial ∈ assets.stored.values ∨ definition.serial ∈ assets.held.values)
  missing : assets.view.resolve wrapper = none ↔ wrapper.handle = none ∨
    wrapper.cached.bind assets.view.definition? = none ∧
      wrapper.handle.bind assets.view.lookup = none
  plain : (∀ definition ∈ assets.live, definition.serial ∈ assets.stored.values) →
    assets.view.resolve wrapper = wrapper.handle.bind assets.view.lookup

namespace Wrapper.Honest
variable {assets : Assets} {wrapper : Wrapper}

theorem handle_of_cached (honest : wrapper.Honest assets) {definition : Live}
    (remembers : wrapper.cached.bind assets.view.definition? = some definition) :
    definition ∈ assets.live ∧ wrapper.handle = some definition.handle := by
  obtain ⟨serial, cached, found⟩ := Option.bind_eq_some_iff.1 remembers
  have living := List.mem_of_find?_eq_some found
  have same : definition.serial = serial := by simpa using List.find?_some found
  exact ⟨living, honest.bound definition living (same ▸ cached)⟩

theorem resolve_eq (honest : wrapper.Honest assets) :
    assets.view.resolve wrapper = (wrapper.cached.bind assets.view.definition?).or
      (wrapper.handle.bind assets.view.lookup) := by
  unfold View.resolve
  split
  next unbound =>
    cases remembers : wrapper.cached.bind assets.view.definition? with
    | none => simp [unbound]
    | some definition => simp [(honest.handle_of_cached remembers).2] at unbound
  next handle bound =>
    split
    next definition remembers =>
      have same := (honest.handle_of_cached remembers).2
      rw [bound, Option.some.injEq] at same
      simp [remembers, same]
    next forgotten => simp [forgotten, bound]

/-- A wrapper that remembers nothing that the store has given up remembers what is stored under its
handle, or nothing that lives. -/
theorem recalls (honest : wrapper.Honest assets) (accounted : assets.Accounted)
    (stored : ∀ remembered, wrapper.cached.bind assets.view.definition? = some remembered →
      remembered.serial ∈ assets.stored.values) : assets.view.Recalls wrapper := by
  intro handle definition bound remembers
  obtain ⟨living, same⟩ := honest.handle_of_cached remembers
  obtain ⟨other, known⟩ := (Keyed.mem_values_iff _ _).1 (stored definition remembers)
  have own := accounted.orderly.owned definition living other known
  rw [bound, own, Option.some.injEq] at same
  exact Option.bind_eq_some_iff.2 ⟨_, same ▸ known, accounted.definition?_of_mem living⟩

theorem answers (honest : wrapper.Honest assets) (accounted : assets.Accounted) :
    wrapper.Answers assets := by
  refine ⟨?_, ?_, fun stored => (honest.recalls accounted fun remembered known =>
    stored remembered (honest.handle_of_cached known).1).resolve⟩
  · intro definition resolved
    obtain ⟨living, bound⟩ := accounted.coherent.resolve_eq_some resolved
    exact ⟨living, bound, (accounted.alive _).1 (List.mem_map.2 ⟨definition, living, rfl⟩)⟩
  · rw [honest.resolve_eq, Option.or_eq_none_iff]
    constructor
    · exact .inr
    · rintro (unbound | missing)
      · refine ⟨?_, by simp [unbound]⟩
        cases remembers : wrapper.cached.bind assets.view.definition? with
        | none => rfl
        | some definition => simp [(honest.handle_of_cached remembers).2] at unbound
      · exact missing

end Wrapper.Honest

/-- A store, and wrappers that refer to it. -/
structure Usage where
  assets : Assets
  wrappers : List Wrapper

namespace Usage

inductive Step where
  | store (definition : Definition)
  | remove (handle : Handle)
  | hold (handle : Handle)
  | keep (owner : Handle) (serial : Serial)
  | letGo (owner : Handle)
  | create (handle : Option Handle)
  | rebind (index : Nat) (handle : Option Handle)
  | invalidate (index : Nat)
  | clone (index : Nat)
  /-- Resolves a wrapper, against the store or where nothing is stored. -/
  | resolve (index : Nat) (blind : Bool)

def change (usage : Usage) (index : Nat) (how : Wrapper → Wrapper) : Usage :=
  { usage with wrappers := usage.wrappers.modify index how }

def apply (usage : Usage) : Step → Usage
  | .store definition => { usage with assets := usage.assets.store definition }
  | .remove handle => { usage with assets := usage.assets.remove handle }
  | .hold handle => { usage with assets := usage.assets.hold handle }
  | .keep owner serial => { usage with assets := usage.assets.keep owner serial }
  | .letGo owner => { usage with assets := usage.assets.unhold owner }
  | .create handle => { usage with wrappers := usage.wrappers ++ [.bound handle] }
  | .rebind index handle => usage.change index fun wrapper => { wrapper with handle, cached := none }
  | .invalidate index => usage.change index fun wrapper => { wrapper with cached := none }
  | .clone index => { usage with wrappers := usage.wrappers ++ usage.wrappers[index]?.toList }
  | .resolve index blind => usage.change index (usage.assets.seen blind).settle

def run (steps : List Step) : Usage := steps.foldl apply ⟨.empty, []⟩

structure Sound (usage : Usage) : Prop where
  accounted : usage.assets.Accounted
  honest : ∀ wrapper ∈ usage.wrappers, wrapper.Honest usage.assets

namespace Sound
variable {usage : Usage}

theorem withAssets (sound : usage.Sound) {assets : Assets} (accounted : assets.Accounted)
    (onward : usage.assets.Onward assets) : Sound { usage with assets } :=
  ⟨accounted, fun wrapper member => (sound.honest wrapper member).onward onward⟩

theorem append (sound : usage.Sound) {more : List Wrapper}
    (honest : ∀ wrapper ∈ more, wrapper.Honest usage.assets) :
    Sound { usage with wrappers := usage.wrappers ++ more } := by
  refine ⟨sound.accounted, ?_⟩
  intro wrapper member
  exact (List.mem_append.1 member).elim (sound.honest wrapper) (honest wrapper)

theorem change (sound : usage.Sound) (index : Nat) {how : Wrapper → Wrapper}
    (honest : ∀ wrapper ∈ usage.wrappers, (how wrapper).Honest usage.assets) :
    (usage.change index how).Sound := by
  refine ⟨sound.accounted, ?_⟩
  intro wrapper member
  obtain ⟨place, inside, rfl⟩ := List.mem_iff_getElem.1 member
  simp only [Usage.change, List.getElem_modify]
  split
  next => exact honest _ (List.getElem_mem _)
  next => exact sound.honest _ (List.getElem_mem _)

theorem keep (sound : usage.Sound) (owner : Handle) (serial : Serial) :
    Sound { usage with assets := usage.assets.keep owner serial } :=
  sound.withAssets (sound.accounted.keep owner serial) (.keep _ owner serial)

theorem apply (sound : usage.Sound) (step : Step) : (usage.apply step).Sound := by
  cases step with
  | store definition => exact sound.withAssets (sound.accounted.store definition) (.store _ definition)
  | remove handle => exact sound.withAssets (sound.accounted.remove handle) (.release _ _ _)
  | hold handle =>
    rw [Usage.apply]
    obtain same | ⟨serial, same⟩ := sound.accounted.hold_eq handle
    · rw [same]
      exact sound
    · rw [same]
      exact sound.keep handle serial
  | keep owner serial => exact sound.keep owner serial
  | letGo owner => exact sound.withAssets (sound.accounted.unhold owner) (.release _ _ _)
  | create handle => exact sound.append (by simpa using .of_forgetful rfl)
  | rebind index handle => exact sound.change index fun _ _ => .of_forgetful rfl
  | invalidate index => exact sound.change index fun _ _ => .of_forgetful rfl
  | clone index =>
    refine sound.append fun wrapper member => sound.honest wrapper ?_
    exact List.mem_of_getElem? (Option.mem_toList.1 member)
  | resolve index blind =>
    exact sound.change index fun wrapper member =>
      (sound.honest wrapper member).settle sound.accounted blind

theorem run (steps : List Step) : (Usage.run steps).Sound := by
  have onward (start : Usage) (sound : start.Sound) : (steps.foldl Usage.apply start).Sound := by
    induction steps generalizing start with
    | nil => exact sound
    | cons step rest ih => exact ih _ (sound.apply step)
  exact onward _ ⟨.empty, by simp⟩

end Sound

/-- However a store was used, each wrapper resolves to a living definition of its handle, if there is
one that it remembers or finds; and if all that lives is stored then to just what is stored. -/
theorem run_answers (steps : List Step) :
    ∀ wrapper ∈ (run steps).wrappers, wrapper.Answers (run steps).assets := by
  have sound := Sound.run steps
  exact fun wrapper member => (sound.honest wrapper member).answers sound.accounted

/-- A definition is replaced while another owner keeps it; of two wrappers one has been made to
forget. -/
def exchange : List Step :=
  [.store ⟨⟨1, 1⟩, "Old", .root ⟨1, 0⟩ "Old"⟩, .create (some ⟨1, 1⟩), .resolve 0 false,
    .keep ⟨9, 9⟩ 0, .store ⟨⟨1, 1⟩, "New", .root ⟨1, 0⟩ "New"⟩, .clone 0, .invalidate 1,
    .resolve 0 true, .resolve 1 false]

theorem exchange_answers :
    let assets := (run exchange).assets
    let remembering : Wrapper := ⟨some ⟨1, 1⟩, some 0, []⟩
    let renewed : Wrapper := ⟨some ⟨1, 1⟩, some 1, []⟩
    (run exchange).wrappers = [remembering, renewed] ∧
      (assets.view.resolve remembering).map (·.name) = some "Old" ∧
      (assets.view.resolve renewed).map (·.name) = some "New" ∧
      remembering.Answers assets ∧ renewed.Answers assets := by
  intro assets remembering renewed
  have all : (run exchange).wrappers = [remembering, renewed] := by decide +kernel
  refine ⟨all, by decide +kernel, by decide +kernel, ?_, ?_⟩
  · exact run_answers exchange remembering (by simp [all])
  · exact run_answers exchange renewed (by simp [all])

end Usage
end NodeShader

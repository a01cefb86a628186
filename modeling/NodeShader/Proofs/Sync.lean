import NodeShader.Proofs.Lookup
import NodeShader.Proofs.Outcome
import NodeShader.Wrapper
import Mathlib.Data.List.Forall2

/-! What deriving the slots of a wrapper leaves behind. Where no change is reported every slot keeps
its direction; where the slots were derived they are those of the definition, so that each output
stands for an outlet. -/
namespace NodeShader

/-- Every slot is still there with the direction it had. -/
def SlotTable.Keeps (before after : SlotTable) : Prop :=
  ∀ id slot, before.get? id = some slot →
    ∃ other, after.get? id = some other ∧ other.direction = slot.direction

theorem SlotTable.Keeps.refl (table : SlotTable) : table.Keeps table :=
  fun _ slot found => ⟨slot, found, rfl⟩

private theorem mem_of_same {xs ys : List (SlotId × Slot)} (ids : xs.map (·.1) = ys.map (·.1))
    (same : ((xs.map (·.2)).zip (ys.map (·.2))).all fun pair => pair.1.same pair.2)
    {id : SlotId} {slot : Slot} (member : (id, slot) ∈ ys) :
    ∃ other, (id, other) ∈ xs ∧ other.same slot = true := by
  induction ys generalizing xs with
  | nil => simp at member
  | cons y ys ih =>
    cases xs with
    | nil => simp at ids
    | cons x xs =>
      simp only [List.map_cons, List.cons.injEq] at ids
      simp only [List.map_cons, List.zip_cons_cons, List.all_cons, Bool.and_eq_true] at same
      rcases List.mem_cons.1 member with here | later
      · refine ⟨x.2, List.mem_cons.2 (.inl ?_), by rw [show slot = y.2 by rw [← here]]; exact same.1⟩
        rw [Prod.ext_iff]
        exact ⟨by rw [ids.1, ← here], rfl⟩
      · obtain ⟨other, found, alike⟩ := ih ids.2 same.2 later
        exact ⟨other, List.mem_cons_of_mem _ found, alike⟩

namespace SlotTable

/-- Tables that are the same have the same slot under each id. -/
theorem exists_same {after before : SlotTable} (same : after.same before = true) {id : SlotId}
    {slot : Slot} (found : before.get? id = some slot) :
    ∃ other, after.get? id = some other ∧ other.same slot = true := by
  simp only [SlotTable.same, Bool.and_eq_true, decide_eq_true_eq] at same
  obtain ⟨other, member, alike⟩ :=
    mem_of_same same.1 same.2 ((before.get?_eq_some_iff id slot).1 found)
  exact ⟨other, (after.get?_eq_some_iff id other).2 member, alike⟩

theorem keeps_of_same {after before : SlotTable} (same : after.same before = true) :
    before.Keeps after := by
  intro id slot found
  obtain ⟨other, left, alike⟩ := exists_same same found
  simp only [Slot.same, Bool.and_eq_true, decide_eq_true_eq] at alike
  exact ⟨other, left, alike.1.1.2⟩

end SlotTable

theorem claim_eq_ok {claimed all : List Slot} {slot : Slot} (ok : claim claimed slot = .ok all) :
    all = claimed ++ [slot] ∧ ∀ other ∈ claimed, other.id ≠ slot.id := by
  unfold claim at ok
  split at ok
  next => contradiction
  next unclaimed =>
    cases ok
    exact ⟨rfl, by simpa using unclaimed⟩

theorem claims_eq_ok {slots claimed all : List Slot} (ok : slots.foldlM claim claimed = .ok all)
    (distinct : (claimed.map (·.id)).Nodup) :
    all = claimed ++ slots ∧ (all.map (·.id)).Nodup := by
  induction slots generalizing claimed with
  | nil =>
    cases ok
    exact ⟨(List.append_nil _).symm, distinct⟩
  | cons slot rest ih =>
    rw [List.foldlM_cons] at ok
    obtain ⟨next, step, later⟩ := Outcome.bind_eq_ok ok
    obtain ⟨rfl, fresh⟩ := claim_eq_ok step
    have apart : ((claimed ++ [slot]).map (·.id)).Nodup := by
      rw [List.map_append]
      refine List.nodup_append.2 ⟨distinct, by simp, ?_⟩
      intro id member last here same
      obtain ⟨other, inside, rfl⟩ := List.mem_map.1 member
      have here : last = slot.id := by simpa using here
      exact fresh other inside (same.trans here)
    obtain ⟨equal, distinct⟩ := ih later apart
    exact ⟨by simpa using equal, distinct⟩

theorem claimProperty_eq_ok {claimed all : List Slot} {property : Property}
    (ok : claimProperty claimed property = .ok all) :
    ∃ slot, property.inputSlot = .ok slot ∧ claim claimed slot = .ok all := by
  unfold claimProperty at ok
  split at ok
  next slot carried => exact ⟨slot, carried, ok⟩
  next => contradiction

theorem claimProperties_eq_ok {properties : List Property} {claimed all : List Slot}
    (ok : properties.foldlM claimProperty claimed = .ok all) :
    ∃ slots, List.Forall₂ (fun property slot => property.inputSlot = .ok slot) properties slots ∧
      slots.foldlM claim claimed = .ok all := by
  induction properties generalizing claimed with
  | nil => exact ⟨[], .nil, ok⟩
  | cons property rest ih =>
    rw [List.foldlM_cons] at ok
    obtain ⟨next, step, later⟩ := Outcome.bind_eq_ok ok
    obtain ⟨slot, carried, step⟩ := claimProperty_eq_ok step
    obtain ⟨slots, related, claims⟩ := ih later
    refine ⟨slot :: slots, .cons carried related, ?_⟩
    rw [List.foldlM_cons, step]
    exact claims

theorem exists_related {α β : Type} {relates : α → β → Prop} {xs : List α} {ys : List β}
    (related : List.Forall₂ relates xs ys) {y : β} (member : y ∈ ys) : ∃ x ∈ xs, relates x y := by
  induction related with
  | nil => simp at member
  | @cons x first _ _ here _ ih =>
    rcases List.mem_cons.1 member with rfl | later
    · exact ⟨x, by simp, here⟩
    · obtain ⟨other, inside, there⟩ := ih later
      exact ⟨other, by simp [inside], there⟩

/-- The slots that a graph lends to its wrappers: one for each property, then one for each outlet,
under ids that differ. -/
theorem interface_eq_ok {graph : ShaderGraph} {inputs all : List Slot}
    (ok : graph.interface = .ok (inputs, all)) :
    List.Forall₂ (fun property slot => property.inputSlot = .ok slot) graph.properties inputs ∧
      all = inputs ++ graph.outputs.map outletSlot ∧ (all.map (·.id)).Nodup := by
  unfold ShaderGraph.interface at ok
  obtain ⟨claimed, first, rest⟩ := Outcome.bind_eq_ok ok
  obtain ⟨result, second, last⟩ := Outcome.bind_eq_ok rest
  cases last
  rw [← List.foldlM_map] at second
  obtain ⟨slots, related, claims⟩ := claimProperties_eq_ok first
  obtain ⟨equal, distinct⟩ := claims_eq_ok claims List.nodup_nil
  rw [List.nil_append] at equal
  subst equal
  exact ⟨related, claims_eq_ok second distinct⟩

theorem Property.inputSlot_eq_ok {property : Property} {slot : Slot}
    (ok : property.inputSlot = .ok slot) :
    slot.id = property.slotId ∧ slot.direction = .input ∧ property.slotType = .ok slot.type := by
  unfold inputSlot at ok
  obtain ⟨type, typed, rest⟩ := Outcome.bind_eq_ok ok
  obtain ⟨value, _, last⟩ := Outcome.bind_eq_ok rest
  cases last
  exact ⟨rfl, rfl, typed⟩

namespace SlotTable

theorem get?_addAll_of_absent {slots : List Slot} {id : SlotId} (absent : id ∉ slots.map (·.id))
    (table : SlotTable) : (table.addAll slots).get? id = table.get? id := by
  induction slots generalizing table with
  | nil => rfl
  | cons slot rest ih =>
    simp only [List.map_cons, List.mem_cons, not_or] at absent
    exact (ih absent.2 (table.add slot)).trans (by rw [get?_add, if_neg absent.1])

theorem inherited_congr {table other : SlotTable} {slot : Slot}
    (same : table.get? slot.id = other.get? slot.id) : table.inherited slot = other.inherited slot := by
  rw [inherited, inherited, same]

theorem get?_addAll_of_mem {slots : List Slot} (distinct : (slots.map (·.id)).Nodup) {slot : Slot}
    (member : slot ∈ slots) (table : SlotTable) :
    (table.addAll slots).get? slot.id = some { slot with default := table.inherited slot } := by
  induction slots generalizing table with
  | nil => simp at member
  | cons head rest ih =>
    obtain ⟨fresh, distinct⟩ := List.nodup_cons.1 distinct
    rcases List.mem_cons.1 member with rfl | later
    · refine (get?_addAll_of_absent fresh (table.add slot)).trans ?_
      rw [get?_add, if_pos rfl]
    · have apart : slot.id ≠ head.id := fun same => fresh (List.mem_map.2 ⟨slot, later, same⟩)
      have untouched : (table.add head).get? slot.id = table.get? slot.id := by
        rw [get?_add, if_neg apart]
      rw [← inherited_congr untouched]
      exact ih distinct later (table.add head)

end SlotTable

@[simp] theorem View.resolve_forgetful (view : View) (wrapper : Wrapper) :
    view.resolve { wrapper with cached := none } = wrapper.handle.bind view.lookup := by
  cases bound : wrapper.handle <;> simp [View.resolve]

namespace Wrapper

theorem sync_handle (view : View) (wrapper : Wrapper) (slots : SlotTable) :
    (wrapper.sync view slots).wrapper.handle = wrapper.handle := by
  unfold sync
  dsimp only
  split
  next => rfl
  next => split <;> rfl

variable {view : View} {wrapper : Wrapper} {definition : Live}

theorem sync_of_missing (missing : wrapper.handle.bind view.lookup = none) (slots : SlotTable) :
    wrapper.sync view slots =
      ⟨{ wrapper with cached := none, inputOrder := [] }, slots.keepOnly [],
        .ok (!(slots.keepOnly []).same slots)⟩ := by
  simp only [sync, View.resolve_forgetful, missing]

theorem sync_of_interface (stored : wrapper.handle.bind view.lookup = some definition)
    {inputs all : List Slot} (derived : definition.graph.interface = .ok (inputs, all))
    (slots : SlotTable) :
    wrapper.sync view slots =
      ⟨{ wrapper with cached := some definition.serial, inputOrder := inputs.map (·.id) },
        (slots.addAll all).keepOnly (all.map (·.id)),
        .ok (!((slots.addAll all).keepOnly (all.map (·.id))).same slots)⟩ := by
  simp only [sync, View.resolve_forgetful, stored, derived]

theorem sync_of_clash (stored : wrapper.handle.bind view.lookup = some definition)
    {cause : SlotError} (clash : definition.graph.interface = .error cause) (slots : SlotTable) :
    wrapper.sync view slots =
      ⟨{ wrapper with cached := some definition.serial }, slots, .error cause⟩ := by
  simp only [sync, View.resolve_forgetful, stored, clash]

theorem sync_cases (view : View) (wrapper : Wrapper) (slots : SlotTable) :
    (wrapper.handle.bind view.lookup = none ∧ (wrapper.sync view slots).slots = slots.keepOnly [] ∧
      (wrapper.sync view slots).outcome = .ok (!(slots.keepOnly []).same slots)) ∨
    (∃ definition inputs all, wrapper.handle.bind view.lookup = some definition ∧
      definition.graph.interface = .ok (inputs, all) ∧
      (wrapper.sync view slots).slots = (slots.addAll all).keepOnly (all.map (·.id)) ∧
      (wrapper.sync view slots).outcome =
        .ok (!((slots.addAll all).keepOnly (all.map (·.id))).same slots)) ∨
    ∃ definition cause, wrapper.handle.bind view.lookup = some definition ∧
      definition.graph.interface = .error cause ∧ (wrapper.sync view slots).slots = slots ∧
      (wrapper.sync view slots).outcome = .error cause := by
  cases found : wrapper.handle.bind view.lookup with
  | none => exact .inl ⟨rfl, by simp [sync_of_missing found]⟩
  | some definition =>
    cases derived : definition.graph.interface with
    | error cause =>
      exact .inr (.inr ⟨definition, cause, rfl, derived, by simp [sync_of_clash found derived]⟩)
    | ok pair =>
      exact .inr (.inl ⟨definition, pair.1, pair.2, rfl, derived,
        by simp [sync_of_interface found derived]⟩)

theorem sync_keeps (view : View) (wrapper : Wrapper) (slots : SlotTable)
    (quiet : (wrapper.sync view slots).outcome ≠ .ok true) :
    slots.Keeps (wrapper.sync view slots).slots := by
  rcases wrapper.sync_cases view slots with
    ⟨_, left, outcome⟩ | ⟨_, _, _, _, _, left, outcome⟩ | ⟨_, _, _, _, left, _⟩
  · rw [left]
    exact SlotTable.keeps_of_same (by simpa [outcome] using quiet)
  · rw [left]
    exact SlotTable.keeps_of_same (by simpa [outcome] using quiet)
  · rw [left]
    exact .refl slots

/-- The slots that were derived are those that the definition lends, filed under their own ids, but
for their defaults; where there is no definition there are none. -/
theorem sync_derived {view : View} {wrapper : Wrapper} {slots : SlotTable} {changed : Bool}
    (ok : (wrapper.sync view slots).outcome = .ok changed) :
    (wrapper.handle.bind view.lookup = none ∧
      ∀ id, (wrapper.sync view slots).slots.get? id = none) ∨
    ∃ definition inputs all, wrapper.handle.bind view.lookup = some definition ∧
      definition.graph.interface = .ok (inputs, all) ∧
      (∀ source ∈ all, ∃ default,
        (wrapper.sync view slots).slots.get? source.id = some { source with default }) ∧
      ∀ id slot, (wrapper.sync view slots).slots.get? id = some slot →
        ∃ source ∈ all, source.id = id ∧ ∃ default, slot = { source with default } := by
  rcases wrapper.sync_cases view slots with
    ⟨unknown, left, _⟩ | ⟨definition, inputs, all, known, derived, left, _⟩ | ⟨_, _, _, _, _, failed⟩
  · exact .inl ⟨unknown, fun id => by simp [left, SlotTable.get?_keepOnly]⟩
  · obtain ⟨_, _, distinct⟩ := interface_eq_ok derived
    rw [left]
    refine .inr ⟨definition, inputs, all, known, derived, ?_, ?_⟩
    · intro source member
      refine ⟨slots.inherited source, ?_⟩
      rw [SlotTable.get?_keepOnly, if_pos (List.mem_map.2 ⟨source, member, rfl⟩),
        SlotTable.get?_addAll_of_mem distinct member]
    · intro id slot found
      rw [SlotTable.get?_keepOnly] at found
      split at found
      next claimed =>
        obtain ⟨source, member, rfl⟩ := List.mem_map.1 claimed
        have added := SlotTable.get?_addAll_of_mem distinct member slots
        exact ⟨source, member, rfl, _, Option.some.inj (found.symm.trans added)⟩
      next => contradiction
  · simp [ok] at failed

/-- A slot that was derived is filed under its own id. It stands for an outlet if it is an output,
and for a property of its type if it is an input. -/
theorem sync_slot {view : View} {wrapper : Wrapper} {slots : SlotTable} {changed : Bool}
    (ok : (wrapper.sync view slots).outcome = .ok changed) {id : SlotId} {slot : Slot}
    (found : (wrapper.sync view slots).slots.get? id = some slot) :
    slot.id = id ∧ ∃ definition, wrapper.handle.bind view.lookup = some definition ∧
      (slot.direction = .output → ∃ outlet ∈ definition.graph.outputs, outlet.id = id) ∧
      (slot.direction = .input → ∃ property ∈ definition.graph.properties,
        property.slotId = id ∧ property.slotType = .ok slot.type) := by
  rcases sync_derived ok with ⟨_, empty⟩ | ⟨definition, inputs, all, known, derived, _, lent⟩
  · simp [empty] at found
  · obtain ⟨related, split, _⟩ := interface_eq_ok derived
    obtain ⟨source, member, rfl, default, rfl⟩ := lent id slot found
    refine ⟨rfl, definition, known, ?_⟩
    rw [split] at member
    rcases List.mem_append.1 member with input | output
    · obtain ⟨property, inside, carried⟩ := exists_related related input
      obtain ⟨own, takes, typed⟩ := Property.inputSlot_eq_ok carried
      exact ⟨by simp [takes], fun _ => ⟨property, inside, own.symm, typed⟩⟩
    · obtain ⟨outlet, inside, rfl⟩ := List.mem_map.1 output
      exact ⟨fun _ => ⟨outlet, inside, rfl⟩, by simp [outletSlot, Slot.make]⟩

/-- Each property of the definition got an input of its type. -/
theorem sync_property {view : View} {wrapper : Wrapper} {slots : SlotTable} {changed : Bool}
    (ok : (wrapper.sync view slots).outcome = .ok changed) {definition : Live}
    (stored : wrapper.handle.bind view.lookup = some definition) {property : Property}
    (member : property ∈ definition.graph.properties) :
    ∃ slot, (wrapper.sync view slots).slots.get? property.slotId = some slot ∧
      slot.direction = .input ∧ property.slotType = .ok slot.type := by
  rcases sync_derived ok with ⟨unknown, _⟩ | ⟨_, inputs, all, known, derived, lends, _⟩
  · simp [unknown] at stored
  · cases stored.symm.trans known
    obtain ⟨related, split, _⟩ := interface_eq_ok derived
    obtain ⟨source, inside, carried⟩ := exists_related related.flip member
    obtain ⟨own, takes, typed⟩ := Property.inputSlot_eq_ok carried
    obtain ⟨default, found⟩ := lends source (split ▸ List.mem_append_left _ inside)
    exact ⟨{ source with default }, by rw [← own, found], takes, typed⟩

end Wrapper
end NodeShader

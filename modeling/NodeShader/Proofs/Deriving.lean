import NodeShader.Proofs.Sync
import Mathlib.Data.List.Sort

/-! All that deriving the slots of a wrapper does. What a graph has to lend is one list: a slot for each
property, if there can be one, then a slot for each outlet. A wrapper gets them all, in place of what it
had, or it keeps what it had, and is told of the first item that does not go with those before it. -/
namespace NodeShader

namespace SlotTable

/-- A table holds nothing but what it answers. -/
theorem ext_get? {table other : SlotTable} (same : ∀ id, table.get? id = other.get? id) :
    table = other := by
  have irreflexive : Std.Irrefl fun x y : SlotId × Slot => x.1.value < y.1.value :=
    ⟨fun _ => Nat.lt_irrefl _⟩
  have antisymmetric : Std.Antisymm fun x y : SlotId × Slot => x.1.value < y.1.value :=
    ⟨fun _ _ less more => absurd (Nat.lt_trans less more) (Nat.lt_irrefl _)⟩
  have entries : table.entries = other.entries := by
    refine table.ascending.eq_of_mem_iff other.ascending fun (id, slot) => ?_
    rw [← get?_eq_some_iff, ← get?_eq_some_iff, same]
  cases table
  cases other
  cases entries
  rfl

@[simp] theorem get?_keepOnly_nil (table : SlotTable) (id : SlotId) :
    (table.keepOnly []).get? id = none := by
  rw [get?_keepOnly, if_neg List.not_mem_nil]

/-- What is added to a table that keeps nothing else. -/
theorem get?_replace {all : List Slot} (distinct : (all.map (·.id)).Nodup) (table : SlotTable)
    (id : SlotId) (slot : Slot) :
    ((table.addAll all).keepOnly (all.map (·.id))).get? id = some slot ↔
      ∃ source ∈ all, source.id = id ∧ slot = { source with default := table.inherited source } := by
  rw [get?_keepOnly]
  constructor
  · intro found
    split at found
    next wanted =>
      obtain ⟨source, member, rfl⟩ := List.mem_map.1 wanted
      rw [get?_addAll_of_mem distinct member] at found
      exact ⟨source, member, rfl, (Option.some.inj found).symm⟩
    next => contradiction
  · rintro ⟨source, member, rfl, rfl⟩
    rw [if_pos (List.mem_map.2 ⟨source, member, rfl⟩), get?_addAll_of_mem distinct member]

theorem inherited_of_get? {table other : SlotTable} {source : Slot}
    (found : table.get? source.id = some { source with default := other.inherited source }) :
    table.inherited source = other.inherited source := by
  simp [inherited, found]

/-- To add the same once more changes nothing. -/
theorem replace_replace {all : List Slot} (distinct : (all.map (·.id)).Nodup) (table : SlotTable) :
    let left := (table.addAll all).keepOnly (all.map (·.id))
    (left.addAll all).keepOnly (all.map (·.id)) = left := by
  intro left
  refine ext_get? fun id => Option.ext fun slot => ?_
  rw [get?_replace distinct left, get?_replace distinct table]
  refine exists_congr fun source => and_congr_right fun member => and_congr_right fun _ => ?_
  have held : left.get? source.id = some { source with default := table.inherited source } :=
    (get?_replace distinct table source.id _).2 ⟨source, member, rfl, rfl⟩
  rw [inherited_of_get? held]

end SlotTable

/-- The type and the default of the slot that a value of a property becomes. -/
inductive PropertyValue.CarriedAs : PropertyValue → ValueType → Value → Prop
  | color (v : Vector Single 4) : CarriedAs (.color v) .vector4 (.vector4 v)
  | texture (resource : Option String) : CarriedAs (.texture resource) .texture2D (.texture2D resource)
  | cubemap (resource : Option String) : CarriedAs (.cubemap resource) .cubemap (.cubemap resource)
  | float (x : Single) : CarriedAs (.float x) .vector1 (.vector1 x)
  | vector2 (v : Vector Single 2) : CarriedAs (.vector2 v) .vector2 (.vector2 v)
  | vector3 (v : Vector Single 3) : CarriedAs (.vector3 v) .vector3 (.vector3 v)
  | vector4 (v : Vector Single 4) : CarriedAs (.vector4 v) .vector4 (.vector4 v)
  | matrix2 (m : Vector Single 4) : CarriedAs (.matrix2 m) .matrix2 (.matrix2 m)
  | matrix3 (m : Vector Single 9) : CarriedAs (.matrix3 m) .matrix3 (.matrix3 m)
  | matrix4 (m : Vector Single 16) : CarriedAs (.matrix4 m) .matrix4 (.matrix4 m)

namespace PropertyValue
variable {value : PropertyValue} {type : ValueType} {default : Value}

theorem CarriedAs.slotValue (carried : value.CarriedAs type default) : value.slotValue = .ok default := by
  cases carried <;> rfl

theorem exists_carriedAs (typed : value.kind.slotType = .ok type) :
    ∃ default, value.CarriedAs type default := by
  cases value <;> cases typed <;> exact ⟨_, by constructor⟩

end PropertyValue

/-- What is lent for a property: an input with its identity, its names and its value, but for a Boolean
the reason why there is none. -/
inductive Property.LentAs (property : Property) : Except PropertyError Slot → Prop
  | input {type : ValueType} {default : Value} (carried : property.value.CarriedAs type default) :
    LentAs property (.ok ⟨.ofGuid property.guid, property.displayName, property.referenceName, .input,
      type, default⟩)
  | boolean {b : Bool} (value : property.value = .boolean b) :
    LentAs property (.error (.unsupportedKind .boolean))

/-- What is lent for an outlet: an output that is like it but for its default, in which there are only
zeros. -/
inductive Slot.LentAs (outlet : Slot) : Except PropertyError Slot → Prop
  | output {default : Value} (type : default.type = outlet.type)
    (zeros : ∀ x ∈ default.numbers, x = ⟨0⟩) (unbound : default.resource = none) :
    LentAs outlet (.ok ⟨outlet.id, outlet.displayName, outlet.referenceName, .output, outlet.type,
      default⟩)

/-- First what is lent for the properties, then what is lent for the outlets. -/
def LentAll (properties : List Property) (outlets : List Slot) (items : List (Except PropertyError Slot)) :
    Prop :=
  ∃ inputs outputs, items = inputs ++ outputs ∧
    List.Forall₂ Property.LentAs properties inputs ∧ List.Forall₂ Slot.LentAs outlets outputs

theorem Property.lentAs_inputSlot (property : Property) : property.LentAs property.inputSlot := by
  obtain ⟨guid, displayName, referenceName, value⟩ := property
  cases value with
  | boolean b => exact .boolean rfl
  | color v => exact .input (.color v)
  | texture resource => exact .input (.texture resource)
  | cubemap resource => exact .input (.cubemap resource)
  | float x => exact .input (.float x)
  | vector2 v => exact .input (.vector2 v)
  | vector3 v => exact .input (.vector3 v)
  | vector4 v => exact .input (.vector4 v)
  | matrix2 m => exact .input (.matrix2 m)
  | matrix3 m => exact .input (.matrix3 m)
  | matrix4 m => exact .input (.matrix4 m)

theorem ValueType.only_zeros (type : ValueType) : type.zero.type = type ∧
    (∀ x ∈ type.zero.numbers, x = ⟨0⟩) ∧ type.zero.resource = none := by
  cases type <;> exact ⟨rfl, by decide, rfl⟩

theorem Slot.lentAs_outletSlot (outlet : Slot) : outlet.LentAs (.ok (outletSlot outlet)) := by
  obtain ⟨type, zeros, unbound⟩ := outlet.type.only_zeros
  exact .output type zeros unbound

/-- What there is to lend, and why not where a property has no slot. -/
def lendings (properties : List Property) (outlets : List Slot) : List (Except PropertyError Slot) :=
  properties.map Property.inputSlot ++ outlets.map fun outlet => .ok (outletSlot outlet)

theorem lentAll_lendings (properties : List Property) (outlets : List Slot) :
    LentAll properties outlets (lendings properties outlets) := by
  refine ⟨_, _, rfl, ?_, ?_⟩
  · rw [List.forall₂_map_right_iff, List.forall₂_same]
    exact fun property _ => property.lentAs_inputSlot
  · rw [List.forall₂_map_right_iff, List.forall₂_same]
    exact fun outlet _ => outlet.lentAs_outletSlot

/-- All of them are slots, with ids that differ. -/
def Lendable (items : List (Except PropertyError Slot)) (all : List Slot) : Prop :=
  items = all.map .ok ∧ (all.map (·.id)).Nodup

instance (items : List (Except PropertyError Slot)) (all : List Slot) :
    Decidable (Lendable items all) := inferInstanceAs (Decidable (_ ∧ _))

/-- What can be wrong with an item that comes after some slots. -/
inductive Clashes (before : List Slot) : Except PropertyError Slot → SlotError → Prop where
  | property {cause : PropertyError} : Clashes before (.error cause) (.property cause)
  | collision {slot other : Slot} (earlier : other ∈ before) (same : other.id = slot.id) :
    Clashes before (.ok slot) (.identityCollision slot.id other.displayName slot.displayName)

/-- There is a first item that is wrong, and nothing is with those before it. -/
def Refused (items : List (Except PropertyError Slot)) (cause : SlotError) : Prop :=
  ∃ before item after, items = before.map .ok ++ item :: after ∧ (before.map (·.id)).Nodup ∧
    Clashes before item cause

theorem map_ok_injective {slots others : List Slot}
    (same : slots.map (Except.ok (ε := PropertyError)) = others.map .ok) : slots = others :=
  List.map_injective_iff.2 (fun _ _ equal => Except.ok.inj equal) same

theorem Lendable.unique {items : List (Except PropertyError Slot)} {all other : List Slot}
    (one : Lendable items all) (two : Lendable items other) : all = other :=
  map_ok_injective (one.1.symm.trans two.1)

theorem Refused.not_lendable {items : List (Except PropertyError Slot)} {cause : SlotError}
    (refused : Refused items cause) (all : List Slot) : ¬ Lendable items all := by
  obtain ⟨before, item, after, rfl, _, clash⟩ := refused
  rintro ⟨items, distinct⟩
  obtain ⟨first, last, rfl, same, behind⟩ := List.map_eq_append_iff.1 items.symm
  obtain ⟨slot, rest, rfl, rfl, rfl⟩ := List.map_eq_cons_iff.1 behind
  cases map_ok_injective same
  cases clash with
  | collision earlier same =>
    rw [List.map_append] at distinct
    exact (List.nodup_append.1 distinct).2.2 _ (List.mem_map.2 ⟨_, earlier, rfl⟩) _
      (List.mem_cons_self) same

/-- Claims an item, of which nothing is left to do but to enter its slot. -/
def lend (claimed : List Slot) : Except PropertyError Slot → Except SlotError (List Slot)
  | .ok slot => claim claimed slot
  | .error cause => .error (.property cause)

theorem claimProperty_eq_lend (claimed : List Slot) (property : Property) :
    claimProperty claimed property = lend claimed property.inputSlot := by
  unfold claimProperty
  cases property.inputSlot <;> rfl

theorem clashes_of_claim {claimed : List Slot} {slot : Slot} {cause : SlotError}
    (failed : claim claimed slot = .error cause) : Clashes claimed (.ok slot) cause := by
  unfold claim at failed
  split at failed
  next other found =>
    cases failed
    exact .collision (List.mem_of_find?_eq_some found) (by simpa using List.find?_some found)
  next => contradiction

theorem nodup_of_claim {claimed all : List Slot} {slot : Slot} (ok : claim claimed slot = .ok all)
    (distinct : (claimed.map (·.id)).Nodup) :
    all = claimed ++ [slot] ∧ ((claimed ++ [slot]).map (·.id)).Nodup := by
  have single : [slot].foldlM claim claimed = .ok all := by simpa using ok
  obtain ⟨rfl, apart⟩ := claims_eq_ok single distinct
  exact ⟨rfl, apart⟩

/-- By induction on the items, where those claimed so far have ids that differ. -/
theorem foldlM_lend (items : List (Except PropertyError Slot)) {claimed : List Slot}
    (distinct : (claimed.map (·.id)).Nodup) :
    (∃ all, items.foldlM lend claimed = .ok (claimed ++ all) ∧ items = all.map .ok ∧
      ((claimed ++ all).map (·.id)).Nodup) ∨
    ∃ before item after cause, items.foldlM lend claimed = .error cause ∧
      items = before.map .ok ++ item :: after ∧ ((claimed ++ before).map (·.id)).Nodup ∧
      Clashes (claimed ++ before) item cause := by
  induction items generalizing claimed with
  | nil => exact .inl ⟨[], by simp [pure, Except.pure], rfl, by simpa using distinct⟩
  | cons item rest ih =>
    rw [List.foldlM_cons]
    cases item with
    | error cause =>
      exact .inr ⟨[], .error cause, rest, _, rfl, rfl, by simpa using distinct, .property⟩
    | ok slot =>
      cases step : claim claimed slot with
      | error cause =>
        refine .inr ⟨[], .ok slot, rest, cause, ?_, rfl, by simpa using distinct, ?_⟩
        · simp [lend, step, bind, Except.bind]
        · simpa using clashes_of_claim step
      | ok next =>
        obtain ⟨rfl, apart⟩ := nodup_of_claim step distinct
        have onward : (lend claimed (.ok slot) >>= fun next => rest.foldlM lend next) =
            rest.foldlM lend (claimed ++ [slot]) := by
          simp [lend, step, bind, Except.bind]
        rw [onward]
        rcases ih apart with ⟨all, done, rfl, differ⟩ | ⟨before, item, after, cause, failed, rfl, differ, clash⟩
        · exact .inl ⟨slot :: all, by simpa using done, rfl, by simpa using differ⟩
        · exact .inr ⟨slot :: before, item, after, cause, failed, rfl, by simpa using differ,
            by simpa using clash⟩

namespace ShaderGraph

/-- The slots of the interface are claimed in one go. -/
theorem map_interface (graph : ShaderGraph) :
    graph.interface.map (·.2) = (lendings graph.properties graph.outputs).foldlM lend [] := by
  have inputs : graph.properties.foldlM claimProperty [] =
      (graph.properties.map Property.inputSlot).foldlM lend [] := by
    rw [List.foldlM_map]
    simp only [← claimProperty_eq_lend]
  have outlets (claimed : List Slot) : graph.outputs.foldlM (fun claimed outlet =>
      claim claimed (outletSlot outlet)) claimed =
        (graph.outputs.map fun outlet => .ok (outletSlot outlet)).foldlM lend claimed := by
    simp only [List.foldlM_map, lend]
  unfold interface
  rw [lendings, List.foldlM_append, ← inputs]
  simp only [outlets]
  cases graph.properties.foldlM claimProperty [] with
  | error cause => rfl
  | ok claimed =>
    cases within : (graph.outputs.map fun outlet => .ok (outletSlot outlet)).foldlM lend claimed <;>
      simp [within, bind, Except.bind, pure, Except.pure, Except.map]

theorem interface_cases (graph : ShaderGraph) :
    (∃ all, Lendable (lendings graph.properties graph.outputs) all ∧
      graph.interface = .ok (all.take graph.properties.length, all)) ∨
    ∃ cause, Refused (lendings graph.properties graph.outputs) cause ∧
      graph.interface = .error cause := by
  rcases @foldlM_lend (lendings graph.properties graph.outputs) [] List.nodup_nil with
    ⟨all, done, items, differ⟩ | ⟨before, item, after, cause, failed, items, differ, clash⟩
  · rw [← map_interface] at done
    obtain ⟨⟨inputs, claimed⟩, ok, same⟩ := Outcome.map_eq_ok done
    have same : claimed = all := same
    subst same
    obtain ⟨related, split, _⟩ := interface_eq_ok ok
    have first : inputs = claimed.take graph.properties.length := by
      rw [split, related.length_eq, List.take_left]
    exact .inl ⟨claimed, ⟨items, differ⟩, first ▸ ok⟩
  · rw [← map_interface] at failed
    exact .inr ⟨cause, ⟨before, item, after, items, differ, clash⟩, Outcome.map_eq_error failed⟩

/-- Outlets come in the ascending order of the ids that the output node has them filed under. -/
def OutletsAscend (graph : ShaderGraph) : Prop :=
  ∃ filed : List (SlotId × Slot), Ascending filed ∧ graph.outputs = filed.map (·.2) ∧
    ∀ entry ∈ filed, ∃ node, graph.output? = some node ∧ node.slots.get? entry.1 = some entry.2

theorem outletsAscend (graph : ShaderGraph) : graph.OutletsAscend := by
  unfold OutletsAscend outputs
  cases graph.output? with
  | none => exact ⟨[], .nil, rfl, by simp⟩
  | some node =>
    refine ⟨node.slots.entries.filter (·.2.isInput), node.slots.ascending.sublist List.filter_sublist,
      ?_, fun (id, slot) member => ⟨node, rfl, ?_⟩⟩
    · simp [SlotTable.inputs, SlotTable.slots, List.filter_map, Function.comp_def]
    · exact (node.slots.get?_eq_some_iff id slot).2 (List.mem_filter.1 member).1

end ShaderGraph

/-- A wrapper has got the slots of a list and no others. Where one of them takes the place of a slot with
its type and direction, the default stays. -/
structure Synced.Takes (synced : Synced) (slots : SlotTable) (inputs all : List Slot) : Prop where
  passed : ∃ changed, synced.outcome = .ok changed
  slot : ∀ id slot, synced.slots.get? id = some slot ↔
    ∃ source ∈ all, source.id = id ∧ slot = { source with default := slots.inherited source }
  ordered : ∀ (node : Node) (dirty : Bool), (node.withSync synced dirty).orderedInputs =
    inputs.map fun source => { source with default := slots.inherited source }

/-- The answer is the cause, and nothing is different. -/
structure Synced.Refuses (synced : Synced) (wrapper : Wrapper) (slots : SlotTable) (cause : SlotError) :
    Prop where
  failed : synced.outcome = .error cause
  slots : synced.slots = slots
  order : synced.wrapper.inputOrder = wrapper.inputOrder

namespace Wrapper
variable {view : View} {wrapper : Wrapper} {definition : Live}

theorem takes_of_interface (stored : wrapper.handle.bind view.lookup = some definition)
    {inputs all : List Slot} (derived : definition.graph.interface = .ok (inputs, all))
    (slots : SlotTable) : (wrapper.sync view slots).Takes slots inputs all := by
  obtain ⟨_, split, distinct⟩ := interface_eq_ok derived
  rw [sync_of_interface stored derived]
  refine ⟨⟨_, rfl⟩, slots.get?_replace distinct, fun node dirty => ?_⟩
  have filed : ∀ source ∈ inputs,
      ((slots.addAll all).keepOnly (all.map (·.id))).get? source.id =
        some { source with default := slots.inherited source } := fun source member =>
    (slots.get?_replace distinct source.id _).2
      ⟨source, split ▸ List.mem_append_left _ member, rfl, rfl⟩
  show (inputs.map (·.id)).filterMap ((slots.addAll all).keepOnly (all.map (·.id))).get? = _
  rw [List.filterMap_map]
  exact (List.filterMap_congr filed).trans (congrFun List.filterMap_eq_map inputs)

/-- What was derived depends on the handle, and on slots that are there to be replaced. -/
theorem sync_sync (view : View) (wrapper : Wrapper) (slots : SlotTable) :
    let synced := wrapper.sync view slots
    let again := synced.wrapper.sync view synced.slots
    again.slots = synced.slots ∧ again.wrapper.inputOrder = synced.wrapper.inputOrder := by
  intro synced again
  have bound : synced.wrapper.handle.bind view.lookup = wrapper.handle.bind view.lookup := by
    rw [sync_handle]
  cases found : wrapper.handle.bind view.lookup with
  | none =>
    have left : again = _ := sync_of_missing (bound.trans found) synced.slots
    have first : synced = _ := sync_of_missing found slots
    rw [left, first]
    exact ⟨SlotTable.ext_get? fun id => by simp, rfl⟩
  | some definition =>
    cases derived : definition.graph.interface with
    | error cause =>
      rw [show again = _ from sync_of_clash (bound.trans found) derived synced.slots]
      exact ⟨rfl, rfl⟩
    | ok pair =>
      obtain ⟨inputs, all⟩ := pair
      obtain ⟨_, _, distinct⟩ := interface_eq_ok derived
      have left : again = _ := sync_of_interface (bound.trans found) derived synced.slots
      have first : synced = _ := sync_of_interface found derived slots
      rw [left, first]
      exact ⟨slots.replace_replace distinct, rfl⟩

/-- Deriving slots clears a wrapper without a definition. Else the wrapper takes all that the
definition lends, or, where something is wrong with that, nothing, and the first of it is what it is
told. To derive them again changes nothing. -/
theorem sync_derives (view : View) (wrapper : Wrapper) (slots : SlotTable) :
    let synced := wrapper.sync view slots
    let again := synced.wrapper.sync view synced.slots
    (again.slots = synced.slots ∧ again.wrapper.inputOrder = synced.wrapper.inputOrder) ∧
      (wrapper.handle.bind view.lookup = none →
        synced.Takes slots [] [] ∧ synced.slots = .empty ∧ synced.wrapper.inputOrder = []) ∧
      ∀ definition, wrapper.handle.bind view.lookup = some definition →
        let properties := definition.graph.properties
        let items := lendings properties definition.graph.outputs
        definition.graph.OutletsAscend ∧ LentAll properties definition.graph.outputs items ∧
          (∀ all, Lendable items all → synced.Takes slots (all.take properties.length) all) ∧
          ((¬ ∃ all, Lendable items all) →
            ∃ cause, Refused items cause ∧ synced.Refuses wrapper slots cause) := by
  intro synced again
  refine ⟨sync_sync view wrapper slots, fun missing => ?_, fun definition stored => ?_⟩
  · rw [show synced = _ from sync_of_missing missing slots]
    refine ⟨?_, SlotTable.ext_get? slots.get?_keepOnly_nil, rfl⟩
    exact ⟨⟨_, rfl⟩, by simp, fun _ _ => rfl⟩
  · refine ⟨definition.graph.outletsAscend, lentAll_lendings _ _, fun all lendable => ?_,
      fun unlendable => ?_⟩
    · rcases definition.graph.interface_cases with ⟨other, lent, derived⟩ | ⟨_, refused, _⟩
      · rw [lendable.unique lent]
        exact takes_of_interface stored derived slots
      · exact absurd lendable (refused.not_lendable all)
    · rcases definition.graph.interface_cases with ⟨other, lent, _⟩ | ⟨cause, refused, clash⟩
      · exact absurd ⟨other, lent⟩ unlendable
      · refine ⟨cause, refused, ?_⟩
        rw [show synced = _ from sync_of_clash stored clash slots]
        exact ⟨rfl, rfl, rfl⟩

/-- A stored graph with properties, and with outlets under the ids they are filed under. -/
def exposing (properties : List Property) (filed : List (SlotId × Slot)) : Live :=
  let output := { Node.outputNode ⟨⟨2, 0⟩⟩ with slots := .ofList filed }
  ⟨⟨⟨⟨3, 0⟩⟩, "Exposing", { ShaderGraph.subGraph ⟨1, 0⟩ "Exposing" ⟨⟨2, 0⟩⟩ with
    properties, nodes := .ofList [(⟨⟨2, 0⟩⟩, output)] }⟩, 0⟩

def exposingView (definition : Live) : View := (Assets.empty.store definition.toDefinition).view

/-- Properties by their names and values, with ids that follow the order of names. -/
def propertyNamed (number : UInt64) (name : String) (value : PropertyValue) : Property :=
  ⟨⟨number, 0⟩, name, name, value⟩

/-- One value is kept, one belonged to a slot with another type, and one slot goes away. With a property
that has no slot nothing happens. -/
theorem exposing_derives :
    let scale := propertyNamed 1 "Scale" (.float .one)
    let tint := propertyNamed 2 "Tint" (.vector2 (.replicate 2 .zero))
    let flag := propertyNamed 3 "Flag" (.boolean true)
    let outlet := Node.outlet 1
    let scaleSlot : Slot := ⟨⟨Nat.pow 2 63 + 1⟩, "Scale", "Scale", .input, .vector1, .vector1 .one⟩
    let tintSlot : Slot :=
      ⟨⟨Nat.pow 2 63 + 2⟩, "Tint", "Tint", .input, .vector2, .vector2 #v[.zero, .zero]⟩
    let returned : Slot := ⟨⟨1⟩, "Output 1", "Output1", .output, .vector4,
      .vector4 #v[.zero, .zero, .zero, .zero]⟩
    let before := SlotTable.empty.addAll [{ scaleSlot with default := .vector1 .half },
      { tintSlot with type := .vector1, default := .vector1 .half }, { outlet with id := ⟨2⟩ }]
    let wrapper := Wrapper.bound (some ⟨⟨3, 0⟩⟩)
    let whole := exposing [tint, scale] [(outlet.id, outlet)]
    let taken := wrapper.sync (exposingView whole) before
    let all := [tintSlot, scaleSlot, returned]
    let part := exposing [tint, flag] [(outlet.id, outlet)]
    let refused := wrapper.sync (exposingView part) before
    Lendable (lendings [tint, scale] [outlet]) all ∧ taken.Takes before (all.take 2) all ∧
      taken.slots.slots = [returned, { scaleSlot with default := .vector1 .half }, tintSlot] ∧
      (¬ ∃ all, Lendable (lendings [tint, flag] [outlet]) all) ∧
      (∃ cause, Refused (lendings [tint, flag] [outlet]) cause ∧
        refused.Refuses wrapper before cause) ∧
      refused.outcome = .error (.property (.unsupportedKind .boolean)) := by
  intro scale tint flag outlet scaleSlot tintSlot returned before wrapper whole taken all part refused
  have lendable : Lendable (lendings [tint, scale] [outlet]) all := by decide +kernel
  have first : Refused (lendings [tint, flag] [outlet]) (.property (.unsupportedKind .boolean)) :=
    ⟨[tintSlot], .error (.unsupportedKind .boolean), [.ok returned], by decide +kernel,
      by decide +kernel, .property⟩
  have unlendable : ¬ ∃ all, Lendable (lendings [tint, flag] [outlet]) all :=
    fun ⟨all, lendable⟩ => first.not_lendable all lendable
  obtain ⟨_, _, takes⟩ := sync_derives (exposingView whole) wrapper before
  obtain ⟨_, _, refuses⟩ := sync_derives (exposingView part) wrapper before
  have known : wrapper.handle.bind (exposingView whole).lookup = some whole := by decide +kernel
  have other : wrapper.handle.bind (exposingView part).lookup = some part := by decide +kernel
  exact ⟨lendable, (takes whole known).2.2.1 all lendable, by decide +kernel, unlendable,
    (refuses part other).2.2.2 unlendable, by decide +kernel⟩

/-- Outlets that are filed under other ids than their own are not lent in the order of these. Each of
two takes the id of a property, so that the order decides which of them is reported. -/
theorem exposing_not_by_own_id :
    ¬ ∀ (view : View) (wrapper : Wrapper) (slots : SlotTable) (definition : Live)
        (outlets : List Slot) (cause : SlotError),
      wrapper.handle.bind view.lookup = some definition → outlets.Perm definition.graph.outputs →
      outlets.Pairwise (fun x y => x.id.value < y.id.value) →
      Refused (lendings definition.graph.properties outlets) cause →
      (wrapper.sync view slots).outcome = .error cause := by
  intro claimed
  let scale := propertyNamed 1 "Scale" (.float .one)
  let tint := propertyNamed 2 "Tint" (.vector2 (.replicate 2 .zero))
  let first := { Node.outlet 1 with id := tint.slotId }
  let second := { Node.outlet 2 with id := scale.slotId }
  let definition := exposing [scale, tint] [(.positional 1, first), (.positional 2, second)]
  let scaleSlot := { Slot.make scale.slotId "Scale" "Scale" .input .vector1 with default := .vector1 .one }
  let tintSlot := Slot.make tint.slotId "Tint" "Tint" .input .vector2
  have refused : Refused (lendings [scale, tint] [second, first])
      (.identityCollision scale.slotId "Scale" "Output 2") :=
    ⟨[scaleSlot, tintSlot], .ok (outletSlot second), [.ok (outletSlot first)], by decide +kernel,
      by decide +kernel, @Clashes.collision _ (outletSlot second) scaleSlot (by decide +kernel) (by decide +kernel)⟩
  have answer := claimed (exposingView definition) (.bound (some ⟨⟨3, 0⟩⟩)) .empty definition
    [second, first] _ (by decide +kernel) (by decide +kernel) (by decide +kernel) refused
  exact absurd answer (by decide +kernel)

end Wrapper
end NodeShader

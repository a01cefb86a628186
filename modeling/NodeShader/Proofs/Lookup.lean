import NodeShader.Keyed
import NodeShader.Slot.Table

/-! What the two kinds of tables answer after each of their operations. A table of values by key
and a table of slots are read through `get?` alone from here on. -/
namespace NodeShader

theorem find?_key_eq_some_iff {κ α : Type} [DecidableEq κ] {entries : List (κ × α)}
    (distinct : (entries.map (·.1)).Nodup) (key : κ) (value : α) :
    (entries.find? fun entry => entry.1 = key).map (·.2) = some value ↔
      (key, value) ∈ entries := by
  induction entries with
  | nil => simp
  | cons entry rest ih =>
    obtain ⟨other, first⟩ := entry
    obtain ⟨fresh, distinct⟩ := List.nodup_cons.1 distinct
    by_cases same : other = key
    · subst same
      have absent : (other, value) ∉ rest := fun member =>
        fresh (List.mem_map.2 ⟨_, member, rfl⟩)
      simp [absent, eq_comm]
    · simp [same, Ne.symm same, ih distinct]

namespace Keyed
variable {κ α : Type} [DecidableEq κ]

theorem get?_eq_some_iff (table : Keyed κ α) (key : κ) (value : α) :
    table.get? key = some value ↔ (key, value) ∈ table.entries :=
  find?_key_eq_some_iff table.distinct key value

theorem mem_keys_iff (table : Keyed κ α) (key : κ) :
    key ∈ table.keys ↔ ∃ value, table.get? key = some value := by
  simp [keys, get?_eq_some_iff]

theorem mem_values_of_get? {table : Keyed κ α} {key : κ} {value : α}
    (found : table.get? key = some value) : value ∈ table.values := by
  have filed := (table.get?_eq_some_iff key value).1 found
  exact List.mem_map.2 ⟨(key, value), filed, rfl⟩

theorem mem_values_iff (table : Keyed κ α) (value : α) :
    value ∈ table.values ↔ ∃ key, table.get? key = some value := by
  simp [values, get?_eq_some_iff]

theorem get?_eq_none_iff (table : Keyed κ α) (key : κ) :
    table.get? key = none ↔ key ∉ table.keys := by
  rw [mem_keys_iff, Option.eq_none_iff_forall_ne_some]
  simp

omit [DecidableEq κ] in
@[simp] theorem keys_mapValues (table : Keyed κ α) (change : κ → α → α) :
    (table.mapValues change).keys = table.keys := by
  simp [keys, mapValues, Function.comp_def]

@[simp] theorem get?_mapValues (table : Keyed κ α) (change : κ → α → α) (key : κ) :
    (table.mapValues change).get? key = (table.get? key).map (change key) := by
  cases found : table.get? key with
  | none =>
    rw [get?_eq_none_iff] at found
    simpa [get?_eq_none_iff] using found
  | some value =>
    rw [get?_eq_some_iff] at found
    rw [Option.map_some, get?_eq_some_iff]
    exact List.mem_map.2 ⟨_, found, rfl⟩

theorem get?_modify (table : Keyed κ α) (key : κ) (change : α → α) (other : κ) :
    (table.modify key change).get? other =
      if other = key then (table.get? other).map change else table.get? other := by
  rw [modify, get?_mapValues]
  split <;> simp

theorem modify_eq_self {table : Keyed κ α} {key : κ} {value : α}
    (found : table.get? key = some value) : (table.modify key fun _ => value) = table := by
  have same : ∀ entry ∈ table.entries,
      (entry.1, if entry.1 = key then value else entry.2) = entry := by
    intro (other, stored) member
    by_cases here : other = key
    · subst here
      have only := (table.get?_eq_some_iff other stored).2 member
      cases found.symm.trans only
      rw [if_pos rfl]
    · rw [if_neg here]
  cases table
  simpa only [modify, mapValues, List.map_id', mk.injEq] using List.map_congr_left same

theorem get?_insert (table : Keyed κ α) (key : κ) (value : α) (other : κ) :
    (table.insert key value).get? other = if other = key then some value else table.get? other := by
  unfold insert
  split
  next known =>
    rw [get?_modify]
    split
    next same =>
      subst same
      rw [contains_iff_mem_keys] at known
      obtain ⟨old, found⟩ := (mem_keys_iff table other).1 known
      simp [found]
    next => rfl
  next fresh =>
    have absent : (table.entries.find? fun entry => entry.1 = key) = none := by
      rw [List.find?_eq_none]
      intro entry member same
      exact fresh (List.any_eq_true.2 ⟨entry, member, same⟩)
    rw [get?, List.find?_append, get?]
    by_cases same : other = key
    · simp [same, absent]
    · simp [same, Ne.symm same]

/-- Where a known key keeps its value, a new one comes last. -/
theorem entries_insert_unless_contains (table : Keyed κ α) (key : κ) (value : α) :
    (if table.contains key then table else table.insert key value).entries =
      if key ∈ table.keys then table.entries else table.entries ++ [(key, value)] := by
  by_cases known : key ∈ table.keys
  · rw [if_pos ((table.contains_iff_mem_keys key).2 known), if_pos known]
  · have absent : ¬ table.contains key = true :=
      fun found => known ((table.contains_iff_mem_keys key).1 found)
    rw [if_neg absent, if_neg known, insert, dif_neg absent]

theorem get?_erase (table : Keyed κ α) (key other : κ) :
    (table.erase key).get? other = if other = key then none else table.get? other := by
  apply Option.ext
  intro value
  rw [get?_eq_some_iff, erase, List.mem_filter]
  split
  next same => simp [same]
  next different => simp [different, get?_eq_some_iff]

end Keyed

namespace SlotTable

theorem distinct (table : SlotTable) : (table.entries.map (·.1)).Nodup := by
  refine List.pairwise_map.2 (table.ascending.imp ?_)
  intro x y less same
  rw [same] at less
  exact Nat.lt_irrefl _ less

theorem get?_eq_some_iff (table : SlotTable) (id : SlotId) (slot : Slot) :
    table.get? id = some slot ↔ (id, slot) ∈ table.entries :=
  find?_key_eq_some_iff table.distinct id slot

theorem mem_slots_iff (table : SlotTable) (slot : Slot) :
    slot ∈ table.slots ↔ ∃ id, table.get? id = some slot := by
  simp [slots, get?_eq_some_iff]

theorem mem_insertEntry_iff {entries : List (SlotId × Slot)} (ordered : Ascending entries)
    (id : SlotId) (slot : Slot) (entry : SlotId × Slot) :
    entry ∈ insertEntry id slot entries ↔ entry = (id, slot) ∨ entry.1 ≠ id ∧ entry ∈ entries := by
  induction entries with
  | nil => simp [insertEntry]
  | cons head rest ih =>
    obtain ⟨first, later⟩ := List.pairwise_cons.1 ordered
    have apart : ∀ other ∈ rest, id.value ≤ head.1.value → other.1 ≠ id := by
      intro other member small same
      have less := first other member
      rw [same] at less
      omega
    rw [insertEntry]
    split
    next smaller =>
      have different : head.1 ≠ id := fun same => by rw [same] at smaller; omega
      have others := fun other member => apart other member (by omega)
      grind
    next notSmaller =>
      split
      next equal =>
        have same : head.1 = id := by cases id; cases h : head.1; simp_all
        have others := fun other member => apart other member (by omega)
        grind
      next unequal =>
        have different : head.1 ≠ id := fun same => unequal (by rw [same])
        have deeper := ih later
        grind

theorem get?_insert (table : SlotTable) (id : SlotId) (slot : Slot) (other : SlotId) :
    (table.insert id slot).get? other = if other = id then some slot else table.get? other := by
  apply Option.ext
  intro value
  rw [get?_eq_some_iff, insert, mem_insertEntry_iff table.ascending]
  split
  next same => simp [same, eq_comm]
  next different => simp [different, get?_eq_some_iff]

theorem get?_keep (table : SlotTable) (wanted : SlotId → Bool) (id : SlotId) :
    (table.keep wanted).get? id = if wanted id then table.get? id else none := by
  apply Option.ext
  intro slot
  rw [get?_eq_some_iff, keep, List.mem_filter]
  split
  next asked => simp [asked, get?_eq_some_iff]
  next refused => simp [refused]

theorem get?_erase (table : SlotTable) (id other : SlotId) :
    (table.erase id).get? other = if other = id then none else table.get? other := by
  rw [erase, get?_keep]
  by_cases same : other = id <;> simp [same]

theorem get?_keepOnly (table : SlotTable) (wanted : List SlotId) (id : SlotId) :
    (table.keepOnly wanted).get? id = if id ∈ wanted then table.get? id else none := by
  rw [keepOnly, get?_keep]
  simp

/-- The default of a slot once it is added: that of the slot in its place, if that had its type and
direction, and else its own. -/
def inherited (table : SlotTable) (slot : Slot) : Value :=
  match table.get? slot.id with
  | some previous =>
    if previous.type = slot.type ∧ previous.direction = slot.direction then previous.default
    else slot.default
  | none => slot.default

/-- Adding a slot leaves the rest alone and keeps all of the slot but, perhaps, its default. -/
theorem get?_add (table : SlotTable) (slot : Slot) (other : SlotId) :
    (table.add slot).get? other =
      if other = slot.id then some { slot with default := table.inherited slot }
      else table.get? other := by
  cases before : table.get? slot.id with
  | none => simp only [add, inherited, before, get?_insert]
  | some previous =>
    simp only [add, inherited, before]
    split <;> simp only [get?_insert]

end SlotTable
end NodeShader

import NodeShader.Slot

/-! The slots of a node, in ascending order of the id they are filed under. -/
namespace NodeShader

def Ascending (entries : List (SlotId × Slot)) : Prop :=
  entries.Pairwise fun x y => x.1.value < y.1.value

structure SlotTable where
  entries : List (SlotId × Slot)
  ascending : Ascending entries

namespace SlotTable

instance : DecidableEq SlotTable := fun a b =>
  if same : a.entries = b.entries then
    .isTrue (by cases a; cases b; simp_all)
  else .isFalse fun equal => same (equal ▸ rfl)

def empty : SlotTable := ⟨[], List.Pairwise.nil⟩

instance : Inhabited SlotTable := ⟨empty⟩

def ids (table : SlotTable) : List SlotId := table.entries.map (·.1)

def slots (table : SlotTable) : List Slot := table.entries.map (·.2)

def inputs (table : SlotTable) : List Slot := table.slots.filter Slot.isInput

def outputs (table : SlotTable) : List Slot := table.slots.filter Slot.isOutput

def size (table : SlotTable) : Nat := table.entries.length

def get? (table : SlotTable) (id : SlotId) : Option Slot :=
  (table.entries.find? fun entry => entry.1 = id).map (·.2)

def keep (table : SlotTable) (wanted : SlotId → Bool) : SlotTable where
  entries := table.entries.filter fun entry => wanted entry.1
  ascending := table.ascending.sublist List.filter_sublist

def erase (table : SlotTable) (id : SlotId) : SlotTable := table.keep (· ≠ id)

def keepOnly (table : SlotTable) (wanted : List SlotId) : SlotTable :=
  table.keep fun id => wanted.contains id

/-- Files a slot before the first larger id, in place of a slot under the same id. -/
def insertEntry (id : SlotId) (slot : Slot) : List (SlotId × Slot) → List (SlotId × Slot)
  | [] => [(id, slot)]
  | entry :: rest =>
    if id.value < entry.1.value then (id, slot) :: entry :: rest
    else if id.value = entry.1.value then (id, slot) :: rest
    else entry :: insertEntry id slot rest

theorem mem_insertEntry {id : SlotId} {slot : Slot} {entries : List (SlotId × Slot)}
    {entry : SlotId × Slot} (member : entry ∈ insertEntry id slot entries) :
    entry = (id, slot) ∨ entry ∈ entries := by
  induction entries with
  | nil => simpa [insertEntry] using member
  | cons head rest ih =>
    simp only [insertEntry] at member
    split at member
    · simpa using member
    · split at member
      · rcases List.mem_cons.1 member with here | later
        · exact .inl here
        · exact .inr (List.mem_cons_of_mem _ later)
      · rcases List.mem_cons.1 member with here | later
        · exact .inr (here ▸ List.mem_cons_self)
        · exact (ih later).imp_right (List.mem_cons_of_mem _)

theorem insertEntry_ascending (id : SlotId) (slot : Slot) (entries : List (SlotId × Slot))
    (ordered : Ascending entries) : Ascending (insertEntry id slot entries) := by
  induction entries with
  | nil => simp [insertEntry, Ascending]
  | cons head rest ih =>
    obtain ⟨first, later⟩ := List.pairwise_cons.1 ordered
    simp only [insertEntry]
    split
    next smaller =>
      refine List.pairwise_cons.2 ⟨fun entry member => ?_, ordered⟩
      rcases List.mem_cons.1 member with here | later
      · exact here ▸ smaller
      · exact Nat.lt_trans smaller (first entry later)
    next notSmaller =>
      split
      next equal =>
        exact List.pairwise_cons.2 ⟨fun entry member => equal ▸ first entry member, later⟩
      next different =>
        refine List.pairwise_cons.2 ⟨fun entry member => ?_, ih later⟩
        rcases mem_insertEntry member with here | old
        · subst here
          show head.1.value < id.value
          omega
        · exact first entry old

def insert (table : SlotTable) (id : SlotId) (slot : Slot) : SlotTable :=
  ⟨insertEntry id slot table.entries, insertEntry_ascending id slot _ table.ascending⟩

def modify (table : SlotTable) (id : SlotId) (change : Slot → Slot) : SlotTable where
  entries := table.entries.map fun entry => if entry.1 = id then (entry.1, change entry.2) else entry
  ascending := by
    refine List.pairwise_map.2 (table.ascending.imp ?_)
    intro x y less
    split <;> split <;> exact less

/-- Files a slot under its own id. A slot it replaces passes its default on when type and direction
agree, so values set by the user survive. -/
def add (table : SlotTable) (slot : Slot) : SlotTable :=
  match table.get? slot.id with
  | some previous =>
    if previous.type = slot.type ∧ previous.direction = slot.direction then
      table.insert slot.id { slot with default := previous.default }
    else table.insert slot.id slot
  | none => table.insert slot.id slot

def addAll (table : SlotTable) (slots : List Slot) : SlotTable := slots.foldl add table

def ofList (entries : List (SlotId × Slot)) : SlotTable :=
  entries.foldl (fun table entry => table.insert entry.1 entry.2) empty

def same (x y : SlotTable) : Bool :=
  x.ids = y.ids && (x.slots.zip y.slots).all fun pair => pair.1.same pair.2

end SlotTable
end NodeShader

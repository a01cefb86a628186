/-! Tables that remember the order in which their keys were first entered. A key occurs at most
once, replacing a value keeps the place of its key, and removal closes the gap. -/
namespace NodeShader

structure Keyed (κ : Type) (α : Type) where
  entries : List (κ × α)
  distinct : (entries.map (·.1)).Nodup

namespace Keyed
variable {κ α : Type} [DecidableEq κ]

instance [DecidableEq α] : DecidableEq (Keyed κ α) := fun a b =>
  if same : a.entries = b.entries then
    .isTrue (by cases a; cases b; simp_all)
  else .isFalse fun equal => same (equal ▸ rfl)

def empty : Keyed κ α := ⟨[], List.nodup_nil⟩

instance : Inhabited (Keyed κ α) := ⟨empty⟩

def keys (table : Keyed κ α) : List κ := table.entries.map (·.1)

def values (table : Keyed κ α) : List α := table.entries.map (·.2)

def size (table : Keyed κ α) : Nat := table.entries.length

def get? (table : Keyed κ α) (key : κ) : Option α :=
  (table.entries.find? fun entry => entry.1 = key).map (·.2)

def contains (table : Keyed κ α) (key : κ) : Bool :=
  table.entries.any fun entry => entry.1 = key

def mapValues (change : κ → α → α) (table : Keyed κ α) : Keyed κ α where
  entries := table.entries.map fun entry => (entry.1, change entry.1 entry.2)
  distinct := by
    have same : (fun entry : κ × α => (entry.1, change entry.1 entry.2).1) = (·.1) := rfl
    simpa [List.map_map, Function.comp_def, same] using table.distinct

def modify (table : Keyed κ α) (key : κ) (change : α → α) : Keyed κ α :=
  table.mapValues fun other value => if other = key then change value else value

theorem contains_iff_mem_keys (table : Keyed κ α) (key : κ) :
    table.contains key = true ↔ key ∈ table.entries.map (·.1) := by
  simp [contains]

def insert (table : Keyed κ α) (key : κ) (value : α) : Keyed κ α :=
  if known : table.contains key then table.modify key fun _ => value
  else
    { entries := table.entries ++ [(key, value)]
      distinct := by
        have fresh : key ∉ table.entries.map (·.1) := fun member =>
          known ((contains_iff_mem_keys table key).2 member)
        rw [List.map_append, List.nodup_append]
        refine ⟨table.distinct, by simp, ?_⟩
        intro other member last here
        simp only [List.map_cons, List.map_nil, List.mem_singleton] at here
        subst here
        exact fun equal => fresh (equal ▸ member) }

def erase (table : Keyed κ α) (key : κ) : Keyed κ α where
  entries := table.entries.filter fun entry => entry.1 ≠ key
  distinct := by
    refine List.Nodup.sublist ?_ table.distinct
    exact (List.filter_sublist).map _

def ofList (entries : List (κ × α)) : Keyed κ α :=
  entries.foldl (fun table entry => table.insert entry.1 entry.2) empty

end Keyed
end NodeShader

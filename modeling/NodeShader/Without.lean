/-! A list without one of its elements: the measure of every search that marks what it meets. -/
namespace NodeShader

def without {α : Type} [DecidableEq α] (items : List α) (item : α) : List α :=
  items.filter (· ≠ item)

theorem length_without_lt {α : Type} [DecidableEq α] {items : List α} {item : α}
    (member : item ∈ items) : (without items item).length < items.length :=
  List.length_filter_lt_length_iff_exists.2 ⟨item, member, by simp⟩

theorem mem_without {α : Type} [DecidableEq α] {items : List α} {item other : α} :
    other ∈ without items item ↔ other ∈ items ∧ other ≠ item := by
  simp [without]

end NodeShader

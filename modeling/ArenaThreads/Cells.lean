/-! Total stores: a value for every key, changed one key at a time. -/

namespace ArenaThreads

abbrev Cells (κ α : Type) := κ → α

namespace Cells

variable {κ α : Type} [DecidableEq κ]

def set (cells : Cells κ α) (key : κ) (value : α) : Cells κ α :=
  fun other => if other = key then value else cells other

@[simp]
theorem set_same (cells : Cells κ α) (key : κ) (value : α) : cells.set key value key = value := by
  simp [set]

theorem set_other (cells : Cells κ α) (value : α) {key other : κ} (different : other ≠ key) :
    cells.set key value other = cells other := by
  simp [set, different]

theorem set_self (cells : Cells κ α) (key : κ) : cells.set key (cells key) = cells := by
  funext other
  by_cases same : other = key <;> simp [set, same]

theorem set_set (cells : Cells κ α) (key : κ) (first second : α) :
    (cells.set key first).set key second = cells.set key second := by
  funext other
  by_cases same : other = key <;> simp [set, same]

theorem map_set {β : Type} (f : α → β) (cells : Cells κ α) (key : κ) (value : α) :
    (fun other => f (cells.set key value other)) = Cells.set (fun other => f (cells other)) key
      (f value) := by
  funext other
  by_cases same : other = key <;> simp [set, same]

end Cells

end ArenaThreads

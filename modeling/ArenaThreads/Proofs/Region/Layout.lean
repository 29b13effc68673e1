import ArenaThreads.ThreadMemory
import Mathlib.Tactic
/-!
Where the parts of a region lie: the control block has its place inside the stack, below the
storage, and regions whose mappings are apart have nothing in common.
-/

namespace ArenaThreads

def Mapping.Apart (first second : Mapping) : Prop :=
  first.base + first.length ≤ second.base ∨ second.base + second.length ≤ first.base

theorem Mapping.apart_symm {first second : Mapping} (apart : first.Apart second) :
    second.Apart first := Or.symm apart

theorem Pages.le_round {page size bound : Nat} (fits : page + round page size < wordLimit)
    (asked : bound ≤ size) (word : bound < wordLimit) : bound ≤ round page size := by
  have low : saturatingAdd size (page - 1) &&& (page - 1) ≤ page - 1 := Nat.and_le_right
  simp only [round, clearBits, saturatingAdd, wordLimit] at *
  omega

theorem Pages.page_le_round {bits size : Nat} (word : bits < 64) (some : 0 < size) :
    2 ^ bits ≤ round (2 ^ bits) size := by
  have small : 2 ^ bits < wordLimit := Nat.pow_lt_pow_right (by decide) word
  have reached : 2 ^ bits ≤ saturatingAdd size (2 ^ bits - 1) := by
    simp only [saturatingAdd, wordLimit] at *
    omega
  have whole := Nat.div_add_mod (saturatingAdd size (2 ^ bits - 1)) (2 ^ bits)
  have pages : 0 < saturatingAdd size (2 ^ bits - 1) / 2 ^ bits :=
    Nat.div_pos reached (Nat.two_pow_pos bits)
  rw [round, clearBits, Nat.and_two_pow_sub_one_eq_mod]
  calc
    2 ^ bits ≤ 2 ^ bits * (saturatingAdd size (2 ^ bits - 1) / 2 ^ bits) :=
      Nat.le_mul_of_pos_right _ pages
    _ = saturatingAdd size (2 ^ bits - 1) - saturatingAdd size (2 ^ bits - 1) % 2 ^ bits := by
      omega

namespace Region

/-- The parts of a region fill it, its stack has room for a control block and more, and it ends
inside the address space. -/
structure Placed (region : Region) : Prop where
  whole : region.length = region.guard + region.stack + region.storage
  roomy : Sizing.minimumStack ≤ region.stack
  bounded : region.base + region.length ≤ wordLimit

variable {region other : Region}

theorem block_inside (placed : region.Placed) :
    region.stackLow < region.block ∧ region.block + ControlBlock.size ≤ region.storageStart := by
  have roomy := placed.roomy
  simp only [block, stackLow, storageStart, ControlBlock.size, ControlBlock.alignment,
    Sizing.minimumStack] at *
  omega

theorem block_real (placed : region.Placed) : region.block ≠ 0 := by
  have inside := (block_inside placed).1
  omega

theorem storage_inside (placed : region.Placed) :
    region.storageStart + region.storage = region.base + region.length := by
  have whole := placed.whole
  simp only [storageStart]
  omega

theorem stacks_apart (placed : region.Placed) (further : other.Placed)
    (apart : region.mapping.Apart other.mapping) {address : Nat} (low : region.stackLow ≤ address)
    (high : address ≤ region.block) : address < other.stackLow ∨ other.block < address := by
  have inside := block_inside placed
  have within := block_inside further
  have full := storage_inside placed
  have filled := storage_inside further
  simp only [Mapping.Apart, mapping, stackLow, ControlBlock.size] at *
  omega

theorem blocks_differ (placed : region.Placed) (further : other.Placed)
    (apart : region.mapping.Apart other.mapping) : region.block ≠ other.block := by
  have inside := (block_inside placed).1
  have within := (block_inside further).1
  have outside := stacks_apart placed further apart (Nat.le_of_lt inside) (Nat.le_refl _)
  omega

theorem mapping_differs {mapping : Mapping} (placed : region.Placed)
    (apart : region.mapping.Apart mapping) : region.mapping ≠ mapping := by
  rintro rfl
  have whole := placed.whole
  have roomy := placed.roomy
  simp only [Mapping.Apart, Region.mapping, Sizing.minimumStack] at *
  omega

theorem placed_of_length {page base length : Nat} {sizing : Sizing}
    (fits : length? page (sizing.rounded page) = some length) (bounded : base + length ≤ wordLimit) :
    (⟨base, length, page, (sizing.rounded page).stack, (sizing.rounded page).storage⟩ :
      Region).Placed := by
  obtain ⟨⟨bound, -⟩, total⟩ := Option.ite_none_right_eq_some.mp fits
  refine ⟨(Option.some.inj total).symm, ?_, bounded⟩
  exact Pages.le_round bound (Nat.le_max_right _ _) (by simp [Sizing.minimumStack, wordLimit])

end Region

end ArenaThreads

import ArenaThreads.Proofs.Region.Layout
/-!
One layout at two bases: which addresses correspond, and memories that have corresponding bytes. What
is outside both regions corresponds to itself.
-/

namespace ArenaThreads

namespace Region

def Holds (address : Nat) (region : Region) : Prop :=
  region.base ≤ address ∧ address < region.base + region.length

instance (address : Nat) (region : Region) : Decidable (region.Holds address) :=
  inferInstanceAs (Decidable (_ ∧ _))

/-- The region at another base, which leaves as much to the alignment of control blocks. -/
structure Moved (region other : Region) : Prop where
  layout : other = { region with base := other.base }
  aligned : other.base % ControlBlock.alignment = region.base % ControlBlock.alignment

def translate (region other : Region) (address : Nat) : Nat :=
  if region.Holds address then address - region.base + other.base else address

def Common (region other : Region) (address : Nat) : Prop :=
  region.Holds address ∨ ¬other.Holds address

/-- Ranges that correspond: in the two regions at the same distance from the base, or outside both. -/
inductive Span (region other : Region) (start moved length : Nat) : Prop
  | within (low : region.base ≤ start) (high : start + length ≤ region.base + region.length)
    (same : moved + region.base = start + other.base)
  | outside (same : moved = start)
    (clear : ∀ i, i < length → ¬region.Holds (start + i) ∧ ¬other.Holds (start + i))

section

variable {region other : Region} {address start moved size i : Nat}

namespace Moved

theorem length (moves : region.Moved other) : other.length = region.length := by rw [moves.layout]

theorem guard (moves : region.Moved other) : other.guard = region.guard := by rw [moves.layout]

theorem stack (moves : region.Moved other) : other.stack = region.stack := by rw [moves.layout]

theorem storage (moves : region.Moved other) : other.storage = region.storage := by rw [moves.layout]

theorem stackLow (moves : region.Moved other) :
    other.stackLow + region.base = region.stackLow + other.base := by
  simp only [Region.stackLow, moves.guard]
  omega

theorem storageStart (moves : region.Moved other) :
    other.storageStart + region.base = region.storageStart + other.base := by
  simp only [Region.storageStart, moves.guard, moves.stack]
  omega

theorem block (moves : region.Moved other) (placed : region.Placed) :
    other.block + region.base = region.block + other.base := by
  have aligned := moves.aligned
  have roomy := placed.roomy
  simp only [Region.block, Region.stackLow, moves.guard, moves.stack, ControlBlock.size,
    ControlBlock.alignment, Sizing.minimumStack] at *
  omega

theorem padding (moves : region.Moved other) :
    Arena.padding other.storageStart = Arena.padding region.storageStart := by
  have aligned := moves.aligned
  have start := moves.storageStart
  simp only [Arena.padding, Arena.alignment, ControlBlock.alignment] at *
  omega

theorem usable (moves : region.Moved other) (placed : region.Placed) :
    other.block - other.stackLow = region.block - region.stackLow := by
  have block := moves.block placed
  have low := moves.stackLow
  omega

end Moved

theorem translate_inside (inside : region.Holds address) :
    region.translate other address + region.base = address + other.base := by
  rw [translate, if_pos inside]
  obtain ⟨low, -⟩ := inside
  omega

theorem translate_outside (outside : ¬region.Holds address) :
    region.translate other address = address := if_neg outside

theorem translate_of_moved (inside : region.Holds address)
    (same : moved + region.base = address + other.base) : region.translate other address = moved := by
  have there := @translate_inside region other address inside
  omega

theorem Span.translate (span : Span region other start moved size) (inside : i < size) :
    region.Common other (start + i) ∧ region.translate other (start + i) = moved + i := by
  cases span with
  | within low high same =>
    have holds : region.Holds (start + i) := ⟨by omega, by omega⟩
    exact ⟨.inl holds, translate_of_moved holds (by omega)⟩
  | outside same clear =>
    obtain ⟨one, both⟩ := clear i inside
    exact ⟨.inr both, by rw [translate_outside one, same]⟩

theorem Span.only (span : Span region other start moved size) (moves : region.Moved other)
    (common : region.Common other address)
    (there : moved ≤ region.translate other address ∧
      region.translate other address < moved + size) :
    start ≤ address ∧ address < start + size := by
  have same := moves.length
  by_cases inside : region.Holds address
  · have place := @translate_inside region other address inside
    cases span with
    | within low high moved => omega
    | outside stays clear =>
      -- In the other region, which the range does not meet.
      have further := (clear (region.translate other address - start) (by omega)).2
      refine absurd ?_ further
      simp only [Holds] at inside ⊢
      omega
  · rw [translate_outside inside] at there
    cases span with
    | within low high moved =>
      refine absurd ?_ (common.resolve_left inside)
      simp only [Holds]
      omega
    | outside stays clear => omega

end

end Region

/-! Memories -/

/-- Which bytes two memories may have at an address and the one that corresponds to it. -/
abbrev Likeness := Nat → UInt8 → UInt8 → Prop

namespace Likeness

def write (start length : Nat) (bytes others : Nat → UInt8) (likeness : Likeness) : Likeness :=
  fun address one other =>
    if start ≤ address ∧ address < start + length then
      one = bytes (address - start) ∧ other = others (address - start)
    else likeness address one other

def copy (source target length : Nat) (likeness : Likeness) : Likeness :=
  fun address one other =>
    if target ≤ address ∧ address < target + length then
      likeness (source + (address - target)) one other
    else likeness address one other

def level (place : Nat → Prop) (likeness : Likeness) : Likeness :=
  fun address one other => likeness address one other ∨ place address ∧ one = other

end Likeness

def Memory.Meets (region other : Region) (likeness : Likeness) (first second : Memory) : Prop :=
  ∀ address, region.Common other address →
    likeness address (first address) (second (region.translate other address))

section

variable {region other : Region} {likeness further : Likeness} {first second : Memory}
  {start moved length : Nat}

namespace Memory.Meets

theorem mono (meets : Memory.Meets region other likeness first second)
    (weaker : ∀ address one other, likeness address one other → further address one other) :
    Memory.Meets region other further first second :=
  fun address common => weaker _ _ _ (meets address common)

theorem write (meets : Memory.Meets region other likeness first second)
    (moves : region.Moved other) (span : region.Span other start moved length)
    (bytes others : Nat → UInt8) :
    Memory.Meets region other (likeness.write start length bytes others)
      (first.write start length bytes) (second.write moved length others) := by
  intro address common
  unfold Likeness.write
  by_cases inside : start ≤ address ∧ address < start + length
  · rw [if_pos inside]
    obtain ⟨-, place⟩ := span.translate (show address - start < length by omega)
    have whole : start + (address - start) = address := by omega
    rw [whole] at place
    rw [place, write_inside _ _ inside.1 inside.2, write_inside _ _ (by omega) (by omega)]
    exact ⟨rfl, by rw [Nat.add_sub_cancel_left]⟩
  · rw [if_neg inside, write_outside _ _ (by omega), write_outside]
    · exact meets address common
    · by_contra within
      exact inside (span.only moves common (by omega))

theorem copy (meets : Memory.Meets region other likeness first second)
    (moves : region.Moved other) {source origin target goal : Nat}
    (reads : region.Span other source origin length) (writes : region.Span other target goal length) :
    Memory.Meets region other (likeness.copy source target length)
      (first.copy source target length) (second.copy origin goal length) := by
  have written := meets.write moves writes (fun i => first (source + i)) fun i => second (origin + i)
  refine written.mono ?_
  intro address one other' held
  unfold Likeness.write at held
  unfold Likeness.copy
  split at held
  · rename_i inside
    rw [if_pos inside]
    obtain ⟨rfl, rfl⟩ := held
    obtain ⟨common, place⟩ := reads.translate (show address - target < length by omega)
    have held := meets _ common
    rw [place] at held
    exact held
  · rename_i outside
    rwa [if_neg outside]

theorem read (meets : Memory.Meets region other likeness first second)
    (span : region.Span other start moved length) {i : Nat} (inside : i < length) :
    likeness (start + i) (first (start + i)) (second (moved + i)) := by
  obtain ⟨common, place⟩ := span.translate inside
  rw [← place]
  exact meets _ common

end Memory.Meets

end

end ArenaThreads

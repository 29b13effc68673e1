import ArenaThreads.Machine
import Mathlib.Tactic
/-!
The blocks of an arena. The arena itself keeps no list of them: whether a block is the last one is
seen from where it ends. Beside a list of the live blocks, though, everything the arena does is one
of four changes to it: a block is put behind all others, taken away, cut short, or taken back from
the end.
-/

namespace ArenaThreads

namespace Arena

structure Block where
  address : Nat
  size : Nat
  deriving DecidableEq, Repr

namespace Block

def Apart (first second : Block) : Prop :=
  first.address + first.size ≤ second.address ∨ second.address + second.size ≤ first.address

/-- A block has a byte at least, is aligned, and lies in the part of its arena that is in use. -/
structure Placed (arena : Arena) (block : Block) : Prop where
  some : 0 < block.size
  aligned : block.address % alignment = 0
  low : arena.base ≤ block.address
  high : block.address + block.size ≤ arena.start

def without (block : Option Nat) (size : Nat) (live : List Block) : List Block :=
  match block with
  | none => live
  | some address => live.erase ⟨address, size⟩

def afterResize (block : Option Nat) (oldSize newSize : Nat) (result : Option Nat)
    (live : List Block) : List Block :=
  if newSize = 0 then without block oldSize live
  else match result with
    | none => live
    | some address => ⟨address, newSize⟩ :: without block oldSize live

theorem apart_symm {first second : Block} (apart : first.Apart second) : second.Apart first :=
  Or.symm apart

theorem elsewhere {block other : Block} {live : List Block} (some : ∀ block ∈ live, 0 < block.size)
    (apart : live.Pairwise Apart) (mine : block ∈ live) (theirs : other ∈ live.erase block) :
    other.address ≠ block.address := by
  have front := apart.perm (List.perm_cons_erase mine) apart_symm
  have clear := (List.pairwise_cons.mp front).1 other theirs
  have bytes := some block mine
  have others := some other (List.mem_of_mem_erase theirs)
  simp only [Apart] at clear
  omega

end Block

structure Bounded (arena : Arena) : Prop where
  low : arena.base ≤ arena.start
  high : arena.start ≤ arena.limit
  word : arena.limit < wordLimit
  home : ∀ mapping ∈ arena.mapping,
    mapping.base ≤ arena.base ∧ arena.limit ≤ mapping.base + mapping.length

/-- Every live block has its place in the arena, and no two have an address in common. -/
structure Kept (arena : Arena) (live : List Block) : Prop extends Bounded arena where
  placed : ∀ block ∈ live, block.Placed arena
  apart : live.Pairwise Block.Apart

variable {arena : Arena} {block : Block} {live rest : List Block}

namespace Kept

theorem perm (kept : Kept arena live) (same : live.Perm rest) : Kept arena rest where
  toBounded := kept.toBounded
  placed := fun block member => kept.placed block (same.mem_iff.mpr member)
  apart := kept.apart.perm same Block.apart_symm

theorem sublist (kept : Kept arena live) (fewer : rest.Sublist live) : Kept arena rest where
  toBounded := kept.toBounded
  placed := fun block member => kept.placed block (fewer.subset member)
  apart := kept.apart.sublist fewer

theorem front (kept : Kept arena live) (named : block ∈ live) :
    Kept arena (block :: live.erase block) :=
  kept.perm (List.perm_cons_erase named)

theorem erase (kept : Kept arena live) (block : Block) : Kept arena (live.erase block) :=
  kept.sublist List.erase_sublist

theorem elsewhere {other : Block} (kept : Kept arena live) (mine : block ∈ live)
    (theirs : other ∈ live.erase block) : other.address ≠ block.address :=
  Block.elsewhere (fun block member => (kept.placed block member).some) kept.apart mine theirs

theorem same_block {other : Block} (kept : Kept arena live) (mine : block ∈ live)
    (theirs : other ∈ live) (place : other.address = block.address) : other = block := by
  by_contra different
  exact kept.elsewhere mine ((List.mem_erase_of_ne different).mpr theirs) place

theorem push (kept : Kept arena live) {address size : Nat} (some : 0 < size)
    (aligned : address % alignment = 0) (behind : arena.start ≤ address)
    (fits : address + size ≤ arena.limit) :
    Kept { arena with start := address + size } (⟨address, size⟩ :: live) := by
  have low := kept.low
  refine ⟨⟨?_, fits, kept.word, kept.home⟩, ?_, ?_⟩
  · show arena.base ≤ address + size
    omega
  · intro block member
    rcases List.mem_cons.mp member with rfl | older
    · exact ⟨some, aligned, Nat.le_trans low behind, Nat.le_refl _⟩
    · have placed := kept.placed block older
      have high := placed.high
      exact ⟨placed.some, placed.aligned, placed.low, by show _ ≤ address + size; omega⟩
  · refine List.pairwise_cons.mpr ⟨fun block older => Or.inr ?_, kept.apart⟩
    exact Nat.le_trans (kept.placed block older).high behind

theorem before_last (kept : Kept arena (block :: rest))
    (last : block.address + block.size = arena.start) {other : Block} (member : other ∈ rest) :
    other.address + other.size ≤ block.address := by
  have placed := kept.placed other (List.mem_cons_of_mem block member)
  have some := placed.some
  have high := placed.high
  rcases (List.pairwise_cons.mp kept.apart).1 other member with behind | before
  · omega
  · exact before

theorem back (kept : Kept arena (block :: rest))
    (last : block.address + block.size = arena.start) :
    Kept { arena with start := block.address } rest := by
  have placed := kept.placed block List.mem_cons_self
  have high := kept.high
  refine ⟨⟨placed.low, ?_, kept.word, kept.home⟩, ?_, ?_⟩
  · show block.address ≤ arena.limit
    omega
  · intro other member
    have older := kept.placed other (List.mem_cons_of_mem block member)
    exact ⟨older.some, older.aligned, older.low, kept.before_last last member⟩
  · exact (List.pairwise_cons.mp kept.apart).2

theorem stretch (kept : Kept arena (block :: rest))
    (last : block.address + block.size = arena.start) {size : Nat} (some : 0 < size)
    (fits : block.address + size ≤ arena.limit) :
    Kept { arena with start := block.address + size } (⟨block.address, size⟩ :: rest) :=
  (kept.back last).push some (kept.placed block List.mem_cons_self).aligned (Nat.le_refl _) fits

theorem trim (kept : Kept arena (block :: rest)) {size : Nat} (some : 0 < size)
    (shorter : size ≤ block.size) : Kept arena (⟨block.address, size⟩ :: rest) := by
  have placed := kept.placed block List.mem_cons_self
  have high := placed.high
  obtain ⟨apart, others⟩ := List.pairwise_cons.mp kept.apart
  refine ⟨kept.toBounded, ?_, List.pairwise_cons.mpr ⟨?_, others⟩⟩
  · intro other member
    rcases List.mem_cons.mp member with rfl | older
    · exact ⟨some, placed.aligned, placed.low, by show block.address + size ≤ _; omega⟩
    · exact kept.placed other (List.mem_cons_of_mem block older)
  · intro other member
    have clear := apart other member
    simp only [Block.Apart] at clear ⊢
    omega

end Kept

end Arena

end ArenaThreads

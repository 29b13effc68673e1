import ArenaThreads.Proofs.Registry.Links
/-!
Looking an address up: the walk along the links, however long it gets, ends with the first member
that holds the address or at the end of the list, and this is what a lookup answers, whether or not
it has looked at the count first.
-/

namespace ArenaThreads

namespace Registry

inductive Walk (blocks : ControlBlocks) (address : Nat) : Nat → Option Nat → Prop
  | ended : Walk blocks address 0 none
  | found {block : Nat} (real : block ≠ 0) (holds : (blocks block).holds address = true) :
    Walk blocks address block (some block)
  | on {block : Nat} {result : Option Nat} (real : block ≠ 0)
    (passes : (blocks block).holds address = false)
    (rest : Walk blocks address (blocks block).next result) : Walk blocks address block result

variable {blocks : ControlBlocks} {registry : Registry} {address start : Nat} {list : List Nat}
  {result other : Option Nat}

theorem walk_unique (first : Walk blocks address start result)
    (second : Walk blocks address start other) : result = other := by
  induction first with
  | ended =>
    cases second with
    | ended => rfl
    | found real => exact absurd rfl real
    | on real => exact absurd rfl real
  | found real holds =>
    cases second with
    | ended => exact absurd rfl real
    | found => rfl
    | on _ passes => cases holds.symm.trans passes
  | on real passes _ ih =>
    cases second with
    | ended => exact absurd rfl real
    | found _ holds => cases holds.symm.trans passes
    | on _ _ rest => exact ih rest

theorem walk_links (links : Links blocks start list) :
    Walk blocks address start (list.find? fun member => (blocks member).holds address) := by
  induction list generalizing start with
  | nil =>
    cases links
    exact .ended
  | cons member rest ih =>
    rcases links with ⟨rfl, real, others⟩
    cases holds : (blocks start).holds address with
    | true =>
      rw [List.find?_cons, holds]
      exact .found real holds
    | false =>
      rw [List.find?_cons, holds]
      exact .on real holds (ih others)

theorem lookup_congr {others : ControlBlocks}
    (next : ∀ block, (others block).next = (blocks block).next)
    (holds : ∀ block, (others block).holds address = (blocks block).holds address) :
    registry.lookup address others = registry.lookup address blocks := by
  have same (limit start : Nat) : walk others limit start = walk blocks limit start := by
    induction limit generalizing start with
    | zero => rfl
    | succ limit ih => rw [walk, walk, next, ih]
  simp only [lookup, members, same, holds]

/-- A registry that counts no members has none, so it does not have to be walked. -/
theorem lookup_eq_find (linked : registry.Linked blocks) (address : Nat) :
    registry.lookup address blocks =
      (registry.members blocks).find? fun member => (blocks member).holds address := by
  unfold lookup
  split
  · rename_i unoccupied
    have nothing : registry.members blocks = [] :=
      List.eq_nil_of_length_eq_zero (linked.count.trans unoccupied)
    rw [nothing, List.find?_nil]
  · rfl

theorem walk_iff_lookup (linked : registry.Linked blocks) :
    Walk blocks address registry.head result ↔ registry.lookup address blocks = result := by
  have walked : Walk blocks address registry.head (registry.lookup address blocks) := by
    rw [lookup_eq_find linked]
    exact walk_links linked.links
  constructor
  · intro other
    exact walk_unique walked other
  · intro same
    rwa [← same]

theorem lookup_eq_none_iff (linked : registry.Linked blocks) :
    registry.lookup address blocks = none ↔
      ∀ block ∈ registry.members blocks, (blocks block).holds address = false := by
  rw [lookup_eq_find linked, List.find?_eq_none]
  simp only [Bool.not_eq_true]

theorem lookup_eq_some_iff (linked : registry.Linked blocks)
    (alone : ∀ first ∈ registry.members blocks, ∀ second ∈ registry.members blocks,
      (blocks first).holds address = true → (blocks second).holds address = true →
        first = second) {block : Nat} :
    registry.lookup address blocks = some block ↔
      block ∈ registry.members blocks ∧ (blocks block).holds address = true := by
  rw [lookup_eq_find linked]
  constructor
  · intro found
    have holds := List.find?_some found
    exact ⟨List.mem_of_find?_eq_some found, holds⟩
  · rintro ⟨listed, holds⟩
    cases found : (registry.members blocks).find? fun member => (blocks member).holds address with
    | none => exact absurd holds (List.find?_eq_none.mp found block listed)
    | some member =>
      have meets := List.find?_some found
      rw [alone member (List.mem_of_find?_eq_some found) block listed meets holds]

end Registry

end ArenaThreads

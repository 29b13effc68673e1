import ArenaThreads.Registry
/-!
The registry as a linked list: the links from its head lead through its members, each once, to the
end. Registering puts a block in front, unregistering takes one out, and neither changes a block but
for its link.
-/

namespace ArenaThreads

def ControlBlock.detached (block : ControlBlock) : ControlBlock := { block with next := 0 }

theorem ControlBlock.detached_fields {before after : ControlBlock}
    (same : after.detached = before.detached) :
    after.function = before.function ∧ after.argument = before.argument ∧
      after.result = before.result ∧ after.joinWord = before.joinWord ∧
      after.state = before.state := by
  simp only [ControlBlock.detached, ControlBlock.mk.injEq] at same
  exact ⟨same.1, same.2.1, same.2.2.1, same.2.2.2.2.2.2.1, same.2.2.2.2.2.2.2.1⟩

namespace Registry

/-- The links from an address lead through exactly these blocks to the end. -/
def Links (blocks : ControlBlocks) : Nat → List Nat → Prop
  | address, [] => address = 0
  | address, member :: rest => address = member ∧ member ≠ 0 ∧ Links blocks (blocks member).next rest

structure Linked (blocks : ControlBlocks) (registry : Registry) : Prop where
  links : Links blocks registry.head (registry.members blocks)
  count : (registry.members blocks).length = registry.live
  distinct : (registry.members blocks).Nodup

variable {blocks changed : ControlBlocks} {registry : Registry} {address block : Nat} {list : List Nat}

theorem walk_of_links (links : Links blocks address list) :
    walk blocks list.length address = list := by
  induction list generalizing address with
  | nil => rfl
  | cons member rest ih =>
    rcases links with ⟨rfl, real, others⟩
    simp [walk, real, ih others]

theorem links_real (links : Links blocks address list) : 0 ∉ list := by
  induction list generalizing address with
  | nil => simp
  | cons member rest ih =>
    rcases links with ⟨-, real, others⟩
    simp [ih others, real.symm]

theorem linked_of_links (links : Links blocks registry.head list)
    (count : list.length = registry.live)
    (distinct : list.Nodup) : registry.Linked blocks ∧ registry.members blocks = list := by
  have members : registry.members blocks = list := by
    rw [Registry.members, ← count]
    exact walk_of_links links
  exact ⟨⟨by rwa [members], by rwa [members], by rwa [members]⟩, members⟩

theorem links_transport (links : Links blocks address list)
    (same : ∀ member ∈ list, (changed member).next = (blocks member).next) :
    Links changed address list := by
  induction list generalizing address with
  | nil => exact links
  | cons member rest ih =>
    rcases links with ⟨head, real, others⟩
    refine ⟨head, real, ?_⟩
    rw [same member List.mem_cons_self]
    exact ih others fun other inside => same other (List.mem_cons_of_mem member inside)

theorem linked_transport (linked : registry.Linked blocks)
    (same : ∀ member ∈ registry.members blocks, (changed member).next = (blocks member).next) :
    registry.Linked changed ∧ registry.members changed = registry.members blocks :=
  linked_of_links (links_transport linked.links same) linked.count linked.distinct

theorem links_after {front back : List Nat} {member : Nat}
    (links : Links blocks address (front ++ member :: back)) :
    Links blocks (blocks member).next back := by
  induction front generalizing address with
  | nil => exact links.2.2
  | cons first rest ih => exact ih links.2.2

/-- What follows a member can be put in place of what followed it before. -/
theorem links_replace {front back fresh : List Nat} {member : Nat}
    (links : Links blocks address (front ++ member :: back))
    (same : ∀ other ∈ front, (changed other).next = (blocks other).next)
    (after : Links changed (changed member).next fresh) :
    Links changed address (front ++ member :: fresh) := by
  induction front generalizing address with
  | nil => exact ⟨links.1, links.2.1, after⟩
  | cons first rest ih =>
    rcases links with ⟨head, real, others⟩
    refine ⟨head, real, ?_⟩
    rw [same first List.mem_cons_self]
    exact ih others fun other inside => same other (List.mem_cons_of_mem first inside)

theorem exists_before (links : Links blocks address list) (inside : block ∈ list)
    (later : address ≠ block) : ∃ member ∈ list, (blocks member).next = block := by
  induction list generalizing address with
  | nil => simp at inside
  | cons first rest ih =>
    rcases links with ⟨rfl, real, others⟩
    have further : block ∈ rest := (List.mem_cons.mp inside).resolve_left later.symm
    by_cases next : (blocks address).next = block
    · exact ⟨address, List.mem_cons_self, next⟩
    · obtain ⟨member, within, leads⟩ := ih others further next
      exact ⟨member, List.mem_cons_of_mem address within, leads⟩

theorem follows {front back : List Nat} {member : Nat}
    (links : Links blocks address (front ++ member :: back)) (next : (blocks member).next = block)
    (real : block ≠ 0) : ∃ rest, back = block :: rest := by
  have after := links_after links
  cases back with
  | nil => exact absurd (next.symm.trans after) real
  | cons first rest => exact ⟨rest, by rw [← next, after.1]⟩

/-! Registering and unregistering -/

theorem register_linked (linked : registry.Linked blocks) (real : block ≠ 0)
    (fresh : block ∉ registry.members blocks) :
    (registry.register block blocks).2.Linked (registry.register block blocks).1 ∧
      (registry.register block blocks).2.members (registry.register block blocks).1 =
        block :: registry.members blocks := by
  apply linked_of_links
  · refine ⟨rfl, real, ?_⟩
    simp only [register, Cells.set_same]
    apply links_transport linked.links
    intro member inside
    rw [Cells.set_other]
    exact fun same => fresh (same ▸ inside)
  · simp [register, linked.count]
  · exact List.nodup_cons.mpr ⟨fresh, linked.distinct⟩

theorem unregister_first (linked : registry.Linked blocks) (inside : block ∈ registry.members blocks)
    (first : registry.head = block) :
    Links blocks (blocks block).next ((registry.members blocks).erase block) := by
  have links := linked.links
  cases members : registry.members blocks with
  | nil => simp [members] at inside
  | cons head rest =>
    rw [members] at links
    rcases links with ⟨start, real, others⟩
    have same : head = block := start.symm.trans first
    subst same
    simpa using others

theorem unregister_later (linked : registry.Linked blocks) {member : Nat} (real : block ≠ 0)
    (inside : member ∈ registry.members blocks) (next : (blocks member).next = block) :
    Links (blocks.set member { blocks member with next := (blocks block).next }) registry.head
      ((registry.members blocks).erase block) := by
  have links := linked.links
  have distinct := linked.distinct
  obtain ⟨front, back, split⟩ := List.append_of_mem inside
  rw [split] at links distinct ⊢
  obtain ⟨rest, rfl⟩ := follows links next real
  have apart : block ∉ front ∧ block ≠ member := by
    simp only [List.nodup_append, List.nodup_cons, List.mem_cons] at distinct
    refine ⟨fun within => distinct.2.2 block within block (by simp) rfl, ?_⟩
    intro same
    exact distinct.2.1.1 (Or.inl same.symm)
  have alone : member ∉ front ∧ member ∉ rest := by
    simp only [List.nodup_append, List.nodup_cons, List.mem_cons, not_or] at distinct
    exact ⟨fun within => distinct.2.2 member within member (by simp) rfl, distinct.2.1.1.2⟩
  have after : Links blocks (blocks block).next rest := by
    have beyond : Links blocks registry.head ((front ++ [member]) ++ block :: rest) := by
      simpa using links
    exact links_after beyond
  rw [List.erase_append_right _ apart.1, List.erase_cons_tail (by simpa using apart.2.symm),
    List.erase_cons_head]
  apply links_replace links
  · intro other within
    rw [Cells.set_other]
    exact fun same => alone.1 (same ▸ within)
  · rw [Cells.set_same]
    apply links_transport after
    intro other within
    rw [Cells.set_other]
    exact fun same => alone.2 (same ▸ within)

theorem unregister_linked (linked : registry.Linked blocks)
    (inside : block ∈ registry.members blocks) :
    (registry.unregister block blocks).2.Linked (registry.unregister block blocks).1 ∧
      (registry.unregister block blocks).2.members (registry.unregister block blocks).1 =
        (registry.members blocks).erase block := by
  have real : block ≠ 0 := fun zero => links_real linked.links (zero ▸ inside)
  have count : ((registry.members blocks).erase block).length = registry.live - 1 := by
    rw [List.length_erase_of_mem inside, linked.count]
  have distinct := linked.distinct.erase block
  by_cases first : registry.head = block
  · have changed : registry.unregister block blocks =
        (blocks, ⟨(blocks block).next, registry.live - 1⟩) := by
      simp [unregister, inside, first]
    rw [changed]
    exact linked_of_links (unregister_first linked inside first) count distinct
  · obtain ⟨before, within, leads⟩ := exists_before linked.links inside first
    cases found : (registry.members blocks).find? fun member => (blocks member).next = block with
    | none => exact absurd leads (by simpa using List.find?_eq_none.mp found before within)
    | some member =>
      have next : (blocks member).next = block := by simpa using List.find?_some found
      have changed : registry.unregister block blocks =
          (blocks.set member { blocks member with next := (blocks block).next },
            ⟨registry.head, registry.live - 1⟩) := by
        simp [unregister, inside, first, found]
      rw [changed]
      exact linked_of_links
        (unregister_later linked real (List.mem_of_find?_eq_some found) next) count distinct

theorem register_detached (other : Nat) :
    ((registry.register block blocks).1 other).detached = (blocks other).detached := by
  by_cases same : other = block
  · subst same
    simp [register, ControlBlock.detached]
  · simp [register, Cells.set_other _ _ same]

theorem unregister_detached (other : Nat) :
    ((registry.unregister block blocks).1 other).detached = (blocks other).detached := by
  unfold unregister
  split
  · rfl
  · split
    · rfl
    · split
      · rename_i member _
        by_cases same : other = member
        · subst same
          simp [ControlBlock.detached]
        · simp [Cells.set_other _ _ same]
      · rfl

end Registry

end ArenaThreads

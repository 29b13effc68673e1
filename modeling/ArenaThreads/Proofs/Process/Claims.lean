import ArenaThreads.Proofs.Process.MemoryCalls
import ArenaThreads.Proofs.Process.Turns
/-!
Who claims the memory that the system has mapped: handles, arenas that own a mapping, and drops that
could not wait. After each move of a process all that is mapped is claimed, and nothing is claimed
twice.
-/

namespace ArenaThreads

/-- The system maps no memory over a place where an arena is kept that owns some. -/
def Move.AvoidsArenas (system : System) (move : Move) : Prop :=
  ∀ mapping : Mapping, move.Maps mapping → ∀ place, mapping.base ≤ place →
    place < mapping.base + mapping.length → (system.machine.arenas place).mapping = none

inductive Claimant
  | thread (owner : Owner)
  | arena (place : Nat)
  deriving DecidableEq

abbrev Claims := Cells Claimant (Option Mapping)

def System.claims (system : System) : Claims
  | .thread owner => (system.held owner).map fun memory => memory.region.mapping
  | .arena place => (system.machine.arenas place).mapping

/-- All that is mapped is claimed, all that is claimed is mapped, and nothing is claimed twice. -/
structure Tally (claims : Claims) (mappings : List Mapping) : Prop where
  claimed : ∀ mapping, mapping ∈ mappings ↔ ∃ claimant, claims claimant = some mapping
  alone : ∀ {one other mapping}, claims one = some mapping → claims other = some mapping →
    one = other

namespace Tally

variable {claims : Claims} {mappings : List Mapping} {claimant : Claimant} {had : Option Mapping}
  {mapping : Mapping}

theorem claims_set {now : Option Mapping} {other : Claimant} :
    claims.set claimant now other = some mapping ↔
      other = claimant ∧ now = some mapping ∨ other ≠ claimant ∧ claims other = some mapping := by
  by_cases same : other = claimant
  · simp [same]
  · simp [same, Cells.set_other _ _ same]

theorem mem_giveBack (distinct : mappings.Nodup) (had : Option Mapping) :
    mapping ∈ MemoryCall.replay (had.toList.map .unmap) mappings ↔
      mapping ∈ mappings ∧ had ≠ some mapping := by
  cases had with
  | none => simp [MemoryCall.replay]
  | some old => simp [MemoryCall.replay, MemoryCall.apply, distinct.mem_erase_iff, and_comm, eq_comm]

theorem release (tally : Tally claims mappings) (distinct : mappings.Nodup)
    (mine : claims claimant = had) :
    Tally (claims.set claimant none) (MemoryCall.replay (had.toList.map .unmap) mappings) := by
  constructor
  · intro mapping
    rw [mem_giveBack distinct, tally.claimed]
    constructor
    · rintro ⟨⟨other, theirs⟩, kept⟩
      refine ⟨other, claims_set.mpr (.inr ⟨?_, theirs⟩)⟩
      rintro rfl
      exact kept (mine.symm.trans theirs)
    · rintro ⟨other, theirs⟩
      rcases claims_set.mp theirs with ⟨-, nothing⟩ | ⟨different, theirs⟩
      · cases nothing
      · exact ⟨⟨other, theirs⟩, fun same => different (tally.alone theirs (mine.trans same))⟩
  · intro one other mapping mine theirs
    rcases claims_set.mp mine with ⟨-, nothing⟩ | ⟨-, mine⟩
    · cases nothing
    · rcases claims_set.mp theirs with ⟨-, nothing⟩ | ⟨-, theirs⟩
      · cases nothing
      · exact tally.alone mine theirs

theorem take (tally : Tally claims mappings) (nothing : claims claimant = none)
    (fresh : mapping ∉ mappings) :
    Tally (claims.set claimant (some mapping)) (mapping :: mappings) := by
  have others {other : Claimant} {further : Mapping} (theirs : claims other = some further) :
      other ≠ claimant ∧ further ≠ mapping := by
    constructor
    · rintro rfl
      cases nothing.symm.trans theirs
    · rintro rfl
      exact fresh ((tally.claimed _).mpr ⟨other, theirs⟩)
  constructor
  · intro further
    rw [List.mem_cons, tally.claimed]
    constructor
    · rintro (rfl | ⟨other, theirs⟩)
      · exact ⟨claimant, claims_set.mpr (.inl ⟨rfl, rfl⟩)⟩
      · exact ⟨other, claims_set.mpr (.inr ⟨(others theirs).1, theirs⟩)⟩
    · rintro ⟨other, theirs⟩
      rcases claims_set.mp theirs with ⟨-, same⟩ | ⟨-, theirs⟩
      · exact .inl (Option.some.inj same).symm
      · exact .inr ⟨other, theirs⟩
  · intro one other further mine theirs
    rcases claims_set.mp mine with ⟨first, same⟩ | ⟨-, mine⟩
    · rcases claims_set.mp theirs with ⟨second, -⟩ | ⟨-, theirs⟩
      · exact first.trans second.symm
      · exact absurd (Option.some.inj same).symm (others theirs).2
    · rcases claims_set.mp theirs with ⟨-, same⟩ | ⟨-, theirs⟩
      · exact absurd (Option.some.inj same).symm (others mine).2
      · exact tally.alone mine theirs

theorem relabel (tally : Tally claims mappings) (names : Equiv.Perm Claimant) :
    Tally (claims ∘ names) mappings := by
  refine ⟨fun mapping => ?_, fun mine theirs => names.injective (tally.alone mine theirs)⟩
  rw [tally.claimed]
  exact ⟨fun ⟨claimant, mine⟩ => ⟨names.symm claimant, by simpa using mine⟩,
    fun ⟨claimant, mine⟩ => ⟨names claimant, mine⟩⟩

theorem renew (tally : Tally claims mappings) (distinct : (mapping :: mappings).Nodup)
    (mine : claims claimant = had) :
    Tally (claims.set claimant (some mapping))
      (MemoryCall.replay (had.toList.map .unmap) (mapping :: mappings)) := by
  obtain ⟨fresh, nodup⟩ := List.nodup_cons.mp distinct
  have released := tally.release nodup mine
  have absent : mapping ∉ MemoryCall.replay (had.toList.map .unmap) mappings :=
    fun member => fresh ((mem_giveBack nodup had).mp member).1
  have taken := released.take (Cells.set_same ..) absent
  rw [Cells.set_set] at taken
  have differs : had ≠ some mapping := by
    intro same
    exact fresh ((tally.claimed _).mpr ⟨claimant, mine.trans same⟩)
  refine ⟨fun further => ?_, taken.alone⟩
  rw [← taken.claimed, mem_giveBack distinct, List.mem_cons, List.mem_cons, mem_giveBack nodup]
  constructor
  · rintro ⟨rfl | there, kept⟩
    · exact .inl rfl
    · exact .inr ⟨there, kept⟩
  · rintro (rfl | ⟨there, kept⟩)
    · exact ⟨.inl rfl, differs⟩
    · exact ⟨.inr there, kept⟩

end Tally

/-- However a create ends, all that is mapped after its calls has an owner. -/
theorem CreateCalls.tally {page length : Nat} {claims : Claims} {mappings : List Mapping}
    {claimant : Claimant} {had now : Option Mapping} {succeeds : Bool} {made : List MemoryCall}
    (calls : CreateCalls page length had now succeeds made) (tally : Tally claims mappings)
    (spread : Mapping.Spread mappings) (exact : MemoryCall.AllExact made mappings)
    (mine : claims claimant = had) :
    Tally (claims.set claimant now) (MemoryCall.replay made mappings) := by
  have same : claims.set claimant had = claims := by rw [← mine, Cells.set_self]
  cases calls with
  | nothing =>
    rw [same]
    exact tally
  | refused error =>
    rw [same]
    exact tally
  | unguarded base error =>
    rw [same]
    have undone : MemoryCall.replay [.map length (.ok base), .protect base page (some error),
        .unmap ⟨base, length⟩] mappings = mappings := List.erase_cons_head ..
    rw [undone]
    exact tally
  | renewed base =>
    have mapped : Mapping.Spread (⟨base, length⟩ :: mappings) := exact.1.spread spread
    rw [MemoryCall.replay_append]
    exact tally.renew mapped.nodup mine
  | lost base =>
    have mapped : Mapping.Spread (⟨base, length⟩ :: mappings) := exact.1.spread spread
    rw [MemoryCall.allExact_append, MemoryCall.allExact_append] at exact
    have renewed := tally.renew mapped.nodup mine
    have between := exact.1.2.spread mapped
    have released := renewed.release between.nodup (Cells.set_same ..)
    rw [Cells.set_set] at released
    rw [MemoryCall.replay_append, MemoryCall.replay_append]
    exact released

/-! Moves -/

structure Accounts (system : System) : Prop where
  sound : Sound system
  roomy : system.Roomy
  clear : ∀ owner memory, system.held owner = some memory →
    (system.machine.arenas memory.block).mapping = none
  spread : Mapping.Spread system.machine.mappings
  tally : Tally system.claims system.machine.mappings

/-- What a move does to what is owned: it makes calls after which all is owned again. -/
structure Balances (system : System) (made : List MemoryCall) (next : System) : Prop where
  makes : Makes made system.machine next.machine
  spares : SparesArenas system.machine next.machine
  tally : Tally next.claims next.machine.mappings

section

variable {system next : System} {name : Nat} {handle : Handle} {after : Machine}
  {made : List MemoryCall} {move : Move}

theorem claims_withHandle (name : Nat) (handle : Handle)
    (spares : SparesArenas system.machine after) :
    (system.withHandle name handle after).claims =
      system.claims.set (.thread (.handle name)) handle.mapping? := by
  funext claimant
  cases claimant with
  | thread owner =>
    rw [System.claims, System.held_withHandle]
    by_cases here : owner = .handle name
    · subst here
      rw [Cells.set_same, Cells.set_same]
      rfl
    · rw [Cells.set_other _ _ here, Cells.set_other _ _ (by simpa using here)]
      rfl
  | arena place => exact spares place

theorem Accounts.mapped (accounts : Accounts system) (name : Nat) (memory : ThreadMemory)
    (has : (system.handles name).memory = some memory) :
    memory.region.mapping ∈ system.machine.mappings := by
  have mine : system.held (.handle name) = some memory := has
  exact (accounts.sound.ownership.housed mine).mapped

theorem Balances.still (accounts : Accounts system)
    (makes : AsksHeap made ∧ Makes made system.machine next.machine)
    (spares : SparesArenas system.machine next.machine) (held : next.held = system.held) :
    Balances system made next := by
  refine ⟨makes.2, spares, ?_⟩
  have claims : next.claims = system.claims := by
    funext claimant
    cases claimant with
    | thread owner => rw [System.claims, held]; rfl
    | arena place => exact spares place
  rw [claims, makes.2.mappings, makes.1.replay]
  exact accounts.tally

theorem Balances.release (accounts : Accounts system)
    (makes : Makes ((system.handles name).mapping?.toList.map .unmap) system.machine after)
    (spares : SparesArenas system.machine after) (gone : handle.mapping? = none) :
    Balances system ((system.handles name).mapping?.toList.map .unmap)
      (system.withHandle name handle after) := by
  refine ⟨makes, spares, ?_⟩
  rw [claims_withHandle name handle spares, gone]
  have mine : system.claims (.thread (.handle name)) = (system.handles name).mapping? := rfl
  have released := accounts.tally.release accounts.spread.nodup mine
  rw [← makes.mappings] at released
  exact released

theorem Balances.nothing (accounts : Accounts system) (machine : next.machine = system.machine)
    (held : next.held = system.held) : Balances system [] next := by
  refine .still accounts ⟨.inl rfl, ?_⟩ ?_ held
  · rw [machine]
    exact .nothing rfl rfl
  · rw [machine]
    exact fun _ => rfl

theorem Balances.keep (accounts : Accounts system) (makes : Makes [] system.machine after)
    (spares : SparesArenas system.machine after)
    (kept : handle.mapping? = (system.handles name).mapping?) :
    Balances system [] (system.withHandle name handle after) := by
  refine ⟨makes, spares, ?_⟩
  have claims : (system.withHandle name handle after).claims = system.claims := by
    rw [claims_withHandle name handle spares, kept]
    exact Cells.set_self ..
  have mappings : after.mappings = system.machine.mappings := makes.mappings
  rw [claims]
  change Tally system.claims after.mappings
  rw [mappings]
  exact accounts.tally

theorem create_balances {request : CreateRequest} {caller : Caller} {answers : MemoryAnswers}
    (accounts : Accounts system)
    (lawful : answers.Lawful system.machine)
    (avoids : (Move.call name (.create request caller answers)).AvoidsArenas system) :
    ∃ made, Balances system made (system.create name request caller answers).1 := by
  have arenas : ArenasClear system.held answers system.machine := ⟨accounts.clear, avoids⟩
  have mine : system.held (.handle name) = (system.handles name).memory := rfl
  have claim : system.claims (.thread (.handle name)) = (system.handles name).mapping? := rfl
  by_cases unfit : (system.handles name).Unfit (request.sizing.rounded system.machine.page)
  · obtain ⟨made, calls, makes, spares⟩ := unfit_makes request caller arenas
      accounts.sound.ownership mine lawful unfit
    have tally := calls.tally accounts.tally accounts.spread makes.exact claim
    rw [← makes.mappings, ← claims_withHandle name _ spares] at tally
    exact ⟨made, makes, spares, tally⟩
  · simp only [Handle.Unfit, not_forall, Bool.not_eq_false] at unfit
    obtain ⟨memory, has, fits⟩ := unfit
    obtain ⟨kept, makes, spares⟩ := reuse_makes request caller answers
      (accounts.clear _ memory (mine.trans has)) (accounts.mapped name memory has) has
      (accounts.roomy _ memory (mine.trans has)) fits
    exact ⟨[], .keep accounts makes spares kept⟩

theorem start_balances (accounts : Accounts system) (caller : Caller) (answers : LaunchAnswers) :
    Balances system [] (system.start name caller answers).1 := by
  obtain ⟨makes, spares⟩ := start_makes answers (system.handles name) system.machine
  have held := system.held_rehandled ((system.handles name).start answers system.machine).2.1
    (@start_region system.machine (system.handles name) answers)
  unfold System.start
  dsimp only
  split
  · exact .still accounts ⟨.inl rfl, makes⟩ spares held
  · exact .still accounts ⟨.inl rfl, makes⟩ spares held

theorem destroy_balances (accounts : Accounts system) :
    ∃ made, Balances system made (system.destroy name).1 := by
  obtain ⟨spares, outcome⟩ := destroy_makes (accounts.mapped name)
  rcases outcome with ⟨kept, makes⟩ | ⟨gone, makes⟩
  · exact ⟨[], .keep accounts makes spares kept⟩
  · exact ⟨_, .release accounts makes spares gone⟩

theorem drop_balances (accounts : Accounts system) :
    ∃ made, Balances system made (system.drop name).1 := by
  unfold System.drop
  dsimp only
  split
  · exact ⟨[], .nothing accounts rfl rfl⟩
  · obtain ⟨makes, spares⟩ := releaseNative_makes (accounts.mapped name)
    exact ⟨_, .release accounts makes spares rfl⟩

theorem stop_balances (accounts : Accounts system) (timeout : Option Duration) (now : Instant) :
    Balances system [] (system.stop name timeout now).1 := by
  unfold System.stop
  split <;> exact .nothing accounts rfl rfl

theorem abandon_balances {memory : ThreadMemory} (name : Nat) (accounts : Accounts system)
    (makes : Makes [] system.machine after) (spares : SparesArenas system.machine after)
    (has : (system.handles name).memory = some memory) :
    Balances system [] { system.withHandle name .empty after with
      abandoned := system.abandoned ++ [memory] } := by
  let names := Equiv.swap (Claimant.thread (.handle name))
    (.thread (.abandoned system.abandoned.length))
  have claims : { system.withHandle name .empty after with
      abandoned := system.abandoned ++ [memory] }.claims = system.claims ∘ names := by
    funext claimant
    cases claimant with
    | thread owner =>
      have injective : Function.Injective Claimant.thread := fun _ _ => Claimant.thread.inj
      have moved : names (.thread owner) = .thread
          (Equiv.swap (.handle name) (.abandoned system.abandoned.length) owner) :=
        (injective.map_swap ..).symm
      rw [Function.comp_apply, moved, System.claims, Sound.held_abandon after has]
      rfl
    | arena place =>
      have fixed : names (.arena place) = .arena place :=
        Equiv.swap_apply_of_ne_of_ne nofun nofun
      rw [Function.comp_apply, fixed]
      exact spares place
  refine ⟨makes, spares, ?_⟩
  rw [claims]
  have relabelled := accounts.tally.relabel names
  have mappings : after.mappings = system.machine.mappings := makes.mappings
  rw [← mappings] at relabelled
  exact relabelled

theorem call_balances {call : Call} (accounts : Accounts system)
    (lawful : (Move.call name call).Lawful system)
    (avoids : (Move.call name call).AvoidsArenas system) :
    ∃ made, Balances system made (system.call name call).1 := by
  cases call with
  | create request caller answers => exact create_balances accounts lawful avoids
  | start caller answers => exact ⟨[], start_balances accounts caller answers⟩
  | stop timeout now => exact ⟨[], stop_balances accounts timeout now⟩
  | destroy => exact destroy_balances accounts
  | drop => exact drop_balances accounts

theorem Accounts.idle (accounts : Accounts system) (name : Nat) : Accounts (system.idle name) :=
  ⟨accounts.sound.await (by simp), accounts.roomy, accounts.clear, accounts.spread,
    accounts.tally⟩

theorem stopped_balances (accounts : Accounts system) (name : Nat) (result : Except Error Unit) :
    Balances system [] (system.withHandle name
      ((system.handles name).stopped result system.machine).1
      ((system.handles name).stopped result system.machine).2) := by
  have held := system.held_rehandled ((system.handles name).stopped result system.machine).2
    (@stopped_region system.machine (system.handles name) result)
  have quiet : Makes [] system.machine ((system.handles name).stopped result system.machine).2 ∧
      SparesArenas system.machine ((system.handles name).stopped result system.machine).2 := by
    unfold Handle.stopped
    split <;> exact ⟨.nothing rfl rfl, fun _ => rfl⟩
  exact .still accounts ⟨.inl rfl, quiet.1⟩ quiet.2 held

theorem finish_balances {joining : Joining} (accounts : Accounts system)
    (waiting : system.joining name = some joining) (purpose : JoinPurpose)
    (result : Except Error Unit) :
    ∃ made, Balances system made (system.finish name purpose result).1 := by
  have idle := accounts.idle name
  cases purpose with
  | stop =>
    have stopped := stopped_balances idle name result
    exact ⟨[], stopped.makes, stopped.spares, stopped.tally⟩
  | drop =>
    obtain ⟨memory, has, -⟩ := accounts.sound.memory_of_live (accounts.sound.waiting waiting).live
    unfold System.finish
    dsimp only
    cases result with
    | ok done =>
      obtain ⟨makes, spares⟩ := releaseNative_makes (accounts.mapped name)
      have released : Balances (system.idle name) _
          ((system.idle name).withHandle name .empty _) := .release idle makes spares rfl
      refine ⟨_, makes, spares, ?_⟩
      simp only [Handle.abandoned, List.append_nil]
      exact released.tally
    | error error =>
      have told : Makes [] system.machine
          (system.machine.emit (.threadFailed "drop" error.message)) := .nothing rfl rfl
      have abandoned := abandon_balances name idle told (fun _ => rfl) has
      refine ⟨[], told, fun _ => rfl, ?_⟩
      simp only [Handle.abandoned, has]
      exact abandoned.tally

theorem thread_balances (accounts : Accounts system) (block : Nat) (answers : HeapAnswers) :
    ∃ made, Balances system made (system.threadStep block answers) := by
  have held := @held_threadStep system block answers
  rcases System.threadStep_cases block answers system with
    ⟨same, -⟩ | ⟨thread, stage, after, -, stepped, same⟩
  · rw [same]
    exact ⟨[], .nothing accounts rfl rfl⟩
  · obtain ⟨⟨made, asks, makes⟩, spares⟩ := step_modest stepped
    rw [same] at held ⊢
    refine ⟨made, .still accounts ⟨asks, ?_⟩ ?_ held⟩
    · rw [System.machine_withStage]
      exact makes
    · rw [System.machine_withStage]
      exact spares

theorem step_balances (accounts : Accounts system) (lawful : move.Lawful system)
    (avoids : move.AvoidsArenas system) : ∃ made, Balances system made (system.step move).1 := by
  cases move with
  | call name call =>
    cases waiting : system.joining name with
    | some joining =>
      have refused : (system.step (.call name call)).1 = system := by simp [System.step, waiting]
      rw [refused]
      exact ⟨[], .nothing accounts rfl rfl⟩
    | none =>
      rw [System.step_call waiting]
      exact call_balances accounts lawful avoids
  | thread block answers => exact thread_balances accounts block answers
  | wake block =>
    obtain ⟨wakes, joining, same⟩ := System.wake_eq block system
    rw [System.step, same]
    exact ⟨[], .nothing accounts rfl rfl⟩
  | join name now refusal =>
    rcases System.joinStep_cases name now refusal system with
      ⟨⟨waits, same⟩, -⟩ | ⟨joining, result, waiting, -, -, same⟩
    · rw [System.step, same]
      exact ⟨[], .nothing accounts rfl rfl⟩
    · rw [System.step, same]
      exact finish_balances accounts waiting joining.purpose result
  | rouse name outcome => exact ⟨[], .nothing accounts rfl rfl⟩

end

end ArenaThreads

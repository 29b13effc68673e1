import ArenaThreads.Proofs.Process.Moves
import ArenaThreads.Proofs.Registry.Lookup
/-!
The registry over the whole history of a process: it lists the control blocks of all handles that
have memory, and of the handles that were dropped while their thread could not be waited for, and
it finds the block of the thread that runs at an address.
-/

namespace ArenaThreads

/-- A drop that has waited for its thread in vain leaves this memory to nobody. -/
def Move.Leaks (memory : ThreadMemory) (system : System) : Move → Prop
  | .join name _ _ => ∃ joining error, system.joining name = some joining ∧
      joining.Ends .drop (.error error) ∧ (system.handles name).memory = some memory
  | _ => False

def System.Leaks (memory : ThreadMemory) : List Move → System → Prop
  | [], _ => False
  | move :: rest, system => move.Leaks memory system ∨ Leaks memory rest (system.step move).1

section

variable {owner other : Owner} {held : Holdings} {memory further : ThreadMemory}
  {machine : Machine} {address : Nat}

theorem Ownership.alone (sound : Ownership held machine) (mine : held owner = some memory)
    (theirs : held other = some further)
    (holds : (machine.blocks memory.block).holds address = true)
    (meets : (machine.blocks further.block).holds address = true) :
    memory.block = further.block := by
  by_contra different
  have home := sound.housed mine
  have house := sound.housed theirs
  have apart : owner ≠ other := by
    rintro rfl
    cases mine.symm.trans theirs
    exact different rfl
  have here := (home.holds address).mp holds
  have there := (house.holds address).mp meets
  have outside := Region.stacks_apart home.placed house.placed (sound.apart apart mine theirs)
    here.1 (Nat.le_of_lt here.2)
  simp only [ThreadMemory.block] at there
  omega

theorem Ownership.members_alone (sound : Ownership held machine) (address : Nat) :
    ∀ first ∈ machine.registry.members machine.blocks,
      ∀ second ∈ machine.registry.members machine.blocks,
        (machine.blocks first).holds address = true →
          (machine.blocks second).holds address = true → first = second := by
  intro first listed second further holds meets
  obtain ⟨owner, memory, mine, rfl⟩ := (sound.members first).mp listed
  obtain ⟨other, memory, theirs, rfl⟩ := (sound.members second).mp further
  exact sound.alone mine theirs holds meets

theorem Ownership.finds (sound : Ownership held machine) (mine : held owner = some memory)
    (low : memory.region.stackLow ≤ address) (high : address < memory.block) :
    machine.registry.lookup address machine.blocks = some memory.block := by
  rw [Registry.lookup_eq_some_iff sound.linked (sound.members_alone address)]
  exact ⟨sound.listed mine, ((sound.housed mine).holds address).mpr ⟨low, high⟩⟩

end

/-! What is leaked -/

section

variable {system : System} {memory : ThreadMemory}

theorem System.abandoned_withStage (block : Nat) (stage : Option Stage) :
    (system.withStage block stage).abandoned = system.abandoned := by
  cases stage <;> rfl

theorem threadStep_abandoned (block : Nat) (answers : HeapAnswers) :
    (system.threadStep block answers).abandoned = system.abandoned := by
  rcases System.threadStep_cases block answers system with ⟨same, -⟩ | ⟨_, stage, _, -, -, same⟩
  · rw [same]
  · rw [same]
    exact System.abandoned_withStage block stage

theorem call_abandoned (name : Nat) (call : Call) :
    (system.call name call).1.abandoned = system.abandoned := by
  cases call with
  | create request caller answers => rfl
  | start caller answers =>
    simp only [System.call, System.start]
    split <;> rfl
  | stop timeout now =>
    simp only [System.call, System.stop]
    split <;> rfl
  | destroy => rfl
  | drop =>
    simp only [System.call, System.drop]
    split <;> rfl

theorem finish_abandoned {name : Nat} {purpose : JoinPurpose} {result : Except Error Unit} :
    memory ∈ (system.finish name purpose result).1.abandoned ↔
      memory ∈ system.abandoned ∨
        purpose = .drop ∧ (∃ error, result = .error error) ∧
          (system.handles name).memory = some memory := by
  unfold System.finish
  cases purpose with
  | stop => simp [System.withHandle, System.withJoining]
  | drop =>
    cases result with
    | ok done => simp [System.withHandle, System.withJoining, Handle.abandoned]
    | error error => simp [System.withHandle, System.withJoining, Handle.abandoned]

theorem join_abandoned (name : Nat) (now : Instant) (refusal : Option OsError) :
    memory ∈ (system.joinStep name now refusal).1.abandoned ↔
      memory ∈ system.abandoned ∨ (Move.join name now refusal).Leaks memory system := by
  rcases System.joinStep_cases name now refusal system with
    ⟨⟨waits, same⟩, going⟩ | ⟨joining, result, waiting, awake, phase, same⟩
  · have nothing : ¬(Move.join name now refusal).Leaks memory system := by
      rintro ⟨joining, error, waiting, ⟨-, awake, phase⟩, -⟩
      exact going joining _ waiting awake phase
    rw [same]
    exact (or_iff_left nothing).symm
  · rw [same, finish_abandoned]
    apply or_congr_right
    constructor
    · rintro ⟨drop, ⟨error, rfl⟩, has⟩
      exact ⟨joining, error, waiting, ⟨drop, awake, phase⟩, has⟩
    · rintro ⟨ended, error, there, ⟨drop, -, failed⟩, has⟩
      cases waiting.symm.trans there
      cases phase.symm.trans failed
      exact ⟨drop, ⟨error, rfl⟩, has⟩

theorem step_abandoned (move : Move) :
    memory ∈ (system.step move).1.abandoned ↔
      memory ∈ system.abandoned ∨ move.Leaks memory system := by
  cases move with
  | call name call =>
    simp only [System.step, Move.Leaks, or_false]
    split
    · rfl
    · rw [call_abandoned]
  | thread block answers => simp [System.step, Move.Leaks, threadStep_abandoned]
  | wake block =>
    obtain ⟨wakes, joining, same⟩ := System.wake_eq block system
    simp [System.step, Move.Leaks, same]
  | join name now refusal => exact join_abandoned name now refusal
  | rouse name outcome => simp [System.step, Move.Leaks, System.rouse, System.withJoining]

theorem run_abandoned (moves : List Move) :
    memory ∈ (system.run moves).abandoned ↔
      memory ∈ system.abandoned ∨ System.Leaks memory moves system := by
  induction moves generalizing system with
  | nil => simp [System.run, System.Leaks]
  | cons move rest ih =>
    rw [System.run_cons, ih, step_abandoned, System.Leaks, or_assoc]

end

/-! The registry of a process -/

structure Registered (system : System) (leaked : ThreadMemory → Prop) : Prop where
  links : Registry.Links system.machine.blocks system.machine.registry.head
    (system.machine.registry.members system.machine.blocks)
  distinct : (system.machine.registry.members system.machine.blocks).Nodup
  count : system.machine.registry.live =
    (system.machine.registry.members system.machine.blocks).length
  furnished : ∀ name, system.handles name ≠ .empty →
    ∃ memory, (system.handles name).memory = some memory
  members : ∀ block, block ∈ system.machine.registry.members system.machine.blocks ↔
    (∃ name memory, system.handles name ≠ .empty ∧ (system.handles name).memory = some memory ∧
      memory.block = block) ∨ ∃ memory, leaked memory ∧ memory.block = block
  alone : ∀ address, ∀ first ∈ system.machine.registry.members system.machine.blocks,
    ∀ second ∈ system.machine.registry.members system.machine.blocks,
      (system.machine.blocks first).holds address = true →
        (system.machine.blocks second).holds address = true → first = second
  found : ∀ address block,
    system.machine.registry.lookup address system.machine.blocks = some block ↔
      block ∈ system.machine.registry.members system.machine.blocks ∧
        (system.machine.blocks block).holds address = true
  missed : ∀ address,
    system.machine.registry.lookup address system.machine.blocks = none ↔
      ∀ block ∈ system.machine.registry.members system.machine.blocks,
        (system.machine.blocks block).holds address = false
  walked : ∀ address result,
    Registry.Walk system.machine.blocks address system.machine.registry.head result ↔
      system.machine.registry.lookup address system.machine.blocks = result

theorem Sound.members_iff {system : System} {leaked : ThreadMemory → Prop} (sound : Sound system)
    (left : ∀ memory, memory ∈ system.abandoned ↔ leaked memory) (block : Nat) :
    block ∈ system.machine.registry.members system.machine.blocks ↔
      (∃ name memory, system.handles name ≠ .empty ∧ (system.handles name).memory = some memory ∧
        memory.block = block) ∨ ∃ memory, leaked memory ∧ memory.block = block := by
  rw [sound.ownership.members]
  constructor
  · rintro ⟨owner, memory, mine, same⟩
    cases owner with
    | handle name =>
      have has : (system.handles name).memory = some memory := mine
      have filled : system.handles name ≠ .empty := by
        intro empty
        rw [empty] at has
        cases has
      exact Or.inl ⟨name, memory, filled, has, same⟩
    | abandoned index =>
      have there : memory ∈ system.abandoned := List.mem_of_getElem? mine
      exact Or.inr ⟨memory, (left memory).mp there, same⟩
  · rintro (⟨name, memory, -, has, same⟩ | ⟨memory, leak, same⟩)
    · exact ⟨.handle name, memory, has, same⟩
    · obtain ⟨index, there⟩ := List.mem_iff_getElem?.mp ((left memory).mpr leak)
      exact ⟨.abandoned index, memory, there, same⟩

/-- After any history the registry lists what it should, and finds it. -/
theorem registry_lists_owned {system : System} {moves : List Move} (fresh : system.Fresh)
    (lawful : System.LawfulRun moves system) :
    Registered (system.run moves) fun memory => System.Leaks memory moves system := by
  have sound := run_sound (.fresh fresh) lawful
  have linked := sound.ownership.linked
  have left (memory : ThreadMemory) :
      memory ∈ (system.run moves).abandoned ↔ System.Leaks memory moves system := by
    rw [run_abandoned, fresh.abandoned]
    simp
  have furnished (name : Nat) (filled : (system.run moves).handles name ≠ .empty) :
      ∃ memory, ((system.run moves).handles name).memory = some memory := by
    obtain ⟨state, represents⟩ := sound.handles name
    apply Option.ne_none_iff_exists'.mp
    intro nothing
    exact filled (Handle.empty_of_no_memory represents nothing)
  constructor
  · exact linked.links
  · exact linked.distinct
  · exact linked.count.symm
  · exact furnished
  · exact sound.members_iff left
  · exact sound.ownership.members_alone
  · intro address block
    exact Registry.lookup_eq_some_iff linked (sound.ownership.members_alone address)
  · intro address
    exact Registry.lookup_eq_none_iff linked
  · intro address result
    exact Registry.walk_iff_lookup linked

theorem registry_lists_owned_leaked :
    let moves : List Move := [.createAt 0 65536 7, .createAt 1 (2 ^ 40) 9, .startAs 0 12,
      .call 0 .drop, .join 0 ⟨0⟩ none, .join 0 ⟨0⟩ (some .outOfMemory), .join 0 ⟨0⟩ none]
    System.LawfulRun moves {} ∧
      Registered (System.run moves {}) (fun memory => System.Leaks memory moves {}) ∧
      ∃ memory, System.Leaks memory moves {} ∧
        (System.run moves {}).machine.registry.lookup (memory.block - 1)
          (System.run moves {}).machine.blocks = some memory.block := by
  intro moves
  have fresh : System.Fresh {} := ⟨fun _ => rfl, rfl, rfl, fun _ => rfl, rfl, rfl⟩
  have first : (MemoryAnswers.upTo 65536 (2 ^ 30)).Lawful {} :=
    MemoryAnswers.upTo_lawful (by decide) (by decide) (by simp)
  have mapped : (System.run [.createAt 0 65536 7] {}).machine.mappings = [⟨65536, 331776⟩] := rfl
  have second : (MemoryAnswers.upTo (2 ^ 40) (2 ^ 30)).Lawful
      (System.run [.createAt 0 65536 7] {}).machine := by
    apply MemoryAnswers.upTo_lawful (by decide) (by decide)
    rw [mapped]
    simp [Mapping.Apart]
  have lawful : System.LawfulRun moves {} :=
    ⟨first, second, ⟨by decide, by decide⟩, trivial, trivial, trivial, trivial, trivial⟩
  have registered := registry_lists_owned fresh lawful
  obtain ⟨memory, has⟩ : ∃ memory, ((System.run (moves.take 6) {}).handles 0).memory = some memory :=
    ⟨_, rfl⟩
  have leaked : System.Leaks memory moves {} :=
    Or.inr <| Or.inr <| Or.inr <| Or.inr <| Or.inr <| Or.inr <| Or.inl
      ⟨_, .wait .outOfMemory, rfl, ⟨rfl, rfl, rfl⟩, has⟩
  refine ⟨lawful, registered, memory, leaked, ?_⟩
  apply (registered.found _ _).mpr
  refine ⟨(registered.members _).mpr (Or.inr ⟨memory, leaked, rfl⟩), ?_⟩
  cases has
  decide

end ArenaThreads

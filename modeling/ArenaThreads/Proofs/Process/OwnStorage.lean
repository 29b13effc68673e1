import ArenaThreads.Proofs.Process.Absence
/-!
What a function on a thread has of the storage of its region: its allocator hands out all of that but
the context copy, and nothing of what others have; and for others it is as if the function did not
run.
-/

namespace ArenaThreads

structure SelfContained (region : Region) (thread : RuntimeThread) (rest : Routine)
    (system : System) : Prop where
  own : ∀ caller : Caller, region.stackLow ≤ caller.stack → caller.stack < region.block →
    system.machine.current caller = region.copy ∧
      system.machine.allocator caller = .arena region.block
  answers : ∀ allocator target oldSize newSize next,
    rest = .resize allocator target oldSize newSize next → allocator = .arena region.block ∧
      ∀ heap, (∀ place,
          (system.machine.resize allocator target oldSize newSize heap).1 = some place →
            region.copy + Context.size ≤ place ∧
              place + newSize ≤ region.storageStart + region.storage) ∧
        ((system.machine.resize allocator target oldSize newSize heap).1 = none ↔
          newSize = 0 ∨ ¬(system.machine.arenas region.block).HasRoom target oldSize newSize)
  fills : ∀ allocator size next, rest = .fillUp allocator size next →
    allocator = .arena region.block ∧
      (∀ index, index < (system.machine.fillUp allocator size).1 →
        region.copy + Context.size ≤ (system.machine.arenas region.block).nth index size ∧
          (system.machine.arenas region.block).nth index size + size ≤
            region.storageStart + region.storage) ∧
      ∀ heap, ((system.machine.fillUp allocator size).2.resize allocator none 0 size heap).1 = none
  steps : ∀ heap stage after, thread.step heap system.machine = some (stage, after) →
    Inside region system.machine after
  absent : ∀ moves, System.LawfulRun moves system → (∀ move ∈ moves, move.Orderly) →
    system.Busy region moves →
      Besides region (system.run (moves.filter fun move => ¬move.Steps region.block))
        (system.run moves)

section

variable {region : Region} {machine : Machine} {estate : Estate} {target : Option Nat}
  {oldSize newSize size index : Nat} {heap : HeapAnswers}

theorem Serves.answer_placed (serves : Serves region estate machine)
    (furnished : Furnished region machine) {place : Nat} (names : estate.Names target oldSize)
    (answered : ((machine.arenas region.block).resize target oldSize newSize).block = some place) :
    region.copy + Context.size ≤ place ∧ place + newSize ≤ region.storageStart + region.storage := by
  obtain ⟨inside, further⟩ := serves.resize furnished newSize names
  have positive : newSize ≠ 0 := by
    rintro rfl
    cases answered
  have member : (⟨place, newSize⟩ : Arena.Block) ∈ (estate.resize target oldSize newSize
      ((machine.arenas region.block).resize target oldSize newSize).block).live := by
    simp only [Estate.resize, Arena.Block.afterResize, if_neg positive, answered]
    exact List.mem_cons_self
  have kept := further.kept.sublist (List.singleton_sublist.mpr List.mem_cons_self)
  exact further.placed (furnished.inside inside kept rfl) member

theorem Serves.answers (serves : Serves region estate machine) (furnished : Furnished region machine)
    (names : estate.Names target oldSize) (real : region.block ≠ 0) (heap : HeapAnswers) :
    (∀ place, (machine.resize (.arena region.block) target oldSize newSize heap).1 = some place →
      region.copy + Context.size ≤ place ∧ place + newSize ≤ region.storageStart + region.storage) ∧
    ((machine.resize (.arena region.block) target oldSize newSize heap).1 = none ↔
      newSize = 0 ∨ ¬(machine.arenas region.block).HasRoom target oldSize newSize) := by
  rw [resize_arena real]
  refine ⟨fun place => serves.answer_placed furnished names, ?_⟩
  by_cases frees : newSize = 0
  · subst frees
    simp only [true_or, iff_true]
    rfl
  · have started : (machine.arenas region.block).start ≠ 0 := by
      have used := furnished.used
      simp only [Context.size] at used
      omega
    rw [or_iff_right frees]
    exact serves.kept.resize_none_iff frees started fun address member =>
      List.mem_cons_of_mem _ (names address member)

theorem Serves.fills (furnished : Furnished region machine) (real : region.block ≠ 0) (size : Nat) :
    (∀ index, index < (machine.fillUp (.arena region.block) size).1 →
      region.copy + Context.size ≤ (machine.arenas region.block).nth index size ∧
        (machine.arenas region.block).nth index size + size ≤
          region.storageStart + region.storage) ∧
    ∀ heap, ((machine.fillUp (.arena region.block) size).2.resize (.arena region.block) none 0 size
      heap).1 = none := by
  have used := furnished.used
  have limit := furnished.limit
  constructor
  · intro index counted
    obtain ⟨low, high⟩ := Arena.nth_inside counted
    exact ⟨Nat.le_trans used low, limit ▸ high⟩
  · intro heap
    rw [resize_arena real]
    have full := Arena.takeAll_full size (machine.arenas region.block)
    simp only [Machine.fillUp, Allocator.arena, Cells.set_same, Arena.resize]
    split
    · rfl
    · exact full

end

variable {system : System} {moves : List Move} {block : Nat} {thread : RuntimeThread}
  {rest : Routine}

theorem Enclosed.selfContained (enclosed : Enclosed system)
    (found : system.threadAt? block = some thread) (running : thread.stage = .running rest) :
    SelfContained thread.region thread rest system := by
  have place := System.threadAt?_block found
  obtain ⟨estate, tidy, serves⟩ := enclosed.running found running
  have current := fun caller => @Enclosed.current_copy system block thread enclosed caller found
    (by rw [running]; nofun)
  obtain ⟨owner, memory, mine, rfl⟩ := enclosed.sound.owned found
  have equipped := enclosed.equipped mine found
  have furnished := equipped.furnished
  have real := Region.block_real equipped.placed
  rw [← equipped.region] at furnished real
  refine ⟨?_, ?_, ?_, ?_, ?_⟩
  · intro caller low high
    have shown := current caller low (place ▸ high)
    refine ⟨shown, ?_⟩
    rw [Machine.allocator, shown, furnished.copied]
  · rintro allocator target oldSize newSize next rfl
    obtain ⟨asked, names, -⟩ := tidy
    obtain rfl := serves.allocators allocator asked
    exact ⟨rfl, serves.answers furnished names real⟩
  · rintro allocator size next rfl
    obtain ⟨asked, -⟩ := tidy
    obtain rfl := serves.allocators allocator asked
    exact ⟨rfl, Serves.fills furnished real size⟩
  · intro heap stage after stepped
    exact (enclosed.advance found stepped).1
  · intro moves lawful orderly busy
    have there : system.threadAt? thread.region.block = some thread := by
      rw [equipped.region]
      exact found
    have infunction : system.InFunction thread.region := ⟨thread, rest, there, rfl, running⟩
    exact (Besides.refl thread.region system).run enclosed infunction lawful orderly busy

/-- Whatever contexts threads are created with, whatever their storage, and in whatever order they run:
if all of them run tidy functions, each of these has all of its storage and nothing else. -/
theorem storage_self_contained (fresh : system.Fresh) (lawful : System.LawfulRun moves system)
    (orderly : ∀ move ∈ moves, move.Orderly)
    (found : (system.run moves).threadAt? block = some thread)
    (running : thread.stage = .running rest) :
    SelfContained thread.region thread rest (system.run moves) :=
  ((Enclosed.fresh fresh).run lawful orderly).selfContained found running

def System.twoTidy : List Move :=
  [.call 0 (.create ⟨.sum, 3, some ⟨.arena 4096⟩, {}⟩ ⟨0, 0⟩ (.upTo 65536 (2 ^ 19))),
    .call 1 (.create ⟨.exhaust, 64, some ⟨.arena 331520⟩, {}⟩ ⟨0, 0⟩ (.upTo (2 ^ 20) (2 ^ 19))),
    .startAs 0 11, .startAs 1 12,
    .thread 331520 fun _ => none, .thread 1314560 fun _ => none,
    .thread 331520 fun _ => none, .thread 1314560 fun _ => none,
    .thread 331520 fun _ => none, .thread 1314560 fun _ => none,
    .thread 331520 fun _ => none, .thread 1314560 fun _ => none]

def System.twoServed : List Move := [.thread 331520 fun _ => none, .thread 1314560 fun _ => none]

def RuntimeThread.requests (thread : RuntimeThread) : Bool :=
  match thread.stage with
  | .running (.resize ..) => true
  | _ => false

def RuntimeThread.looks (thread : RuntimeThread) : Bool :=
  match thread.stage with
  | .running (.read ..) => true
  | _ => false

theorem storage_self_contained_two : ∃ thread rest,
    (System.run System.twoTidy {}).threadAt? 331520 = some thread ∧
      thread.stage = .running rest ∧
      SelfContained thread.region thread rest (System.run System.twoTidy {}) ∧
      Besides thread.region
        ((System.run System.twoTidy {}).run
          (System.twoServed.filter fun move => ¬move.Steps thread.region.block))
        ((System.run System.twoTidy {}).run System.twoServed) := by
  have fresh : System.Fresh {} := ⟨fun _ => rfl, rfl, rfl, fun _ => rfl, rfl, rfl⟩
  have lawful : System.LawfulRun System.twoTidy {} := by
    refine ⟨MemoryAnswers.upTo_lawful (by decide) (by decide) (by simp),
      MemoryAnswers.upTo_lawful (by decide) (by decide) ?_, ⟨by decide, by decide⟩,
      ⟨by decide, by decide⟩, System.lawful_of_any ?_⟩
    · have mapped : (System.run (System.twoTidy.take 1) {}).machine.mappings = [⟨65536, 331776⟩] := rfl
      intro other found
      obtain rfl := List.mem_singleton.mp (mapped ▸ found)
      exact Or.inr (by decide)
    · simp [Move.Lawful]
  have orderly : ∀ move ∈ System.twoTidy, move.Orderly := by
    have ends {base : Nat} (low : base + 2 ^ 19 < wordLimit) (length place : Nat)
        (answered : (MemoryAnswers.upTo base (2 ^ 19)).map length = .ok place) :
        place + length < wordLimit :=
      Nat.lt_of_le_of_lt (MemoryAnswers.upTo_ends answered) low
    simp only [System.twoTidy, List.forall_mem_cons]
    exact ⟨⟨ThreadFunction.sum_tidy (by decide), ends (by decide)⟩,
      ⟨ThreadFunction.exhaust_tidy 64, ends (by decide)⟩, trivial, trivial, trivial, trivial, trivial,
      trivial, trivial, trivial, trivial, trivial, List.forall_mem_nil _⟩
  -- The thread is about to ask for its block, and the other one looks at no memory after that.
  have asks : ((System.run System.twoTidy {}).threadAt? 331520).any RuntimeThread.requests =
      true := by decide +kernel
  have blind : ((System.run (System.twoTidy ++ [.thread 331520 fun _ => none]) {}).threadAt?
      1314560).all (fun thread => !thread.looks) = true := by decide +kernel
  obtain ⟨thread, found, stage⟩ := (Option.any_eq_true _ _).mp asks
  rw [RuntimeThread.requests] at stage
  split at stage
  case h_2 => cases stage
  case h_1 allocator target oldSize newSize next running =>
    have contained := storage_self_contained fresh lawful orderly found running
    have place : thread.region.block = 331520 := System.threadAt?_block found
    refine ⟨thread, _, found, running, contained, contained.absent _ ?_ ?_ ?_⟩
    · exact ⟨trivial, trivial, trivial⟩
    · simp [System.twoServed, Move.Orderly]
    · refine ⟨?_, fun other => absurd place.symm other, ?_, ?_, trivial⟩
      · intro _ known rest there runs
        rw [place] at there
        cases there.symm.trans found
        cases runs.symm.trans running
        simp
      · intro steps
        have same : 1314560 = thread.region.block := steps
        omega
      · intro _ known first length further there reads
        rw [System.run_append] at blind
        have told := (Option.all_eq_true _ _).mp blind known there
        simp [RuntimeThread.looks, reads] at told

end ArenaThreads

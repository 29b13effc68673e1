import ArenaThreads.Proofs.Allocator.Containment
/-!
The heap and an arena are interchangeable: a program that gets all the memory it asks for sees the
same on both, because it sees what it would see of blocks that know nothing but their own bytes.
-/

namespace ArenaThreads

open Arena (Block)

/-! Blocks that know nothing but their own bytes -/

structure Contents where
  size : Nat
  bytes : Cells Nat (Option UInt8)

structure Ideal where
  blocks : Cells Nat (Option Contents) := fun _ => none
  seen : List Observation := []

def Contents.resized (size : Nat) (had : Option Contents) : Contents :=
  ⟨size, fun i => had.bind fun contents =>
    if i < min contents.size size then contents.bytes i else none⟩

def Contents.written (offset : Nat) (byte : UInt8) (contents : Contents) : Contents :=
  { contents with bytes := contents.bytes.set offset (some byte) }

namespace Ideal

def asked? (ideal : Ideal) (step : ClientStep) : Option Nat :=
  step.asked? (ideal.blocks step.name).isSome

def request (name size : Nat) (ideal : Ideal) : Ideal where
  blocks := ideal.blocks.set name
    (if size = 0 then none else some (.resized size (ideal.blocks name)))
  seen := ideal.seen ++ [.answered (size ≠ 0)]

def touch (ideal : Ideal) : ClientStep → Ideal
  | .write name offset byte =>
    match ideal.blocks name with
    | none => ideal
    | some contents =>
      { ideal with blocks := ideal.blocks.set name (some (contents.written offset byte)) }
  | .read name offset =>
    match (ideal.blocks name).bind fun contents => contents.bytes offset with
    | none => ideal
    | some byte => { ideal with seen := ideal.seen ++ [.byte byte] }
  | _ => ideal

def step (step : ClientStep) (ideal : Ideal) : Ideal :=
  match ideal.asked? step with
  | some size => ideal.request step.name size
  | none => ideal.touch step

/-- A step that a program may make: it names a new block by a name that is free, uses only blocks that
are there, and reads only bytes that have been written and not been cut off since. -/
def Proper (ideal : Ideal) : ClientStep → Prop
  | .alloc name _ => ideal.blocks name = none
  | .realloc name _ | .free name => (ideal.blocks name).isSome
  | .write name offset _ => ∃ contents ∈ ideal.blocks name, offset < contents.size
  | .read name offset => ∃ contents ∈ ideal.blocks name,
      offset < contents.size ∧ (contents.bytes offset).isSome

instance (ideal : Ideal) : (step : ClientStep) → Decidable (ideal.Proper step)
  | .alloc name _ => decidable_of_iff ((ideal.blocks name).isNone = true) Option.isNone_iff_eq_none
  | .realloc name _ | .free name => inferInstanceAs (Decidable ((ideal.blocks name).isSome = true))
  | .write name offset _ =>
    inferInstanceAs (Decidable (∃ contents ∈ ideal.blocks name, offset < contents.size))
  | .read name offset =>
    inferInstanceAs (Decidable (∃ contents ∈ ideal.blocks name,
      offset < contents.size ∧ (contents.bytes offset).isSome = true))

def ProperRun : List ClientStep → Ideal → Prop
  | [], _ => True
  | step :: rest, ideal => ideal.Proper step ∧ ProperRun rest (ideal.step step)

instance decidableProperRun : (program : List ClientStep) → (ideal : Ideal) →
    Decidable (ProperRun program ideal)
  | [], _ => inferInstanceAs (Decidable True)
  | step :: rest, ideal =>
    have : Decidable (ProperRun rest (ideal.step step)) := decidableProperRun rest _
    inferInstanceAs (Decidable (ideal.Proper step ∧ _))

end Ideal

/-- A client sees of its blocks what there is to see of ideal ones. -/
structure Ideal.Mirrors (ideal : Ideal) (client : Client) : Prop where
  seen : client.seen = ideal.seen
  sizes : ∀ name, (client.blocks name).map Block.size = (ideal.blocks name).map Contents.size
  bytes : ∀ name, ∀ contents ∈ ideal.blocks name, ∀ block ∈ client.blocks name,
    ∀ i, i < block.size → ∀ byte ∈ contents.bytes i, client.machine.memory (block.address + i) = byte

namespace Client

variable {allocator : Allocator} {heap : Machine → HeapAnswers} {client : Client} {step : ClientStep}
  {size : Nat} {program : List ClientStep} {ideal : Ideal} {live : List Block}
  {Holds Gives : ClientStep → Client → Prop}

/-! Steps -/

theorem mirrors_asked (mirrors : ideal.Mirrors client) (step : ClientStep) :
    ideal.asked? step = client.asked? step := by
  have same := congrArg Option.isSome (mirrors.sizes step.name)
  simp only [Option.isSome_map] at same
  rw [Ideal.asked?, Client.asked?, same]

theorem mirrors_block (mirrors : ideal.Mirrors client) {name : Nat} {contents : Contents}
    (has : ideal.blocks name = some contents) :
    ∃ block, client.blocks name = some block ∧ block.size = contents.size := by
  have sizes := mirrors.sizes name
  rw [has] at sizes
  exact Option.map_eq_some_iff.mp sizes

theorem mirrors_request (mirrors : ideal.Mirrors client) (sound : client.Sound)
    (serves : Serves allocator heap step client) (granted : Granted allocator heap step client)
    (asks : client.asked? step = some size) :
    (ideal.request step.name size).Mirrors (client.step allocator heap step) := by
  have contained := contained sound serves
  have elsewhere {name : Nat} (different : name ≠ step.name) :
      (ideal.request step.name size).blocks name = ideal.blocks name := Cells.set_other _ _ different
  have here : (ideal.request step.name size).blocks step.name =
      if size = 0 then none else some (.resized size (ideal.blocks step.name)) := Cells.set_same ..
  constructor
  · rw [step_request asks]
    simp only [request, Ideal.request, mirrors.seen]
    by_cases zero : size = 0
    · subst zero
      simp [(serves 0 asks).zero rfl]
    · simp [granted size asks zero, zero]
  · intro name
    by_cases own : name = step.name
    · subst own
      rw [here]
      by_cases zero : size = 0
      · subst zero
        rw [(contained.zero asks).2]
        rfl
      · obtain ⟨fresh, given⟩ := Option.isSome_iff_exists.mp (granted size asks zero)
        rw [contained.given size asks fresh given, if_neg zero]
        rfl
    · rw [contained.names name own, elsewhere own]
      exact mirrors.sizes name
  · intro name contents has block mine i inside byte written
    by_cases own : name = step.name
    · subst own
      rw [here] at has
      by_cases zero : size = 0
      · rw [if_pos zero] at has
        cases has
      · rw [if_neg zero] at has
        cases has
        obtain ⟨before, had, kept⟩ := Option.bind_eq_some_iff.mp written
        obtain ⟨low, within⟩ := Option.ite_none_right_eq_some.mp kept
        obtain ⟨older, there, sizes⟩ := mirrors_block mirrors had
        obtain ⟨fresh, given⟩ := Option.isSome_iff_exists.mp (granted size asks zero)
        have resized := contained.resized size asks older there block mine i
        rw [contained.given size asks fresh given] at mine
        cases mine
        rw [resized (by omega)]
        exact mirrors.bytes step.name before had older there i (by omega) byte within
    · rw [elsewhere own] at has
      rw [contained.names name own] at mine
      rw [contained.others name block own mine i inside]
      exact mirrors.bytes name contents has block mine i inside byte written

theorem mirrors_write (mirrors : ideal.Mirrors client) (sound : client.Sound) {name offset : Nat}
    {byte : UInt8} (proper : ideal.Proper (.write name offset byte)) :
    (ideal.touch (.write name offset byte)).Mirrors (client.touch (.write name offset byte)) := by
  obtain ⟨contents, has, within⟩ := proper
  obtain ⟨block, mine, sizes⟩ := mirrors_block mirrors has
  have inside : offset < block.size := by omega
  have seen : (ideal.touch (.write name offset byte)).seen = ideal.seen ∧
      (client.touch (.write name offset byte)).seen = client.seen := by
    simp [Ideal.touch, Client.touch, Option.mem_def.mp has, mine, inside]
  have memory : (client.touch (.write name offset byte)).machine.memory =
      client.machine.memory.write (block.address + offset) 1 fun _ => byte := by
    simp only [Client.touch, mine, if_pos inside]
  have ideals : (ideal.touch (.write name offset byte)).blocks =
      ideal.blocks.set name (some (contents.written offset byte)) := by
    simp only [Ideal.touch, Option.mem_def.mp has]
  have blocks := (touch_rest client (.write name offset byte)).1
  constructor
  · rw [seen.1, seen.2, mirrors.seen]
  · intro other
    rw [blocks, ideals]
    by_cases own : other = name
    · subst own
      rw [Cells.set_same, mine]
      exact congrArg some sizes
    · rw [Cells.set_other _ _ own]
      exact mirrors.sizes other
  · intro other further there theirs holds i low value known
    rw [blocks] at holds
    rw [ideals] at there
    by_cases own : other = name
    · subst own
      rw [Cells.set_same] at there
      cases there
      cases mine.symm.trans holds
      rw [memory]
      by_cases same : i = offset
      · subst same
        cases (Cells.set_same contents.bytes i (some byte)).symm.trans known
        exact Memory.write_inside _ _ (Nat.le_refl _) (Nat.lt_succ_self _)
      · have older : contents.bytes i = some value :=
          (Cells.set_other contents.bytes (some byte) same).symm.trans known
        apply (Memory.write_outside _ _ (by omega)).trans
        exact mirrors.bytes other contents has block mine i low value older
    · rw [Cells.set_other _ _ own] at there
      -- The byte is in one block only, which is not this one.
      have kept := touch_bytes sound (.write name offset byte) (sound.listed holds)
        (sound.alone own holds)
      rw [kept i low]
      exact mirrors.bytes other further there theirs holds i low value known

theorem mirrors_touch (mirrors : ideal.Mirrors client) (sound : client.Sound)
    (proper : ideal.Proper step) : (ideal.touch step).Mirrors (client.touch step) := by
  cases step with
  | write name offset byte => exact mirrors_write mirrors sound proper
  | read name offset =>
    obtain ⟨contents, has, within, there⟩ := proper
    obtain ⟨byte, written⟩ := Option.isSome_iff_exists.mp there
    obtain ⟨block, mine, sizes⟩ := mirrors_block mirrors has
    have inside : offset < block.size := by omega
    have reads := mirrors.bytes name contents has block mine offset inside byte written
    simp only [Ideal.touch, Client.touch, Option.mem_def.mp has, mine, if_pos inside,
      Option.bind_some, written, reads]
    constructor
    · rw [mirrors.seen]
    · exact mirrors.sizes
    · exact mirrors.bytes
  | _ => exact mirrors

theorem mirrors_step (mirrors : ideal.Mirrors client) (sound : client.Sound)
    (serves : Serves allocator heap step client) (granted : Granted allocator heap step client)
    (proper : ideal.Proper step) :
    (ideal.step step).Mirrors (client.step allocator heap step) := by
  have same := mirrors_asked mirrors step
  cases asks : client.asked? step with
  | none =>
    rw [step_touch asks, Ideal.step, same, asks]
    exact mirrors_touch mirrors sound proper
  | some size =>
    rw [Ideal.step, same, asks]
    exact mirrors_request mirrors sound serves granted asks

/-! Runs -/

theorem Throughout.imp (Keeps : Client → Prop) (kept : Keeps client)
    (holds : Throughout allocator heap Holds program client)
    (gives : ∀ step client, Keeps client → Holds step client →
      Gives step client ∧ Keeps (client.step allocator heap step)) :
    Throughout allocator heap Gives program client := by
  induction program generalizing client with
  | nil => trivial
  | cons step rest ih =>
    obtain ⟨now, later⟩ := gives step client kept holds.1
    exact ⟨now, ih later holds.2⟩

theorem Throughout.mono (holds : Throughout allocator heap Holds program client)
    (implies : ∀ step client, Holds step client → Gives step client) :
    Throughout allocator heap Gives program client := by
  apply Throughout.imp (fun _ => True) trivial holds
  intro step client _ now
  exact ⟨implies step client now, trivial⟩

/-- A client that is served and gets all it asks for sees what there is to see of ideal blocks. -/
theorem run_mirrors (mirrors : ideal.Mirrors client)
    (served : Throughout allocator heap
      (fun step client => client.Sound ∧ Serves allocator heap step client) program client)
    (granted : Throughout allocator heap (Granted allocator heap) program client)
    (proper : Ideal.ProperRun program ideal) :
    (program.foldl (fun ideal step => ideal.step step) ideal).Mirrors
      (client.run allocator heap program) := by
  induction program generalizing client ideal with
  | nil => exact mirrors
  | cons step rest ih =>
    have next := mirrors_step mirrors served.1.1 served.1.2 granted.1 proper.1
    exact ih next served.2 granted.2 proper.2

theorem heap_serves (sound : client.Sound)
    (sized : ∀ block ∈ client.live, Heap.isSize block.size = true)
    (lawful : Throughout .heap heap (Lawful heap) program client) :
    Throughout .heap heap (fun step client =>
      (client.Sound ∧ Serves .heap heap step client) ∧ Exact step client) program client := by
  -- Sizes stay ones that blocks can have, so that the heap is never asked about another one.
  apply Throughout.imp
    (fun client => client.Sound ∧ ∀ block ∈ client.live, Heap.isSize block.size = true)
    ⟨sound, sized⟩ lawful
  rintro step client ⟨sound, sized⟩ law
  have own : ∀ block ∈ client.blocks step.name, block ∈ client.live := fun _ mine => sound.listed mine
  have asked (size : Nat) := Heap.request_asks (fun block mine => sized block (own block mine)) size
  have serves : Serves .heap heap step client := by
    intro size asks
    exact (asked size).served sound.spread own (law size asks)
  refine ⟨⟨⟨sound, serves⟩, ?_⟩, step_sound sound serves, ?_⟩
  · intro size asks
    exact (asked size).exact sound.spread own
  · cases asks : client.asked? step with
    | none =>
      rw [step_touch asks, (touch_rest client step).2.1]
      exact sized
    | some size =>
      rw [step_request asks]
      exact (asked size).sized sized

theorem ask_arena {place : Nat} (real : place ≠ 0) (name size : Nat) (client : Client) :
    client.ask (.arena place) heap name size =
      (((client.machine.arenas place).resize ((client.blocks name).map Block.address)
          (((client.blocks name).map Block.size).getD 0) size).block,
        client.machine.settleArena place ((client.machine.arenas place).resize
          ((client.blocks name).map Block.address)
          (((client.blocks name).map Block.size).getD 0) size)) := by
  simp [ask, Machine.resize, Allocator.arena, real]

theorem arena_serves {place : Nat} (real : place ≠ 0) (sound : client.Sound)
    (kept : Arena.Kept (client.machine.arenas place) client.live) (program : List ClientStep) :
    Throughout (.arena place) heap (fun step client =>
      client.Sound ∧ Serves (.arena place) heap step client) program client := by
  induction program generalizing client with
  | nil => trivial
  | cons step rest ih =>
    have own : ∀ block ∈ client.blocks step.name, block ∈ client.live :=
      fun _ mine => sound.listed mine
    have ledger (size : Nat) : client.ledger (.arena place) heap step.name size =
        Block.afterRequest (client.blocks step.name) size
          (client.ask (.arena place) heap step.name size).1 client.live := rfl
    have serves : Serves (.arena place) heap step client := by
      intro size asks
      rw [ledger, ask_arena real]
      exact kept.served size own client.machine.memory
    refine ⟨⟨sound, serves⟩, ih (step_sound sound serves) ?_⟩
    cases asks : client.asked? step with
    | none =>
      rw [step_touch asks, (touch_rest client step).2.2, (touch_rest client step).2.1]
      exact kept
    | some size =>
      have next := kept.resize size (Block.named own)
      rw [step_request asks]
      change Arena.Kept ((client.ask (.arena place) heap step.name size).2.arenas place)
        (client.ledger (.arena place) heap step.name size)
      rw [ledger, ask_arena real]
      simp only [Machine.settleArena, Cells.set_same]
      exact next

theorem start_sound (machine : Machine) (spread : Block.Spread live) :
    Sound { machine := machine, live := live } :=
  ⟨spread, nofun, nofun⟩

theorem start_mirrors (machine : Machine) (live : List Block) :
    Ideal.Mirrors {} { machine := machine, live := live } :=
  ⟨rfl, fun _ => rfl, nofun⟩

end Client

structure Interchangeable (heap : Machine → HeapAnswers) (place : Nat) (program : List ClientStep)
    (first second : Client) : Prop where
  seen : Client.Throughout .heap heap (Client.Granted .heap heap) program first →
    Client.Throughout (.arena place) heap (Client.Granted (.arena place) heap) program second →
      (first.run .heap heap program).seen = (second.run (.arena place) heap program).seen
  onHeap : Client.Throughout .heap heap (Client.Contained .heap heap) program first
  inArena : Client.Throughout (.arena place) heap (Client.Contained (.arena place) heap) program
    second
  exact : Client.Throughout .heap heap Client.Exact program first

/-- However an arena has been used before: a program that may make its steps, and gets all the memory
that it asks for, sees the same with the heap and with the arena. Whether or not it gets the memory,
every step leaves all other blocks alone, and the heap is asked only with the sizes that blocks
have. -/
theorem heap_arena_interchangeable {heap : Machine → HeapAnswers} {place : Nat}
    {first second : Machine} {requests : List Arena.Request} {program : List ClientStep}
    (real : place ≠ 0) (made : (second.arenas place).Made)
    (named : Arena.Ledger.NamedRun place requests { machine := second })
    (proper : Ideal.ProperRun program {})
    (lawful : Client.Throughout .heap heap (Client.Lawful heap) program { machine := first }) :
    Interchangeable heap place program { machine := first }
      { machine := (Arena.Ledger.run place requests { machine := second }).machine
        live := (Arena.Ledger.run place requests { machine := second }).live } := by
  have kept := (Arena.Ledger.run_kept real named made.kept).1
  have spread : Block.Spread (Arena.Ledger.run place requests { machine := second }).live :=
    ⟨fun block member => (kept.placed block member).some, kept.apart⟩
  have empty : Block.Spread [] := ⟨nofun, List.Pairwise.nil⟩
  have onHeap := Client.heap_serves (Client.start_sound first empty) nofun lawful
  have inArena := @Client.arena_serves heap _ _ real (Client.start_sound _ spread) kept program
  constructor
  · intro grantedFirst grantedSecond
    have served := onHeap.mono fun _ _ both => both.1
    have one := Client.run_mirrors (Client.start_mirrors first []) served grantedFirst proper
    have other := Client.run_mirrors (Client.start_mirrors _ _) inArena grantedSecond proper
    rw [one.seen, other.seen]
  · exact onHeap.mono fun _ _ both => Client.contained both.1.1 both.1.2
  · exact inArena.mono fun _ _ both => Client.contained both.1 both.2
  · exact onHeap.mono fun _ _ both => both.2

theorem heap_arena_interchangeable_grown :
    let heap : Machine → HeapAnswers := fun machine _ => some (2 ^ 20 * (machine.calls.length + 1))
    let arena : Machine := { arenas := fun _ => .borrowed 65536 400 }
    let requests : List Arena.Request := [.alloc 24]
    let used : Client := { machine := (Arena.Ledger.run 64 requests { machine := arena }).machine
                           live := (Arena.Ledger.run 64 requests { machine := arena }).live }
    let program : List ClientStep := [.alloc 0 10, .write 0 3 7, .alloc 1 20, .write 1 5 9,
      .realloc 0 40, .read 0 3, .realloc 1 8, .alloc 2 0, .read 1 5, .free 1]
    Interchangeable heap 64 program { machine := {} } used ∧
      (Client.run .heap heap program { machine := {} }).seen =
        (used.run (.arena 64) heap program).seen := by
  intro heap arena requests used program
  have made : (arena.arenas 64).Made := .borrowed 65536 400 (by decide)
  have same : Interchangeable heap 64 program { machine := {} } used :=
    heap_arena_interchangeable (by decide) made (by decide) (by decide) (by decide)
  exact ⟨same, same.seen (by decide) (by decide)⟩

end ArenaThreads

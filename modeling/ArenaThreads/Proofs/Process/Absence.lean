import ArenaThreads.Proofs.Process.Bystanders
/-!
Two processes that go through the same moves, but for the steps of one tidy function that only one of
them makes: in both everybody else has the same arenas, the same bytes and the same answers.
-/

namespace ArenaThreads

def RuntimeThread.staged (block : Nat) (stage : Stage) (thread : RuntimeThread) : RuntimeThread :=
  if thread.block = block then { thread with stage := stage } else thread

/-- Processes that differ at most in how far the thread of a region has come, and in what is its
own. -/
structure Besides (region : Region) (first second : System) : Prop where
  machine : Alike region first.machine second.machine
  handles : second.handles = first.handles
  wakes : second.wakes = first.wakes
  joining : second.joining = first.joining
  abandoned : second.abandoned = first.abandoned
  threads : second.threads.map (RuntimeThread.staged region.block .entering) =
    first.threads.map (RuntimeThread.staged region.block .entering)

def Move.Steps (block : Nat) : Move → Prop
  | .thread place _ => place = block
  | _ => False

instance (block : Nat) : DecidablePred (Move.Steps block)
  | .thread place _ => inferInstanceAs (Decidable (place = block))
  | .call .. | .wake .. | .join .. | .rouse .. => inferInstanceAs (Decidable False)

def Move.Works (region : Region) (system : System) (move : Move) : Prop :=
  move.Steps region.block → ∀ thread rest, system.threadAt? region.block = some thread →
    thread.stage = .running rest → (∀ result, rest ≠ .done result) ∧
    ∀ act next shared, rest = .share act next → act system.machine.shared = some shared →
      shared = system.machine.shared

/-- A move that does not look at what a region lends. -/
def Move.Ignores (region : Region) (system : System) : Move → Prop
  | .call _ (.create request caller _) => request.context = none → ∀ i, i < Context.size →
      ¬region.Lends (system.machine.current caller + i)
  | .thread block _ => block ≠ region.block → ∀ thread first length next,
      system.threadAt? block = some thread → thread.stage = .running (.read first length next) →
      ∀ i, i < length → ¬region.Lends (first + i)
  | _ => True

/-- In the course of these moves the thread of a region is busy with its function, and nobody else
looks at what is lent to it. -/
def System.Busy (region : Region) : List Move → System → Prop
  | [], _ => True
  | move :: rest, system => move.Works region system ∧ move.Ignores region system ∧
      Busy region rest (system.step move).1

section

variable {region : Region} {first second : System} {name : Nat} {handle others : Handle}
  {one two : Machine} {move : Move}

theorem staged_staged (block : Nat) (earlier stage : Stage) (thread : RuntimeThread) :
    (thread.staged block earlier).staged block stage = thread.staged block stage := by
  unfold RuntimeThread.staged
  by_cases here : thread.block = block
  · simp only [if_pos here]
    exact if_pos here
  · simp only [if_neg here]

theorem staged_comm {block place : Nat} (different : place ≠ block) (earlier stage : Stage)
    (thread : RuntimeThread) :
    (thread.staged place earlier).staged block stage =
      (thread.staged block stage).staged place earlier := by
  unfold RuntimeThread.staged
  by_cases here : thread.block = block
  · have apart : thread.block ≠ place := fun there => different (there.symm.trans here)
    simp only [if_neg apart, if_pos here]
    exact (if_neg apart).symm
  · by_cases there : thread.block = place
    · simp only [if_pos there, if_neg here]
      exact if_neg here
    · simp only [if_neg there, if_neg here]

theorem block_staged (block : Nat) (stage : Stage) (thread : RuntimeThread) :
    (thread.staged block stage).block = thread.block := System.staged_block thread stage

namespace Besides

theorem refl (region : Region) (system : System) : Besides region system system :=
  ⟨.refl .., rfl, rfl, rfl, rfl, rfl⟩

theorem threadAt (besides : Besides region first second) {place : Nat}
    (different : place ≠ region.block) : second.threadAt? place = first.threadAt? place := by
  rw [← System.threadAt?_withStage_other (some .entering) different,
    ← @System.threadAt?_withStage_other first _ _ (some .entering) different]
  exact System.threadAt?_congr besides.threads

theorem withHandle (besides : Besides region first second) (name : Nat) (same : others = handle)
    (alike : Alike region one two) :
    Besides region (first.withHandle name handle one) (second.withHandle name others two) := by
  refine ⟨alike, ?_, besides.wakes, besides.joining, besides.abandoned, besides.threads⟩
  simp only [System.withHandle, besides.handles, same]

theorem withJoining (besides : Besides region first second) (name : Nat) (waits : Option Joining) :
    Besides region (first.withJoining name waits) (second.withJoining name waits) :=
  ⟨besides.machine, besides.handles, besides.wakes,
    congrArg (fun joining => joining.set name waits) besides.joining, besides.abandoned,
    besides.threads⟩

theorem create (besides : Besides region first second) (name : Nat) {request : CreateRequest}
    {caller : Caller} {answers : MemoryAnswers}
    (ignores : (Move.call name (.create request caller answers)).Ignores region second) :
    Besides region (first.create name request caller answers).1
      (second.create name request caller answers).1 := by
  obtain ⟨same, alike, -⟩ :=
    besides.machine.create request caller answers (first.handles name) ignores
  unfold System.create
  rw [besides.handles]
  exact besides.withHandle name same alike

theorem start (besides : Besides region first second) (name : Nat) (caller : Caller)
    (answers : LaunchAnswers) :
    Besides region (first.start name caller answers).1 (second.start name caller answers).1 := by
  have both : (first.handles name).start answers second.machine =
      (((first.handles name).start answers first.machine).1,
        ((first.handles name).start answers first.machine).2.1.put second.machine.arenas
          second.machine.memory, ((first.handles name).start answers first.machine).2.2) :=
    (congrArg _ besides.machine.rest).trans (Handle.start_oblivious ..)
  have oblivious : Oblivious fun machine => ((first.handles name).start answers machine).2.1 :=
    fun arenas bytes machine => congrArg (fun outcome => outcome.2.1)
      ((first.handles name).start_oblivious answers arenas bytes machine)
  have alike := besides.machine.oblivious oblivious
  unfold System.start
  rw [besides.handles]
  generalize (first.handles name).start answers first.machine = outcome at both alike ⊢
  rw [both] at alike ⊢
  rcases outcome with ⟨handle, machine, result⟩
  have changed := besides.withHandle name (rfl : handle = handle) alike
  cases result with
  | error failure => exact changed
  | ok done =>
    refine ⟨changed.machine, changed.handles, changed.wakes, changed.joining, changed.abandoned, ?_⟩
    have threads := changed.threads
    dsimp only at threads ⊢
    rw [List.map_append, List.map_append, threads]

theorem destroy (besides : Besides region first second) (name : Nat) :
    Besides region (first.destroy name).1 (second.destroy name).1 := by
  have both : (first.handles name).destroy second.machine =
      (((first.handles name).destroy first.machine).1,
        ((first.handles name).destroy first.machine).2.1.put second.machine.arenas
          second.machine.memory, ((first.handles name).destroy first.machine).2.2) :=
    (congrArg _ besides.machine.rest).trans (Handle.destroy_oblivious ..)
  have oblivious : Oblivious fun machine => ((first.handles name).destroy machine).2.1 :=
    fun arenas bytes machine => congrArg (fun outcome => outcome.2.1)
      ((first.handles name).destroy_oblivious arenas bytes machine)
  have alike := besides.machine.oblivious oblivious
  unfold System.destroy
  rw [besides.handles]
  apply besides.withHandle name _ alike
  rw [both]

theorem call (besides : Besides region first second) (name : Nat) {call : Call}
    (ignores : (Move.call name call).Ignores region second) :
    Besides region (first.call name call).1 (second.call name call).1 := by
  cases call with
  | create request caller answers => exact besides.create name ignores
  | start caller answers => exact besides.start name caller answers
  | stop timeout now =>
    rw [System.call, System.stop, System.call, System.stop, besides.handles]
    split
    · exact besides
    · exact besides
    · exact besides.withJoining name _
  | destroy => exact besides.destroy name
  | drop =>
    rw [System.call, System.drop, System.call, System.drop, besides.handles]
    split
    · exact besides.withJoining name _
    · exact besides.withHandle name rfl
        (besides.machine.oblivious (first.handles name).releaseNative_oblivious)

theorem joinWord (besides : Besides region first second) (name : Nat) :
    second.joinWord name = first.joinWord name := by
  have blocks : second.machine.blocks = first.machine.blocks := by rw [besides.machine.rest]
  unfold System.joinWord Handle.block?
  rw [besides.handles, blocks]

theorem finish (besides : Besides region first second) (name : Nat) (purpose : JoinPurpose)
    (result : Except Error Unit) :
    Besides region (first.finish name purpose result).1 (second.finish name purpose result).1 := by
  have idle := besides.withJoining name none
  unfold System.finish
  rw [besides.handles]
  cases purpose with
  | stop =>
    obtain ⟨same, alike⟩ := besides.machine.obliviousWith
      ((first.handles name).stopped_oblivious result)
    exact idle.withHandle name same alike
  | drop =>
    have alike := besides.machine.oblivious ((first.handles name).dropped_oblivious result)
    have dropped := idle.withHandle name (rfl : Handle.empty = .empty) alike
    refine ⟨dropped.machine, dropped.handles, dropped.wakes, dropped.joining, ?_, dropped.threads⟩
    exact congrArg (· ++ (first.handles name).abandoned result) besides.abandoned

theorem rouse (besides : Besides region first second) (name : Nat) (outcome : Except OsError Unit) :
    Besides region (first.rouse name outcome) (second.rouse name outcome) := by
  unfold System.rouse
  rw [besides.joining]
  exact besides.withJoining name _

theorem wake (besides : Besides region first second) (block : Nat) :
    Besides region (first.wake block) (second.wake block) := by
  have sleeps (name : Nat) : second.sleepsOn name = first.sleepsOn name := by
    rw [System.sleepsOn, System.sleepsOn, besides.joining, besides.handles]
  unfold System.wake
  rw [besides.wakes, besides.joining]
  simp only [sleeps]
  split
  · exact ⟨besides.machine, besides.handles, rfl, rfl, besides.abandoned, besides.threads⟩
  · exact besides

theorem joinStep (besides : Besides region first second) (name : Nat) (now : Instant)
    (refusal : Option OsError) :
    Besides region (first.joinStep name now refusal).1 (second.joinStep name now refusal).1 := by
  unfold System.joinStep
  rw [besides.joining]
  cases first.joining name with
  | none => exact besides
  | some joining =>
    dsimp only
    rw [besides.joinWord]
    split
    · exact besides
    · split
      · exact besides.withJoining name _
      · exact besides.withJoining name _
      · exact besides.withJoining name _
      · split
        · exact besides.withJoining name _
        · split <;> exact besides.withJoining name _
      · exact besides.finish name joining.purpose _

theorem withStage (besides : Besides region first second) (alike : Alike region one two) {place : Nat}
    (different : place ≠ region.block) (stage : Option Stage) :
    Besides region ({ first with machine := one }.withStage place stage)
      ({ second with machine := two }.withStage place stage) := by
  have threads := besides.threads
  cases stage with
  | some stage =>
    refine ⟨alike, besides.handles, besides.wakes, besides.joining, besides.abandoned, ?_⟩
    have commutes (system : System) :
        (system.threads.map (RuntimeThread.staged place stage)).map
            (RuntimeThread.staged region.block .entering) =
          (system.threads.map (RuntimeThread.staged region.block .entering)).map
            (RuntimeThread.staged place stage) := by
      rw [List.map_map, List.map_map]
      apply List.map_congr_left
      intro thread _
      simp only [Function.comp_apply]
      exact staged_comm different stage .entering thread
    change (second.threads.map (RuntimeThread.staged place stage)).map _ =
      (first.threads.map (RuntimeThread.staged place stage)).map _
    rw [commutes, commutes, threads]
  | none =>
    refine ⟨alike, besides.handles, ?_, besides.joining, besides.abandoned, ?_⟩
    · exact congrArg (· ++ [place]) besides.wakes
    · have commutes (system : System) :
          (system.threads.filter fun thread => thread.block ≠ place).map
              (RuntimeThread.staged region.block .entering) =
            (system.threads.map (RuntimeThread.staged region.block .entering)).filter
              fun thread => thread.block ≠ place := by
        rw [List.filter_map]
        apply congrArg
        apply List.filter_congr
        intro thread _
        simp only [Function.comp_apply, block_staged]
      change (second.threads.filter fun thread => thread.block ≠ place).map _ =
        (first.threads.filter fun thread => thread.block ≠ place).map _
      rw [commutes, commutes, threads]

theorem proceeds (besides : Besides region first second) (alike : Alike region first.machine two)
    (stage : Stage) :
    Besides region first
      ({ second with machine := two }.withStage region.block (some stage)) := by
  refine ⟨alike, besides.handles, besides.wakes, besides.joining, besides.abandoned, ?_⟩
  rw [← besides.threads]
  change (second.threads.map (RuntimeThread.staged region.block stage)).map _ = _
  rw [List.map_map]
  apply List.map_congr_left
  intro thread _
  simp only [Function.comp_apply]
  exact staged_staged region.block stage .entering thread

end Besides

def System.InFunction (region : Region) (system : System) : Prop :=
  ∃ thread rest, system.threadAt? region.block = some thread ∧ thread.region = region ∧
    thread.stage = .running rest

variable {place : Nat} {heap : HeapAnswers}

theorem Besides.thread (besides : Besides region first second) (enclosed : Enclosed second)
    (busy : second.InFunction region) (different : place ≠ region.block)
    (ignores : (Move.thread place heap).Ignores region second) :
    Besides region (first.threadStep place heap) (second.threadStep place heap) := by
  have same := besides.threadAt different
  unfold System.threadStep System.threadStep?
  rw [← same]
  cases found : second.threadAt? place with
  | none => exact besides
  | some thread =>
    obtain ⟨mover, rest, there, own, -⟩ := busy
    obtain ⟨owner, memory, mine, block⟩ := enclosed.sound.owned there
    rw [← block] at there different
    have mover_equipped := enclosed.equipped mine there
    obtain rfl : memory.region = region := mover_equipped.region.symm.trans own
    have running := fun rest => @Enclosed.running _ enclosed place thread rest found
    obtain ⟨other, further, theirs, rfl⟩ := enclosed.sound.owned found
    have equipped := enclosed.equipped theirs found
    have apart : memory.region.mapping.Apart further.region.mapping := by
      apply enclosed.sound.ownership.apart _ mine theirs
      rintro rfl
      cases mine.symm.trans theirs
      exact different rfl
    rw [equipped.region] at running
    have goes := @step_alike memory.region first.machine second.machine further.region heap thread
      besides.machine equipped.furnished running (Region.block_real equipped.placed) different
      ?_ (ignores different thread · · · found)
    · simp only [Option.bind_some]
      generalize thread.step heap first.machine = one at goes ⊢
      generalize thread.step heap second.machine = two at goes ⊢
      cases goes with
      | none => exact besides
      | @some one two same =>
        rcases one with ⟨stage, one⟩
        rcases two with ⟨stage', two⟩
        obtain ⟨rfl, alike⟩ := same
        exact besides.withStage alike different _
    · intro address lends within
      have filled := Region.storage_inside equipped.placed
      have full := Region.storage_inside mover_equipped.placed
      have low := equipped.furnished.copy_inside.1
      have beneath := mover_equipped.furnished.copy_inside.1
      simp only [Region.Lends, Region.storageStart, Mapping.Apart, Region.mapping] at *
      omega

theorem Besides.works (besides : Besides region first second) (enclosed : Enclosed second)
    (busy : second.InFunction region) (own : place = region.block)
    (works : (Move.thread place heap).Works region second) :
    Besides region first (second.threadStep place heap) := by
  rw [own]
  rcases System.threadStep_cases region.block heap second with
    ⟨same, -⟩ | ⟨thread, stage, after, found, stepped, same⟩
  · rw [same]
    exact besides
  · obtain ⟨known, rest, there, region_eq, running⟩ := busy
    cases there.symm.trans found
    obtain ⟨more, silent⟩ := works own thread rest found running
    obtain ⟨inside, -⟩ := enclosed.advance found stepped
    obtain ⟨estate, tidy, serves⟩ := enclosed.running found running
    obtain ⟨owner, memory, mine, block⟩ := enclosed.sound.owned found
    have placed := (enclosed.sound.ownership.housed mine).placed
    have real : thread.region.block ≠ 0 := by
      rw [region_eq, ← block]
      exact Region.block_real placed
    rw [step_running running more] at stepped
    obtain ⟨⟨next, reached⟩, ran, result⟩ := Option.map_eq_some_iff.mp stepped
    cases result
    rw [region_eq] at inside
    rw [same]
    exact besides.proceeds
      (besides.machine.inside inside (runStep_rest ran tidy serves real silent)) (.running next)

theorem Besides.elsewhere (besides : Besides region first second) (enclosed : Enclosed second)
    (busy : second.InFunction region) (other : ¬move.Steps region.block)
    (ignores : move.Ignores region second) :
    Besides region (first.step move).1 (second.step move).1 := by
  cases move with
  | call name call =>
    simp only [System.step, besides.joining]
    split
    · exact besides
    · exact besides.call name ignores
  | thread place heap => exact besides.thread enclosed busy other ignores
  | wake block => exact besides.wake block
  | join name now refusal => exact besides.joinStep name now refusal
  | rouse name outcome => exact besides.rouse name outcome

theorem System.InFunction.step {system : System} (busy : system.InFunction region)
    (enclosed : Enclosed system) (lawful : move.Lawful system) (works : move.Works region system) :
    (system.step move).1.InFunction region := by
  obtain ⟨thread, rest, found, own, running⟩ := busy
  by_cases steps : move.Steps region.block
  · cases move with
    | thread place heap =>
      have here : place = region.block := steps
      rw [System.step, here]
      rcases System.threadStep_cases region.block heap system with
        ⟨same, -⟩ | ⟨known, stage, after, there, stepped, same⟩
      · rw [same]
        exact ⟨thread, rest, found, own, running⟩
      · cases there.symm.trans found
        rw [step_running running (works steps _ _ found running).1] at stepped
        obtain ⟨⟨next, reached⟩, -, result⟩ := Option.map_eq_some_iff.mp stepped
        cases result
        refine ⟨{ thread with stage := .running next }, next, ?_, own, rfl⟩
        rw [same, System.threadAt?_withStage_same]
        exact congrArg (Option.map _) found
    | _ => exact steps.elim
  · have others (answers : HeapAnswers) : move ≠ .thread region.block answers := by
      rintro rfl
      exact steps rfl
    rcases (step_effect enclosed.sound lawful).threadAt enclosed.sound others with same | ⟨gone, -⟩
    · exact ⟨thread, rest, same.trans found, own, running⟩
    · cases gone.symm.trans found

/-- Leaving out what a thread does in its function changes nothing for anybody else. -/
theorem Besides.run {moves : List Move} (besides : Besides region first second)
    (enclosed : Enclosed second) (infunction : second.InFunction region)
    (lawful : System.LawfulRun moves second) (orderly : ∀ move ∈ moves, move.Orderly)
    (busy : second.Busy region moves) :
    Besides region (first.run (moves.filter fun move => ¬move.Steps region.block))
      (second.run moves) := by
  induction moves generalizing first second with
  | nil => exact besides
  | cons move rest ih =>
    rw [List.forall_mem_cons] at orderly
    obtain ⟨works, ignores, later⟩ := busy
    have next := enclosed.step lawful.1 orderly.1
    have stays := infunction.step enclosed lawful.1 works
    by_cases steps : move.Steps region.block
    · rw [List.filter_cons_of_neg (by simpa using steps)]
      cases move with
      | thread place heap =>
        have worked := besides.works enclosed infunction steps works
        exact ih worked next stays lawful.2 orderly.2 later
      | _ => exact steps.elim
    · rw [List.filter_cons_of_pos (by simpa using steps)]
      exact ih (besides.elsewhere enclosed infunction steps ignores) next stays lawful.2 orderly.2
        later

end

end ArenaThreads

import ArenaThreads.Proofs.Process.Calls
/-!
Every lawful move of a sound process has one of the effects, and every effect leaves the process
sound: a process that has not done anything about threads yet stays sound however it goes on.
-/

namespace ArenaThreads

/-! Waiting -/

namespace Join

variable {join : Join}

/-- Only a word that has been read as zero ends a wait well. -/
theorem load_done {word : Nat} (done : (join.load word).phase = .finished (.ok ())) :
    word = 0 ∨ join.phase = .finished (.ok ()) := by
  unfold load at done
  split at done
  · split at done
    · exact Or.inl ‹_›
    · split at done <;> cases done
  · split at done
    · exact Or.inl ‹_›
    · cases done
  · exact Or.inr done

theorem tick_done {now : Instant} (done : (join.tick now).phase = .finished (.ok ())) :
    join.phase = .finished (.ok ()) := by
  unfold tick at done
  split at done
  · split at done <;> cases done
  · exact done

theorem answer_done {outcome : Except OsError Unit}
    (done : (join.answer outcome).phase = .finished (.ok ())) :
    join.phase = .finished (.ok ()) := by
  unfold answer at done
  split at done
  · split at done
    · cases done
    · split at done
      · cases done
      · split at done <;> cases done
  · exact done

end Join

section

variable {system : System} {name : Nat} {joining : Joining} {now : Instant}
  {refusal : Option OsError} {move : Move}

theorem Effect.goesOn {join : Join} (asleep : Bool) (sound : Sound system)
    (waiting : system.joining name = some joining)
    (done : join.phase = .finished (.ok ()) →
      system.joinWord name = 0 ∨ joining.join.phase = .finished (.ok ()))
    (silent : move.Silent system) :
    Effect system move
      (system.withJoining name (some { joining with join := join, asleep := asleep })) := by
  refine .awaits system.wakes sound ?_ silent
  intro joining same
  cases same
  have waits := sound.waiting waiting
  refine ⟨waits.live, ?_⟩
  intro finished
  exact (done finished).elim id waits.done

theorem join_sight (waiting : system.joining name = some joining) (other : Nat) :
    Move.sight? other system (.join name now refusal) =
      if name = other ∧ joining.Ends .stop (.ok ()) then some .joined else none := by
  by_cases same : name = other
  · subst same
    simp [Move.sight?, waiting]
  · simp [Move.sight?, same]

theorem join_silent (waiting : system.joining name = some joining)
    (going : ¬joining.Ends .stop (.ok ())) : Move.Silent system (.join name now refusal) := by
  intro other
  rw [join_sight waiting, if_neg fun ended => going ended.2]

theorem stopped_effect {join : Join} {result : Except Error Unit} (sound : Sound system)
    (waiting : system.joining name = some ⟨.stop, join, false⟩)
    (phase : join.phase = .finished result) :
    Effect system (.join name now refusal) (system.finish name .stop result).1 := by
  obtain ⟨live, done⟩ := sound.waiting waiting
  obtain ⟨memory, has, lives⟩ := sound.memory_of_live live
  cases result with
  | ok finished =>
    have seen (other : Nat) : Move.sight? other system (.join name now refusal) =
        if name = other then some .joined else none := by
      rw [join_sight waiting]
      simp [Joining.Ends, phase]
    have told := sound.ownership.emit (.threadJoined (system.handles name).id)
    refine .joined has lives ?_ told ?_ ?_
    · rw [← system.joinWord_eq has]
      exact done phase
    · rw [seen, if_pos rfl]
    · intro other different
      rw [seen, if_neg (Ne.symm different)]
  | error error =>
    have silent : Move.Silent system (.join name now refusal) := join_silent waiting fun ended => by
      cases phase.symm.trans ended.2.2
    cases error with
    | timedOut => exact .failed (Keeps.refl sound.ownership) silent
    | _ => exact .failed (sound.ownership.emit _) silent

theorem dropped_effect {join : Join} {result : Except Error Unit} (sound : Sound system)
    (waiting : system.joining name = some ⟨.drop, join, false⟩)
    (phase : join.phase = .finished result) :
    Effect system (.join name now refusal) (system.finish name .drop result).1 := by
  obtain ⟨live, done⟩ := sound.waiting waiting
  obtain ⟨memory, has, lives⟩ := sound.memory_of_live live
  have silent : Move.Silent system (.join name now refusal) := join_silent waiting fun ended => by
    cases ended.1
  have replaces : Move.Replaces name system (.join name now refusal) :=
    ⟨rfl, _, result, waiting, rfl, rfl, phase⟩
  cases result with
  | ok finished =>
    have gone : (system.machine.blocks memory.block).joinWord = 0 := by
      rw [← system.joinWord_eq has]
      exact done phase
    have effect := Effect.released (Keeps.refl sound.ownership) has gone replaces silent
    simp only [System.finish, Handle.dropped, Handle.releaseNative, has, Handle.abandoned,
      List.append_nil]
    exact effect
  | error error =>
    have told := sound.ownership.emit (.threadFailed "drop" error.message)
    simp only [System.finish, Handle.dropped, Handle.abandoned, has, Option.toList_some]
    exact .abandoned has told replaces silent

theorem join_effect (sound : Sound system) :
    Effect system (.join name now refusal) (system.joinStep name now refusal).1 := by
  unfold System.joinStep
  cases waiting : system.joining name with
  | none =>
    have silent : Move.Silent system (.join name now refusal) := by
      intro other
      by_cases same : name = other
      · subst same
        simp [Move.sight?, waiting]
      · simp [Move.sight?, same]
    exact .nothing sound silent
  | some joining =>
    rcases joining with ⟨purpose, join, asleep⟩
    cases asleep with
    | true =>
      refine .nothing sound (join_silent waiting ?_)
      intro ended
      cases ended.2.1
    | false =>
      dsimp only
      rw [if_neg Bool.false_ne_true]
      have silent (going : ∀ result, join.phase ≠ .finished result) :
          Move.Silent system (.join name now refusal) :=
        join_silent waiting fun ended => going _ ended.2.2
      split
      · exact .goesOn false sound waiting Join.load_done (silent (by simp [*]))
      · exact .goesOn false sound waiting Join.load_done (silent (by simp [*]))
      · exact .goesOn false sound waiting (fun done => Or.inr (Join.tick_done done))
          (silent (by simp [*]))
      · have silent := silent (by simp [*])
        split
        · exact .goesOn false sound waiting (fun done => Or.inr (Join.answer_done done)) silent
        · split
          · exact .goesOn true sound waiting Or.inr silent
          · exact .goesOn false sound waiting (fun done => Or.inr (Join.answer_done done)) silent
      · rename_i result phase
        cases purpose with
        | stop => exact stopped_effect sound waiting phase
        | drop => exact dropped_effect sound waiting phase

/-- Whoever sleeps may be woken at any time. -/
theorem Waits.roused {outcome : Except OsError Unit} (waits : Waits name joining system) :
    Waits name (joining.roused outcome) system := by
  refine ⟨waits.live, ?_⟩
  intro finished
  unfold Joining.roused at finished
  split at finished
  · exact waits.done (Join.answer_done finished)
  · exact waits.done finished

theorem rouse_effect {outcome : Except OsError Unit} (sound : Sound system)
    (silent : move.Silent system) : Effect system move (system.rouse name outcome) := by
  refine .awaits system.wakes sound ?_ silent
  intro joining roused
  obtain ⟨asleep, waiting, rfl⟩ := Option.map_eq_some_iff.mp roused
  exact (sound.waiting waiting).roused

theorem wake_effect {block : Nat} (sound : Sound system) (silent : move.Silent system) :
    Effect system move (system.wake block) := by
  unfold System.wake
  split
  · refine .waited _ _ ?_ silent
    intro name joining woken
    split at woken
    · obtain ⟨asleep, waiting, rfl⟩ := Option.map_eq_some_iff.mp woken
      exact (sound.waiting waiting).roused
    · exact sound.waiting woken
  · exact .nothing sound silent

/-! Threads -/

theorem stuck_silent {thread : RuntimeThread} {answers : HeapAnswers} {machine : Machine}
    (stuck : thread.step answers machine = none) : thread.stage.sight? = none := by
  rcases thread with ⟨region, caller, stage⟩
  cases stage with
  | running rest =>
    cases rest with
    | done result => cases stuck
    | _ => rfl
  | exiting => cases stuck
  | _ => rfl

theorem Sound.threadStep_cases (sound : Sound system) (block : Nat) (answers : HeapAnswers) :
    (system.threadStep block answers = system ∧ ∀ thread, system.threadAt? block = some thread →
      thread.step answers system.machine = none) ∨
    ∃ owner memory thread stage after, system.held owner = some memory ∧ memory.block = block ∧
      system.threadAt? block = some thread ∧ Steady block system.machine after ∧
      Advance (system.machine.blocks block) thread.stage stage (after.blocks block) ∧
      system.threadStep block answers = { system with machine := after }.withStage block stage := by
  rcases System.threadStep_cases block answers system with
    stuck | ⟨thread, stage, after, found, stepped, same⟩
  · exact Or.inl stuck
  · obtain ⟨owner, memory, mine, rfl⟩ := sound.owned found
    have crewed := sound.crewed mine
    rw [found] at crewed
    cases crewed with
    | present region stack real shows =>
      have place : thread.block = memory.block := System.threadAt?_block found
      have slot := sound.ownership.slot mine thread.caller stack
      rw [← place] at slot
      obtain ⟨steady, advance⟩ := step_advance stepped slot
      rw [place] at steady advance
      exact Or.inr ⟨owner, memory, thread, stage, after, mine, rfl, found, steady, advance, same⟩

theorem thread_effect {block : Nat} {answers : HeapAnswers} (sound : Sound system) :
    Effect system (.thread block answers) (system.threadStep block answers) := by
  rcases sound.threadStep_cases block answers with
    ⟨same, stuck⟩ | ⟨owner, memory, thread, stage, after, mine, rfl, found, steady, advance, same⟩
  · rw [same]
    apply Effect.nothing sound
    intro name
    cases found : system.threadAt? block with
    | none => simp [Move.sight?, found]
    | some thread => simp [Move.sight?, found, stuck_silent (stuck thread found)]
  · rw [same]
    exact .stepped mine found steady advance rfl

end

/-! All moves -/

section

variable {system : System} {move : Move}

theorem step_effect (sound : Sound system) (lawful : move.Lawful system) :
    Effect system move (system.step move).1 := by
  cases move with
  | call name call =>
    cases waiting : system.joining name with
    | some joining =>
      have refused : system.step (.call name call) = (system, .waits) := by
        simp [System.step, waiting]
      rw [refused]
      apply Effect.nothing sound
      intro other
      cases call with
      | start caller answers => simp [Move.sight?, refused]
      | _ => rfl
    | none =>
      have made := System.step_call waiting call
      rw [made]
      cases call with
      | create request caller answers =>
        exact create_effect sound waiting lawful (fun _ => rfl) fun returned =>
          ⟨rfl, (congrArg Prod.snd made).trans returned⟩
      | start caller answers => exact start_effect sound waiting lawful
      | stop timeout now => exact stop_effect sound fun _ => rfl
      | destroy =>
        exact destroy_effect sound waiting (fun _ => rfl) fun returned =>
          ⟨rfl, (congrArg Prod.snd made).trans returned⟩
      | drop =>
        exact drop_effect sound waiting (fun _ => rfl) fun returned =>
          ⟨rfl, (congrArg Prod.snd made).trans returned⟩
  | thread block answers => exact thread_effect sound
  | wake block => exact wake_effect sound fun _ => rfl
  | join name now refusal => exact join_effect sound
  | rouse name outcome => exact rouse_effect sound fun _ => rfl

theorem Advance.live {handle : Handle} {stage : Stage} {reached : Option Stage}
    {before after : ControlBlock} (advance : Advance before stage reached after)
    (live : handle.Live before) (word : before.joinWord ≠ 0) (shows : stage.Shows before) :
    handle.Live after := by
  have id : before.joinWord = handle.id := live.word.resolve_right fun gone => word gone.1
  cases advance with
  | clear =>
    exact ⟨⟨live.function, live.argument⟩, live.launched, live.joined, live.id, Or.inr ⟨rfl, shows⟩⟩
  | _ => exact ⟨⟨live.function, live.argument⟩, live.launched, live.joined, live.id, Or.inl id⟩

/-- A handle whose join word is not zero is live. -/
theorem Represents.live_of_word {machine : Machine} {handle : Handle} {state : Lifecycle}
    {memory : ThreadMemory} (represents : Represents machine handle state)
    (has : handle.memory = some memory) (word : (machine.blocks memory.block).joinWord ≠ 0) :
    handle.Live (machine.blocks memory.block) := by
  cases represents with
  | empty nothing =>
    subst nothing
    cases has
  | created holds created =>
    cases holds.symm.trans has
    exact absurd created.word word
  | live holds live =>
    cases holds.symm.trans has
    exact live
  | joined holds joined =>
    cases holds.symm.trans has
    exact absurd joined.word word

theorem Advance.crewed {memory : ThreadMemory} {before after : ControlBlock}
    {thread : RuntimeThread} {reached : Option Stage}
    (advance : Advance before thread.stage reached after)
    (crewed : Crewed memory before (some thread)) :
    Crewed memory after (reached.map fun stage => { thread with stage := stage }) := by
  cases crewed with
  | present region stack word shows =>
    rcases thread with ⟨place, caller, stage⟩
    cases advance with
    | clear => exact .absent rfl
    | announce => exact .present region stack word rfl
    | stop => exact .present region stack word rfl
    | _ => exact .present region stack word shows

theorem stepped_waits {name : Nat} {memory : ThreadMemory} {after : Machine} {stage : Option Stage}
    {joining : Joining} (sound : Sound system)
    (word : (system.machine.blocks memory.block).joinWord ≠ 0)
    (steady : Steady memory.block system.machine after)
    (waiting : system.joining name = some joining) :
    Waits name joining ({ system with machine := after }.withStage memory.block stage) := by
  obtain ⟨live, done⟩ := sound.waiting waiting
  obtain ⟨further, has, -⟩ := sound.memory_of_live live
  refine ⟨by simpa using live, ?_⟩
  intro finished
  have zero := done finished
  rw [system.joinWord_eq has] at zero
  have different : further.block ≠ memory.block := fun same => word (same ▸ zero)
  calc
    _ = (after.blocks further.block).joinWord := by
      simp [System.joinWord, Handle.block?, has]
    _ = (system.machine.blocks further.block).joinWord := by rw [steady.blocks _ different]
    _ = 0 := zero

theorem Sound.stepped {owner : Owner} {memory : ThreadMemory} {thread : RuntimeThread}
    {stage : Option Stage} {after : Machine} (sound : Sound system)
    (mine : system.held owner = some memory)
    (found : system.threadAt? memory.block = some thread)
    (steady : Steady memory.block system.machine after)
    (advance : Advance (system.machine.blocks memory.block) thread.stage stage
      (after.blocks memory.block)) :
    Sound ({ system with machine := after }.withStage memory.block stage) := by
  have crewed := sound.crewed mine
  rw [found] at crewed
  have moved := advance.crewed crewed
  have here : { system with machine := after }.threadAt? memory.block = some thread := found
  cases crewed with
  | present region stack word shows =>
    refine sound.touch mine (System.held_withStage stage) (by simpa using steady) ?_
      (fun place different => System.threadAt?_withStage_other stage different)
      (fun name same => ?_) (fun name different => by simp) (fun {name joining} waiting => ?_)
    · rw [System.threadAt?_withStage_same, System.machine_withStage, here]
      cases stage <;> exact moved
    · subst same
      obtain ⟨state, represents⟩ := sound.handles name
      have live := represents.live_of_word mine word
      refine ⟨.live, ?_⟩
      rw [System.handles_withStage, System.machine_withStage]
      exact .live mine (advance.live live word shows)
    · rw [System.joining_withStage] at waiting
      exact stepped_waits sound word steady waiting

section

variable {name : Nat} {memory : ThreadMemory} {after : Machine}

theorem Sound.absent (sound : Sound system) (has : (system.handles name).memory = some memory)
    (word : (system.machine.blocks memory.block).joinWord = 0) :
    system.threadAt? memory.block = none := by
  have mine : system.held (.handle name) = some memory := has
  exact (sound.crewed mine).absent_iff.mpr word

theorem Sound.refused {arguments : CloneArguments} (sound : Sound system)
    (free : system.joining name = none) (has : (system.handles name).memory = some memory)
    (created : (system.handles name).Created (system.machine.blocks memory.block))
    (steady : Steady memory.block system.machine after)
    (block : after.blocks memory.block =
      { system.machine.blocks memory.block with joinWord := 0, arguments := arguments }) :
    Sound (system.withHandle name (system.handles name) after) := by
  have represents : Represents after (system.handles name) .created := by
    apply Represents.created has
    rw [block]
    exact ⟨⟨created.function, created.argument⟩, created.launched, created.joined, created.id,
      created.state, rfl, created.result⟩
  refine sound.restart free has represents has steady system.threads ?_ fun _ _ => rfl
  have absent := sound.absent has created.word
  change Crewed _ _ (system.threadAt? memory.block)
  rw [absent, block]
  exact .absent rfl

theorem Sound.launched {id home : Nat} {arguments : CloneArguments} (sound : Sound system)
    (free : system.joining name = none) (has : (system.handles name).memory = some memory)
    (created : (system.handles name).Created (system.machine.blocks memory.block))
    (real : 0 < id) (steady : Steady memory.block system.machine after)
    (block : after.blocks memory.block =
      { system.machine.blocks memory.block with joinWord := id, arguments := arguments }) :
    Sound { system.withHandle name { system.handles name with id := id, launched := true } after with
      threads := system.threads ++ [.launched memory.region home] } := by
  have represents : Represents after
      { system.handles name with id := id, launched := true } .live := by
    refine .live has ?_
    rw [block]
    exact ⟨⟨created.function, created.argument⟩, rfl, created.joined, real, Or.inl rfl⟩
  refine sound.restart free has represents has steady
    (system.threads ++ [.launched memory.region home]) ?_ ?_
  · rw [System.threadAt?_launched memory home (sound.absent has created.word), block]
    exact .present rfl rfl (Nat.ne_of_gt real) created.state
  · intro place different
    exact System.threadAt?_launched_other memory home different

theorem Sound.joined (sound : Sound system) (free : system.joining name = none)
    (has : (system.handles name).memory = some memory)
    (live : (system.handles name).Live (system.machine.blocks memory.block))
    (gone : (system.machine.blocks memory.block).joinWord = 0)
    (keeps : Keeps system.held system.machine after) :
    Sound (system.withHandle name { system.handles name with joined := true } after) := by
  have stopped := (live.word.resolve_left fun id => Nat.ne_of_gt live.id (id ▸ gone)).2
  have joined : Represents system.machine { system.handles name with joined := true } .joined :=
    .joined has ⟨⟨live.function, live.argument⟩, live.launched, rfl, live.id, stopped, gone⟩
  have told := joined.transport fun memory (holds : system.held (.handle name) = some memory) =>
    (keeps.kept holds).block
  exact (sound.keep keeps).rehandle free rfl told

end

theorem Effect.sound {next : System} (sound : Sound system) (effect : Effect system move next) :
    Sound next := by
  have idle {name : Nat} : Sound (system.idle name) := sound.await (by simp)
  have free {name : Nat} : (system.idle name).joining name = none :=
    System.joining_withJoining name none
  cases effect with
  | waited wakes joining waits silent => exact sound.wait wakes joining waits
  | kept keeps silent => exact idle.keep keeps
  | rehoused gone moved represents idles replaces silent =>
    exact idle.rehouse free gone moved represents idles
  | lost gone moved tight silent => exact idle.rehouse free gone moved (.empty rfl) rfl
  | refused has created steady block quiet silent =>
    rcases block with ⟨arguments, block⟩
    exact idle.refused free has created steady block
  | launched has created real steady block quiet seen alone =>
    rcases block with ⟨arguments, block⟩
    exact idle.launched free has created real steady block
  | joined has live gone keeps seen alone => exact idle.joined free has live gone keeps
  | abandoned has keeps replaces silent => exact (idle.keep keeps).abandon free has
  | stepped mine found steady advance asked => exact sound.stepped mine found steady advance

theorem step_sound (sound : Sound system) (lawful : move.Lawful system) :
    Sound (system.step move).1 :=
  (step_effect sound lawful).sound sound

theorem run_sound {moves : List Move} (sound : Sound system)
    (lawful : System.LawfulRun moves system) : Sound (system.run moves) :=
  System.run_induction sound lawful fun _ _ sound lawful => step_sound sound lawful

end

end ArenaThreads

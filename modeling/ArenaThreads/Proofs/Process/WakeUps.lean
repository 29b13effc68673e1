import ArenaThreads.Proofs.Process.LiveMemory
/-!
No wake-up is lost between a thread that ends and the call that waits for it. The call falls asleep
only on a word that still holds the id it has read, so once the word is cleared nobody falls asleep on
it, and the wake that follows reaches whoever sleeps already.
-/

namespace ArenaThreads

def Join.Informed (join : Join) : Prop :=
  match join.phase with
  | .clock seen => seen ≠ 0 ∧ join.deadline.isSome = true
  | .wait seen _ => seen ≠ 0
  | _ => True

def Join.Endless (join : Join) : Prop :=
  join.deadline = none →
    join.phase = .load ∨ (∃ seen, join.phase = .wait seen none) ∨ join.phase = .finished (.ok ())

/-- What the kernel answers while it does not fail a wait: the sleeper was woken, for whatever
reason, the word has changed, or a signal came. -/
def Join.GoesOn : Except OsError Unit → Prop
  | .ok () => True
  | .error error => error = .wouldBlock ∨ error = .interrupted

def Move.Brings (name : Nat) (outcome : Except OsError Unit) : Move → Prop
  | .join other _ refusal => other = name ∧ outcome = .error (refusal.getD .wouldBlock)
  | .rouse other given => other = name ∧ outcome = given
  | .wake _ => outcome = .ok ()
  | _ => False

def Move.Patient (name : Nat) (move : Move) : Prop :=
  ∀ outcome, move.Brings name outcome → Join.GoesOn outcome

inductive Attends (name : Nat) (system : System) (move : Move) : Option Joining → Prop
  | kept : Attends name system move (system.joining name)
  | begins (purpose : JoinPurpose) (timeout : Option Duration) (now : Instant) :
    Attends name system move (some ⟨purpose, Join.start timeout now, false⟩)
  | reads {joining : Joining} (waiting : system.joining name = some joining) :
    Attends name system move (some { joining with
      join := joining.join.load (system.joinWord name), asleep := false })
  | looks {joining : Joining} (now : Instant) (waiting : system.joining name = some joining) :
    Attends name system move (some { joining with join := joining.join.tick now, asleep := false })
  | sleeps {joining : Joining} {left : Option Duration} {now : Instant} {refusal : Option OsError}
    (waiting : system.joining name = some joining) (asked : move = .join name now refusal)
    (phase : joining.join.phase = .wait (system.joinWord name) left) :
    Attends name system move (some { joining with asleep := true })
  | answered {joining : Joining} {outcome : Except OsError Unit}
    (waiting : system.joining name = some joining) (brings : move.Brings name outcome) :
    Attends name system move (some { joining with
      join := joining.join.answer outcome, asleep := false })
  | ends : Attends name system move none

/-- The call that waits on a handle sleeps on the word of a control block although it is cleared. -/
def System.Oversleeps (name block : Nat) (system : System) : Prop :=
  system.sleepsOn name = some block ∧ (system.machine.blocks block).joinWord = 0

def System.WokenAfterExit (block : Nat) (moves : List Move) (system : System) : Prop :=
  ∃ earlier exit between later, moves = earlier ++ exit :: (between ++ .wake block :: later) ∧
    exit.Clears block (system.run earlier) ∧
    block ∈ (system.run (earlier ++ exit :: between)).wakes ∧
    Uncleared block (between ++ .wake block :: later) (system.run (earlier ++ [exit]))

/-! The steps of a wait -/

namespace Join

variable {join : Join}

theorem start_informed (timeout : Option Duration) (now : Instant) :
    (start timeout now).Informed := trivial

theorem load_informed (word : Nat) (informed : join.Informed) : (join.load word).Informed := by
  unfold load
  split
  · split
    · exact trivial
    · split
      · exact ⟨‹_›, ‹_›⟩
      · exact ‹word ≠ 0›
  · split <;> exact trivial
  · exact informed

theorem tick_informed (now : Instant) (informed : join.Informed) : (join.tick now).Informed := by
  unfold tick
  split
  · rename_i seen deadline phase limit
    split
    · exact trivial
    · rw [Informed, phase] at informed
      exact informed.1
  · exact informed

theorem answer_informed (outcome : Except OsError Unit) (informed : join.Informed) :
    (join.answer outcome).Informed := by
  unfold answer
  split
  · split
    · exact trivial
    · split
      · exact trivial
      · split <;> exact trivial
  · exact informed

theorem load_endless (word : Nat) (endless : join.Endless) : (join.load word).Endless := by
  intro unbounded
  rcases join with ⟨deadline, phase⟩
  cases phase with
  | load =>
    by_cases cleared : word = 0
    · exact .inr (.inr (by simp [load, cleared]))
    · cases deadline with
      | none => exact .inr (.inl ⟨word, by simp [load, cleared]⟩)
      | some limit => simp [load, cleared] at unbounded
  | recheck =>
    have same : deadline = none := by
      unfold load at unbounded
      dsimp only at unbounded
      split at unbounded <;> exact unbounded
    exact absurd (endless same) (by simp)
  | _ => exact endless unbounded

theorem tick_endless (now : Instant) (endless : join.Endless) : (join.tick now).Endless := by
  intro unbounded
  rcases join with ⟨deadline, phase⟩
  cases deadline with
  | none =>
    have same : tick now ⟨none, phase⟩ = ⟨none, phase⟩ := by
      unfold tick
      split
      · cases ‹none = some _›
      · rfl
    rw [same] at unbounded ⊢
    exact endless unbounded
  | some limit =>
    unfold tick at unbounded
    split at unbounded
    · split at unbounded <;> cases unbounded
    · cases unbounded

theorem answer_endless {outcome : Except OsError Unit} (going : GoesOn outcome)
    (endless : join.Endless) : (join.answer outcome).Endless := by
  rcases join with ⟨deadline, phase⟩
  cases phase with
  | wait seen left =>
    intro unbounded
    cases outcome with
    | ok woken => exact .inl rfl
    | error error =>
      have again : error = .wouldBlock ∨ error = .interrupted := going
      exact .inl (by simp [answer, again])
  | _ => exact endless

end Join

section

variable {system : System} {move : Move} {moves : List Move} {joining : Joining} {name block : Nat}

theorem call_attends (name called : Nat) (call : Call) :
    Attends name system move ((system.call called call).1.joining name) := by
  by_cases here : name = called
  · subst here
    cases call with
    | create request caller answers => exact .kept
    | start caller answers =>
      simp only [System.call, System.start]
      split <;> exact .kept
    | stop timeout now =>
      simp only [System.call, System.stop]
      split
      · exact .kept
      · exact .kept
      · rw [System.joining_withJoining]
        exact .begins .stop timeout now
    | destroy => exact .kept
    | drop =>
      simp only [System.call, System.drop]
      split
      · rw [System.joining_withJoining]
        exact .begins .drop none ⟨0⟩
      · exact .kept
  · rw [(System.call_elsewhere call here).1]
    exact .kept

theorem join_attends (name called : Nat) (now : Instant) (refusal : Option OsError) :
    Attends name system (.join called now refusal)
      ((system.joinStep called now refusal).1.joining name) := by
  by_cases here : name = called
  · subst here
    unfold System.joinStep
    split
    · exact .kept
    · rename_i joining waiting
      split
      · exact .kept
      · split
        · rw [System.withJoin, System.joining_withJoining]
          exact .reads waiting
        · rw [System.withJoin, System.joining_withJoining]
          exact .reads waiting
        · rw [System.withJoin, System.joining_withJoining]
          exact .looks now waiting
        · rename_i seen left phase
          split
          · rw [System.withJoin, System.joining_withJoining]
            exact .answered waiting ⟨rfl, rfl⟩
          · split
            · rename_i same
              subst same
              rw [System.joining_withJoining]
              exact .sleeps waiting rfl phase
            · rw [System.withJoin, System.joining_withJoining]
              exact .answered waiting ⟨rfl, rfl⟩
        · rw [System.finish_joining, Cells.set_same]
          exact .ends
  · rw [(System.join_elsewhere now refusal here).1]
    exact .kept

theorem roused_attends {outcome : Except OsError Unit} (brings : move.Brings name outcome) :
    Attends name system move ((system.joining name).map (Joining.roused outcome)) := by
  cases waiting : system.joining name with
  | none => exact .ends
  | some joining =>
    rw [Option.map_some, Joining.roused]
    split
    · exact .answered waiting brings
    · rw [← waiting]
      exact .kept

theorem wake_attends (name block : Nat) :
    Attends name system (.wake block) ((system.wake block).joining name) := by
  unfold System.wake
  split
  · dsimp only
    split
    · exact roused_attends rfl
    · exact .kept
  · exact .kept

theorem rouse_attends (name called : Nat) (outcome : Except OsError Unit) :
    Attends name system (.rouse called outcome) ((system.rouse called outcome).joining name) := by
  by_cases here : name = called
  · subst here
    rw [System.rouse, System.joining_withJoining]
    exact roused_attends ⟨rfl, rfl⟩
  · rw [System.rouse, System.joining_elsewhere _ here]
    exact .kept

theorem step_attends (name : Nat) (system : System) (move : Move) :
    Attends name system move ((system.step move).1.joining name) := by
  cases move with
  | call called call =>
    rw [System.step]
    split
    · exact .kept
    · exact call_attends name called call
  | thread block answers =>
    rw [System.step, (System.thread_joining block answers system).1]
    exact .kept
  | wake block => exact wake_attends name block
  | join called now refusal => exact join_attends name called now refusal
  | rouse called outcome => exact rouse_attends name called outcome

theorem step_handles (waiting : system.joining name = some joining)
    (goesOn : (system.step move).1.joining name ≠ none) :
    (system.step move).1.handles name = system.handles name := by
  cases move with
  | call called call =>
    rw [System.step]
    split
    · rfl
    · rename_i free
      refine (System.call_elsewhere call ?_).2
      rintro rfl
      exact free (by simp [waiting])
  | thread block answers => rw [System.step, (System.thread_joining block answers system).2]
  | wake block =>
    obtain ⟨wakes, waits, same⟩ := System.wake_eq block system
    rw [System.step, same]
  | join called now refusal =>
    by_cases here : name = called
    · subst here
      rcases System.joinStep_cases name now refusal system with
        ⟨⟨waits, same⟩, -⟩ | ⟨other, result, -, -, -, same⟩
      · rw [System.step, same]
        rfl
      · rw [System.step, same, System.finish_joining, Cells.set_same] at goesOn
        exact absurd rfl goesOn
    · exact (System.join_elsewhere now refusal here).2
  | rouse called outcome => rfl

theorem Attends.keeps {next : Option Joining} (Holds : Join → Prop)
    (attends : Attends name system move next)
    (holds : ∀ {joining}, system.joining name = some joining → Holds joining.join)
    (begun : ∀ timeout now, Holds (Join.start timeout now))
    (read : ∀ {join} word, Holds join → Holds (join.load word))
    (ticked : ∀ {join} now, Holds join → Holds (join.tick now))
    (told : ∀ {join outcome}, move.Brings name outcome → Holds join → Holds (join.answer outcome))
    (waiting : next = some joining) : Holds joining.join := by
  cases attends with
  | kept => exact holds waiting
  | begins purpose timeout now =>
    cases waiting
    exact begun timeout now
  | reads before =>
    cases waiting
    exact read _ (holds before)
  | looks now before =>
    cases waiting
    exact ticked now (holds before)
  | @sleeps sleeper left _ _ before asked phase =>
    cases waiting
    exact @holds sleeper before
  | answered before brings =>
    cases waiting
    exact told brings (holds before)
  | ends => cases waiting

theorem step_informed
    (informed : ∀ {joining}, system.joining name = some joining → joining.join.Informed)
    (waiting : (system.step move).1.joining name = some joining) : joining.join.Informed :=
  (step_attends name system move).keeps Join.Informed informed Join.start_informed
    Join.load_informed Join.tick_informed (fun _ => Join.answer_informed _) waiting

theorem run_informed (moves : List Move) (free : system.joining name = none)
    (waiting : (system.run moves).joining name = some joining) : joining.join.Informed := by
  induction moves using List.reverseRecOn generalizing joining with
  | nil => cases free.symm.trans waiting
  | append_singleton earlier move ih =>
    rw [System.run_append] at waiting
    exact step_informed ih waiting

theorem run_endless (free : system.joining name = none)
    (patient : ∀ move ∈ moves, move.Patient name)
    (waiting : (system.run moves).joining name = some joining) : joining.join.Endless := by
  induction moves using List.reverseRecOn generalizing joining with
  | nil => cases free.symm.trans waiting
  | append_singleton earlier move ih =>
    rw [System.run_append] at waiting
    have before (move : Move) (member : move ∈ earlier) : move.Patient name :=
      patient move (List.mem_append_left _ member)
    have now : move.Patient name :=
      patient move (List.mem_append_right _ (List.mem_singleton_self move))
    refine (step_attends name (system.run earlier) move).keeps Join.Endless (ih before) ?_
      Join.load_endless Join.tick_endless (fun brings => Join.answer_endless (now _ brings)) waiting
    intro timeout start unbounded
    exact .inl rfl

/-! Sleeping over a cleared word -/

theorem System.sleepsOn_eq_some_iff : system.sleepsOn name = some block ↔
    ∃ joining memory, system.joining name = some joining ∧ joining.asleep = true ∧
      (system.handles name).memory = some memory ∧ memory.block = block := by
  unfold sleepsOn
  cases waiting : system.joining name with
  | none => simp
  | some joining =>
    cases asleep : joining.asleep <;> simp [asleep]

theorem step_sleepsOn (sleeps : (system.step move).1.sleepsOn name = some block) :
    ∃ joining memory, system.joining name = some joining ∧
      (system.handles name).memory = some memory ∧ memory.block = block ∧
      (joining.asleep = true ∨ (∃ now refusal, move = .join name now refusal) ∧
        ∃ left, joining.join.phase = .wait (system.joinWord name) left) := by
  obtain ⟨sleeper, memory, after, asleep, has, here⟩ := System.sleepsOn_eq_some_iff.mp sleeps
  have attends := step_attends name system move
  have goesOn : (system.step move).1.joining name ≠ none := by simp [after]
  rw [after] at attends
  have was {joining : Joining} (waiting : system.joining name = some joining) :
      (system.handles name).memory = some memory := by
    rw [← step_handles waiting goesOn]
    exact has
  generalize reached : some sleeper = next at attends
  cases attends with
  | kept => exact ⟨sleeper, memory, reached.symm, was reached.symm, here, Or.inl asleep⟩
  | begins | reads | looks | answered =>
    cases reached
    cases asleep
  | @sleeps joining left now refusal waiting asked phase =>
    exact ⟨joining, memory, waiting, was waiting, here, Or.inr ⟨⟨now, refusal, asked⟩, left, phase⟩⟩
  | ends => cases reached

theorem step_word {memory : ThreadMemory} (sound : Sound system) (lawful : move.Lawful system)
    (has : (system.handles name).memory = some memory)
    (zero : ((system.step move).1.machine.blocks memory.block).joinWord = 0) :
    (system.machine.blocks memory.block).joinWord = 0 ∨ move.Clears memory.block system := by
  have mine : system.held (.handle name) = some memory := has
  by_contra! running
  obtain ⟨thread, found⟩ : ∃ thread, system.threadAt? memory.block = some thread := by
    apply Option.ne_none_iff_exists'.mp
    exact fun absent => running.1 ((sound.crewed mine).absent_iff.mp absent)
  have runs : Running memory system := ⟨.handle name, thread, mine, found⟩
  have effect := step_effect sound lawful
  exact ((effect.running sound runs running.2).inUse (effect.sound sound)).word zero

theorem clears_wakes (clears : move.Clears block system) :
    block ∈ (system.step move).1.wakes := by
  obtain ⟨⟨answers, rfl⟩, thread, found, exiting⟩ := clears
  simp [System.step, System.threadStep, System.threadStep?, found, RuntimeThread.step, exiting,
    System.withStage]

theorem wake_awake (pending : block ∈ system.wakes) :
    (system.wake block).sleepsOn name ≠ some block := by
  intro sleeps
  obtain ⟨joining, memory, waiting, asleep, has, here⟩ := System.sleepsOn_eq_some_iff.mp sleeps
  rw [System.wake, if_pos pending] at waiting has
  dsimp only at waiting has
  split at waiting
  · obtain ⟨sleeper, -, rfl⟩ := Option.map_eq_some_iff.mp waiting
    unfold Joining.roused at asleep
    split at asleep
    · cases asleep
    · rename_i awake
      exact awake asleep
  · rename_i elsewhere
    exact elsewhere (System.sleepsOn_eq_some_iff.mpr ⟨joining, memory, waiting, asleep, has, here⟩)

theorem step_wakes (pending : block ∈ system.wakes) (unissued : move ≠ .wake block) :
    block ∈ (system.step move).1.wakes := by
  cases move with
  | call called call =>
    rw [System.step]
    split
    · exact pending
    · cases call with
      | create request caller answers => exact pending
      | start caller answers =>
        simp only [System.call, System.start]
        split <;> exact pending
      | stop timeout now =>
        simp only [System.call, System.stop]
        split <;> exact pending
      | destroy => exact pending
      | drop =>
        simp only [System.call, System.drop]
        split <;> exact pending
  | thread place answers =>
    rw [System.step]
    rcases System.threadStep_cases place answers system with ⟨same, -⟩ | ⟨_, stage, _, -, -, same⟩
    · rwa [same]
    · rw [same]
      cases stage with
      | some stage => exact pending
      | none => exact List.mem_append_left _ pending
  | wake place =>
    have different : block ≠ place := fun same => unissued (same ▸ rfl)
    rw [System.step, System.wake]
    split
    · exact (List.mem_erase_of_ne different).mpr pending
    · exact pending
  | join called now refusal =>
    rcases System.joinStep_cases called now refusal system with
      ⟨⟨waits, same⟩, -⟩ | ⟨joining, result, -, -, -, same⟩
    · rw [System.step, same]
      exact pending
    · rw [System.step, same]
      unfold System.finish
      split <;> exact pending
  | rouse called outcome => exact pending

/-- Whoever sleeps on a cleared word slept on it before the move, which was not the wake, or the move
cleared the word and asked for a wake. -/
theorem step_oversleeps (sound : Sound system) (lawful : move.Lawful system)
    (informed : ∀ {joining}, system.joining name = some joining → joining.join.Informed)
    (sleeps : (system.step move).1.Oversleeps name block) :
    (system.Oversleeps name block ∧ ¬(move = .wake block ∧ block ∈ system.wakes) ∧
        (block ∈ system.wakes → block ∈ (system.step move).1.wakes)) ∨
      move.Clears block system ∧ block ∈ (system.step move).1.wakes := by
  obtain ⟨sleep, word⟩ := sleeps
  obtain ⟨joining, memory, waiting, has, rfl, slept⟩ := step_sleepsOn sleep
  rcases step_word sound lawful has word with zero | clears
  · have issued : ¬(move = .wake memory.block ∧ memory.block ∈ system.wakes) := by
      rintro ⟨rfl, pending⟩
      exact wake_awake pending sleep
    refine .inl ⟨⟨?_, zero⟩, issued, fun pending => step_wakes pending fun asked =>
      issued ⟨asked, pending⟩⟩
    rcases slept with asleep | ⟨-, left, phase⟩
    · exact System.sleepsOn_eq_some_iff.mpr ⟨joining, memory, waiting, asleep, has, rfl⟩
    · have read := informed waiting
      rw [Join.Informed, phase] at read
      exact absurd ((system.joinWord_eq has).trans zero) read
  · exact .inr ⟨clears, clears_wakes clears⟩

theorem System.uncleared_append {first second : List Move} :
    System.Uncleared block (first ++ second) system ↔
      System.Uncleared block first system ∧
        System.Uncleared block second (system.run first) := by
  induction first generalizing system with
  | nil => simp [Uncleared, run]
  | cons move rest ih => simp [Uncleared, ih, run_cons, and_assoc]

/-- Over a cleared word somebody sleeps only as long as a wake is pending. -/
theorem run_pending (fresh : system.Fresh) (lawful : System.LawfulRun moves system)
    (sleeps : (system.run moves).Oversleeps name block) : block ∈ (system.run moves).wakes := by
  induction moves using List.reverseRecOn with
  | nil =>
    obtain ⟨joining, memory, waiting, -⟩ := System.sleepsOn_eq_some_iff.mp sleeps.1
    cases (fresh.joining name).symm.trans waiting
  | append_singleton earlier move ih =>
    obtain ⟨before, now⟩ := System.lawful_append.mp lawful
    rw [System.run_append] at sleeps ⊢
    rcases step_oversleeps (run_sound (.fresh fresh) before) now.1
      (run_informed earlier (fresh.joining name)) sleeps with ⟨slept, -, pending⟩ | ⟨-, pending⟩
    · exact pending (ih before slept)
    · exact pending

theorem run_awake (sound : Sound system)
    (informed : ∀ {joining}, system.joining name = some joining → joining.join.Informed)
    (lawful : System.LawfulRun moves system) (uncleared : System.Uncleared block moves system)
    (awake : ¬system.Oversleeps name block) : ¬(system.run moves).Oversleeps name block := by
  induction moves generalizing system with
  | nil => exact awake
  | cons move rest ih =>
    refine ih (step_sound sound lawful.1) (step_informed informed) lawful.2 uncleared.2 ?_
    intro sleeps
    rcases step_oversleeps sound lawful.1 informed sleeps with ⟨slept, -⟩ | ⟨clears, -⟩
    · exact awake slept
    · exact uncleared.1 clears

theorem run_unwoken (fresh : system.Fresh) (lawful : System.LawfulRun moves system)
    (sleeps : (system.run moves).Oversleeps name block) : ¬system.WokenAfterExit block moves := by
  rintro ⟨earlier, exit, between, later, rfl, -, pending, uncleared⟩
  -- The wake comes after the word was cleared for the last time. Nobody sleeps on it right after
  -- that, and then nobody comes to.
  have split : earlier ++ exit :: (between ++ .wake block :: later) =
      (earlier ++ exit :: between) ++ (.wake block :: later) := by simp
  rw [split, System.lawful_append] at lawful
  have reached : (system.run (earlier ++ [exit])).run between =
      system.run (earlier ++ exit :: between) := by
    rw [← System.run_append]
    simp
  rw [System.uncleared_append, reached] at uncleared
  have sound := run_sound (.fresh fresh) lawful.1
  have informed {joining : Joining}
      (waiting : (system.run (earlier ++ exit :: between)).joining name = some joining) :=
    run_informed _ (fresh.joining name) waiting
  have woken : ¬((system.run (earlier ++ exit :: between)).wake block).Oversleeps name block :=
    fun still => wake_awake pending still.1
  rw [split, System.run_append] at sleeps
  exact run_awake (step_sound sound lawful.2.1) (step_informed informed) lawful.2.2
    uncleared.2.2 woken sleeps

/-! Returning -/

def Join.stepsLeft (join : Join) : Nat :=
  match join.phase with
  | .finished _ => 1
  | .load | .recheck => 2
  | .wait .. => 3
  | .clock _ => 4

structure Returning (name : Nat) (joining : Joining) (system : System) : Prop where
  waiting : system.joining name = some joining
  awake : joining.asleep = false
  informed : joining.join.Informed
  zero : system.joinWord name = 0

theorem Returning.withJoin (returning : Returning name joining system) {join : Join}
    (informed : join.Informed) :
    Returning name { joining with join := join, asleep := false }
      (system.withJoin name joining join) :=
  ⟨Cells.set_same _ _ _, rfl, informed, returning.zero⟩

/-- The kernel lets nobody sleep over a cleared word, so each step brings the call nearer to its
end. -/
theorem Returning.step (returning : Returning name joining system) (now : Instant) :
    (system.joinStep name now none).1.joining name = none ∨
      ∃ further, Returning name further (system.joinStep name now none).1 ∧
        further.join.stepsLeft < joining.join.stepsLeft := by
  have goesOn (join : Join)
      (stepped : (system.joinStep name now none).1 = system.withJoin name joining join)
      (informed : join.Informed) (nearer : join.stepsLeft < joining.join.stepsLeft) :
      ∃ further, Returning name further (system.joinStep name now none).1 ∧
        further.join.stepsLeft < joining.join.stepsLeft := by
    rw [stepped]
    exact ⟨_, returning.withJoin informed, nearer⟩
  obtain ⟨waiting, awake, informed, zero⟩ := returning
  rcases joining with ⟨purpose, ⟨deadline, phase⟩, asleep⟩
  cases awake
  cases phase with
  | load =>
    exact .inr (goesOn ⟨deadline, .finished (.ok ())⟩
      (by simp [System.joinStep, waiting, zero, Join.load]) trivial (by simp [Join.stepsLeft]))
  | recheck =>
    exact .inr (goesOn ⟨deadline, .finished (.ok ())⟩
      (by simp [System.joinStep, waiting, zero, Join.load]) trivial (by simp [Join.stepsLeft]))
  | clock seen =>
    obtain ⟨read, limited⟩ := informed
    obtain ⟨limit, rfl⟩ := Option.isSome_iff_exists.mp limited
    refine .inr (goesOn (Join.tick now ⟨some limit, .clock seen⟩)
      (by simp [System.joinStep, waiting]) (Join.tick_informed now ⟨read, rfl⟩) ?_)
    simp only [Join.tick]
    split <;> simp [Join.stepsLeft]
  | wait seen left =>
    have read : seen ≠ 0 := informed
    exact .inr (goesOn ⟨deadline, .load⟩
      (by simp [System.joinStep, waiting, zero, read.symm, Join.answer]) trivial
      (by simp [Join.stepsLeft]))
  | finished result => exact .inl (by simp [System.joinStep, waiting, System.finish_joining])

theorem joinStep_free (free : system.joining name = none) (now : Instant) :
    (system.joinStep name now none).1.joining name = none := by
  simp [System.joinStep, free]

theorem Returning.run (now : Instant) {count : Nat} (returning : Returning name joining system)
    (enough : joining.join.stepsLeft ≤ count) :
    (system.run (List.replicate count (.join name now none))).joining name = none := by
  induction count generalizing system joining with
  | zero =>
    have positive : 0 < joining.join.stepsLeft := by
      unfold Join.stepsLeft
      split <;> decide
    omega
  | succ count ih =>
    rw [List.replicate_succ, System.run_cons]
    rcases returning.step now with done | ⟨further, nearer, less⟩
    -- What has returned takes no further steps.
    · have idle (rest : Nat) {system : System} (free : system.joining name = none) :
          (system.run (List.replicate rest (.join name now none))).joining name = none := by
        induction rest generalizing system with
        | zero => exact free
        | succ rest ih => exact ih (joinStep_free free now)
      exact idle count done
    · exact ih nearer (by omega)

theorem Join.stepsLeft_le (join : Join) : join.stepsLeft ≤ 4 := by
  unfold stepsLeft
  split <;> decide

theorem Join.Endless.finished {join : Join} {result : Except Error Unit} (endless : join.Endless)
    (unbounded : join.deadline = none) (phase : join.phase = .finished result) :
    result = .ok () := by
  rcases endless unbounded with loads | ⟨seen, waits⟩ | done
  · cases phase.symm.trans loads
  · cases phase.symm.trans waits
  · cases phase.symm.trans done
    rfl

theorem launch_asks {answers : LaunchAnswers} {memory : ThreadMemory} {machine : Machine}
    {call : LaunchCall} (asked : call ∈ (Handle.launch answers memory machine).1.calls) :
    call.meaning.setWord = memory.block + ControlBlock.joinWordOffset ∧
      call.meaning.clearWord = memory.block + ControlBlock.joinWordOffset := by
  simp only [Handle.launch, Launch.run] at asked
  split at asked
  · cases List.mem_singleton.mp asked
    exact ⟨rfl, rfl⟩
  · split at asked
    · rcases List.mem_pair.mp asked with rfl | rfl <;> exact ⟨rfl, rfl⟩
    · cases List.mem_singleton.mp asked
      exact ⟨rfl, rfl⟩

end

structure WakesArrive (moves : List Move) (start : System) : Prop where
  watched : ∀ {memory answers call},
    call ∈ (Handle.launch answers memory (start.run moves).machine).1.calls →
    call.meaning.setWord = memory.block + ControlBlock.joinWordOffset ∧
      call.meaning.clearWord = memory.block + ControlBlock.joinWordOffset
  asleep : ∀ {name joining}, (start.run moves).joining name = some joining →
    joining.asleep = true → (start.run moves).joinWord name = 0 →
    ∃ memory, ((start.run moves).handles name).memory = some memory ∧
      memory.block ∈ (start.run moves).wakes ∧ ¬start.WokenAfterExit memory.block moves ∧
      ((start.run moves).wake memory.block).joining name =
        some { joining with join := joining.join.answer (.ok ()), asleep := false }
  /-- Nobody else sleeps on that word: a wake for one is a wake for all. -/
  alone : ∀ {name other block}, (start.run moves).sleepsOn name = some block →
    (start.run moves).sleepsOn other = some block → other = name
  awake : ∀ {name joining} (now : Instant), (start.run moves).joining name = some joining →
    joining.asleep = false → (start.run moves).joinWord name = 0 →
    (start.run (moves ++ List.replicate 4 (.join name now none))).joining name = none
  returns : ∀ {earlier later name joining now refusal}, moves = earlier ++ later →
    (start.run earlier).joining name = none → (∀ move ∈ later, move.Patient name) →
    (start.run moves).joining name = some joining → joining.join.deadline = none →
    ((start.run moves).step (.join name now refusal)).2 ≠ .waits →
    (start.run moves).joinWord name = 0 ∧
      ((start.run moves).step (.join name now refusal)).2 = .returned

section

variable {system : System} {name : Nat} {joining : Joining} {memory : ThreadMemory}

theorem joinStep_returns {now : Instant} {refusal : Option OsError}
    (waiting : system.joining name = some joining)
    (returned : (system.joinStep name now refusal).2 ≠ .waits) :
    ∃ result, joining.join.phase = .finished result ∧
      system.joinStep name now refusal = system.finish name joining.purpose result := by
  rw [System.joinStep, waiting] at returned ⊢
  dsimp only at returned ⊢
  split at returned
  · exact absurd rfl returned
  · rename_i awake
    rw [if_neg awake]
    split at returned
    · exact absurd rfl returned
    · exact absurd rfl returned
    · exact absurd rfl returned
    · split at returned
      · exact absurd rfl returned
      · split at returned <;> exact absurd rfl returned
    · exact ⟨_, ‹_›, rfl⟩

theorem Sound.sleeper_alone {other block : Nat} (sound : Sound system)
    (sleeps : system.sleepsOn name = some block) (sleeper : system.sleepsOn other = some block) :
    other = name := by
  obtain ⟨-, memory, -, -, has, here⟩ := System.sleepsOn_eq_some_iff.mp sleeps
  obtain ⟨-, further, -, -, holds, there⟩ := System.sleepsOn_eq_some_iff.mp sleeper
  have mine : system.held (.handle name) = some memory := has
  have theirs : system.held (.handle other) = some further := holds
  by_contra different
  exact sound.ownership.blocks_differ (by simpa using different) theirs mine (there.trans here.symm)

theorem wake_rouses (waiting : system.joining name = some joining) (asleep : joining.asleep = true)
    (has : (system.handles name).memory = some memory) (pending : memory.block ∈ system.wakes) :
    (system.wake memory.block).joining name =
      some { joining with join := joining.join.answer (.ok ()), asleep := false } := by
  have sleeps : system.sleepsOn name = some memory.block :=
    System.sleepsOn_eq_some_iff.mpr ⟨joining, memory, waiting, asleep, has, rfl⟩
  rw [System.wake, if_pos pending]
  simp only [sleeps, if_true, waiting, Option.map_some, Joining.roused, asleep]

end

/-- No wake-up is lost: however calls, threads and the kernel follow one another, with any number of
spurious wakes and signals, nobody who waits for a thread sleeps on after the wake of its exit, and
nobody returns before the thread is gone. -/
theorem no_wake_lost {system : System} {moves : List Move} (fresh : system.Fresh)
    (lawful : System.LawfulRun moves system) : WakesArrive moves system := by
  have sound := run_sound (.fresh fresh) lawful
  refine ⟨launch_asks, ?_, sound.sleeper_alone, ?_, ?_⟩
  · intro name joining waiting asleep zero
    obtain ⟨memory, has, -⟩ := sound.memory_of_live (sound.waiting waiting).live
    have sleeps : (system.run moves).Oversleeps name memory.block := by
      refine ⟨System.sleepsOn_eq_some_iff.mpr ⟨joining, memory, waiting, asleep, has, rfl⟩, ?_⟩
      rw [← System.joinWord_eq _ has]
      exact zero
    have pending := run_pending fresh lawful sleeps
    exact ⟨memory, has, pending, run_unwoken fresh lawful sleeps,
      wake_rouses waiting asleep has pending⟩
  · intro name joining now waiting awake zero
    have informed := run_informed moves (fresh.joining name) waiting
    have returning : Returning name joining (system.run moves) := ⟨waiting, awake, informed, zero⟩
    rw [System.run_append]
    exact returning.run now joining.join.stepsLeft_le
  · rintro earlier later name joining now refusal rfl free patient waiting unbounded returned
    obtain ⟨result, phase, ended⟩ := joinStep_returns waiting returned
    have endless : joining.join.Endless := by
      rw [System.run_append] at waiting
      exact run_endless free patient waiting
    have well := endless.finished unbounded phase
    subst well
    refine ⟨(sound.waiting waiting).done phase, ?_⟩
    change ((system.run (earlier ++ later)).joinStep name now refusal).2 = .returned
    rw [ended]
    unfold System.finish
    split <;> rfl

def System.interruptedStop : List Move :=
  [.createAt 0 65536 7, .startAs 0 12] ++
    ([.call 0 (.stop none ⟨0⟩), .join 0 ⟨0⟩ none, .join 0 ⟨0⟩ none, .rouse 0 (.error .interrupted),
      .join 0 ⟨0⟩ none, .join 0 ⟨0⟩ none] ++ List.replicate 6 (.thread 331520 fun _ => none))

theorem no_wake_lost_interrupted :
    WakesArrive System.interruptedStop {} ∧
      (System.run System.interruptedStop {}).Oversleeps 0 331520 := by
  have fresh : System.Fresh {} := ⟨fun _ => rfl, rfl, rfl, fun _ => rfl, rfl, rfl⟩
  have answers : (MemoryAnswers.upTo 65536 (2 ^ 30)).Lawful {} :=
    MemoryAnswers.upTo_lawful (by decide) (by decide) (by simp)
  have starts : LaunchAnswers.Lawful ⟨12, 12⟩ := ⟨by decide, by decide⟩
  have lawful : System.LawfulRun System.interruptedStop {} := by
    refine System.lawful_append.mpr ⟨⟨answers, starts, trivial⟩, System.lawful_of_any ?_⟩
    simp [Move.Lawful]
  exact ⟨no_wake_lost fresh lawful, rfl, rfl⟩

-- A stop and a drop of two handles sleep at once, each on the word of its own thread.
example :
    let system := System.run [.createAt 0 65536 7, .createAt 1 1048576 8, .startAs 0 12,
      .startAs 1 13, .call 0 (.stop none ⟨0⟩), .join 0 ⟨0⟩ none, .call 1 .drop, .join 1 ⟨0⟩ none,
      .join 0 ⟨0⟩ none, .join 1 ⟨0⟩ none] {}
    system.sleepsOn 0 = some 331520 ∧ system.sleepsOn 1 = some 1314560 := ⟨rfl, rfl⟩

end ArenaThreads

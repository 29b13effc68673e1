import ArenaThreads.Proofs.Process.WakeUps
/-!
How a wait comes to its end. Whatever words it reads, whatever the clock shows and whatever the
kernel answers, its last one or two acts tell what it returns, and when they tell nothing it goes on.
-/

namespace ArenaThreads

/-- What a wait does: it reads the join word, looks at the clock, or asks the kernel to let it sleep
over an expected word for a while. -/
inductive WaitAct
  | read (word : Nat)
  | look (now : Instant)
  | sleep (expected : Nat) (timeout : Option Timespec) (outcome : Except OsError Unit)

structure Moment where
  word : Nat
  now : Instant
  outcome : Except OsError Unit

namespace Join

def act? (moment : Moment) (join : Join) : Option WaitAct :=
  match join.phase with
  | .load | .recheck => some (.read moment.word)
  | .clock _ => some (.look moment.now)
  | .wait seen left => some (.sleep seen (left.map Timespec.ofDuration) moment.outcome)
  | .finished _ => none

def react (moment : Moment) (join : Join) : Join :=
  match join.phase with
  | .load | .recheck => join.load moment.word
  | .clock _ => join.tick moment.now
  | .wait .. => join.answer moment.outcome
  | .finished _ => join

end Join

structure Watched where
  join : Join
  acts : List WaitAct := []

namespace Watched

def step (watched : Watched) (moment : Moment) : Watched :=
  ⟨watched.join.react moment, (watched.join.act? moment).toList ++ watched.acts⟩

def result? (watched : Watched) : Option (Except Error Unit) := watched.join.result?

end Watched

def Join.watch (timeout : Option Duration) (begun : Instant) (moments : List Moment) : Watched :=
  moments.foldl Watched.step ⟨Join.start timeout begun, []⟩

inductive Again : List WaitAct → Prop
  | first : Again []
  | slept {expected : Nat} {timeout : Option Timespec} {outcome : Except OsError Unit}
    {earlier : List WaitAct} (on : Join.GoesOn outcome) :
    Again (.sleep expected timeout outcome :: earlier)

/-- Where a wait is with a deadline after what it has done. -/
inductive Stands (deadline : Option Instant) : List WaitAct → JoinPhase → Prop
  | ready {acts : List WaitAct} (again : Again acts) : Stands deadline acts .load
  | seen {word : Nat} {acts : List WaitAct} (again : Again acts) (held : word ≠ 0)
    (limited : deadline.isSome = true) : Stands deadline (.read word :: acts) (.clock word)
  | endless {word : Nat} {acts : List WaitAct} (again : Again acts) (held : word ≠ 0)
    (unlimited : deadline = none) : Stands deadline (.read word :: acts) (.wait word none)
  | timed {word : Nat} {now limit : Instant} {acts : List WaitAct} (held : word ≠ 0)
    (limited : deadline = some limit) (early : now.nanos < limit.nanos) :
    Stands deadline (.look now :: .read word :: acts) (.wait word (some (now.left limit)))
  | expired {word : Nat} {now limit : Instant} {acts : List WaitAct} (held : word ≠ 0)
    (limited : deadline = some limit) (late : limit.nanos ≤ now.nanos) :
    Stands deadline (.look now :: .read word :: acts) (.finished (.error .timedOut))
  | doubtful {expected : Nat} {timeout : Option Timespec} {acts : List WaitAct} :
    Stands deadline (.sleep expected timeout (.error .timedOut) :: acts) .recheck
  | gone {acts : List WaitAct} : Stands deadline (.read 0 :: acts) (.finished (.ok ()))
  | overslept {word expected : Nat} {timeout : Option Timespec} {acts : List WaitAct}
    (held : word ≠ 0) :
    Stands deadline (.read word :: .sleep expected timeout (.error .timedOut) :: acts)
      (.finished (.error .timedOut))
  | failed {expected : Nat} {timeout : Option Timespec} {cause : OsError} {acts : List WaitAct}
    (fails : cause ∉ [.wouldBlock, .interrupted, .timedOut]) :
    Stands deadline (.sleep expected timeout (.error cause) :: acts)
      (.finished (.error (.wait cause)))

structure Timespec.Exactly (nanos : Nat) (timeout : Timespec) : Prop where
  valid : timeout.nanos < Duration.nanosPerSecond
  signed : timeout.seconds ≤ Timespec.maximumSeconds
  same : timeout.seconds * Duration.nanosPerSecond + timeout.nanos = nanos

/-- When a wait asks to sleep: it expects the word that it has just read, which is not zero, and
takes all the time left to its deadline if it has one. -/
def WaitAct.Asks (deadline : Option Instant) (expected : Nat) (timeout : Option Timespec)
    (earlier : List WaitAct) : Prop :=
  expected ≠ 0 ∧
    match deadline, timeout with
    | none, none => ∃ before, earlier = .read expected :: before
    | some limit, some timeout =>
      ∃ now before, earlier = .look now :: .read expected :: before ∧ now.nanos < limit.nanos ∧
        timeout.Exactly (limit.nanos - now.nanos)
    | _, _ => False

section

variable {deadline : Option Instant} {watched : Watched} {timeout : Option Duration}
  {begun now limit : Instant} {moments : List Moment} {moment : Moment} {join : Join}

/-! One act -/

theorem Instant.after?_eq_some {span : Duration} (after : begun.after? span = some limit) :
    limit.nanos = begun.nanos + span.nanos ∧ limit.nanos < Instant.limit := by
  obtain ⟨fits, same⟩ := Option.ite_none_right_eq_some.mp after
  cases same
  exact ⟨rfl, fits⟩

theorem Join.deadline_fits (given : timeout.bind begun.after? = some limit) :
    limit.nanos < Instant.limit := by
  obtain ⟨span, -, after⟩ := Option.bind_eq_some_iff.mp given
  exact (Instant.after?_eq_some after).2

theorem Timespec.ofDuration_exactly (fits : limit.nanos < Instant.limit) :
    (Timespec.ofDuration (now.left limit)).Exactly (limit.nanos - now.nanos) := by
  have whole := Nat.div_add_mod' (limit.nanos - now.nanos) Duration.nanosPerSecond
  have seconds : (limit.nanos - now.nanos) / Duration.nanosPerSecond ≤ maximumSeconds := by
    simp only [Instant.limit, maximumSeconds, Duration.nanosPerSecond] at *
    omega
  refine ⟨Nat.mod_lt _ (by decide), Nat.min_le_right _ _, ?_⟩
  simp only [ofDuration, Duration.seconds, Duration.subsecondNanos, Instant.left,
    Nat.min_eq_left seconds]
  exact whole

theorem Join.react_deadline (moment : Moment) (join : Join) :
    (join.react moment).deadline = join.deadline := by
  unfold react load tick answer
  grind

theorem Stands.read {acts : List WaitAct} (again : Again acts) (word : Nat) :
    Stands deadline (.read word :: acts) (Join.load word ⟨deadline, .load⟩).phase := by
  by_cases cleared : word = 0
  · subst cleared
    exact .gone
  · cases deadline with
    | none =>
      rw [Join.load, if_neg cleared]
      exact .endless again cleared rfl
    | some limit =>
      rw [Join.load, if_neg cleared]
      exact .seen again cleared rfl

theorem Stands.look {word : Nat} {acts : List WaitAct} (held : word ≠ 0) (now : Instant) :
    Stands (some limit) (.look now :: .read word :: acts)
      (Join.tick now ⟨some limit, .clock word⟩).phase := by
  by_cases late : limit.nanos ≤ now.nanos
  · simp only [Join.tick, if_pos late]
    exact .expired held rfl late
  · simp only [Join.tick, if_neg late]
    exact .timed held rfl (Nat.lt_of_not_le late)

theorem Stands.answer (expected seen : Nat) (spec : Option Timespec) (left : Option Duration)
    (acts : List WaitAct) (outcome : Except OsError Unit) :
    Stands deadline (.sleep expected spec outcome :: acts)
      (Join.answer outcome ⟨deadline, .wait seen left⟩).phase := by
  cases outcome with
  | ok done => exact .ready (.slept trivial)
  | error cause =>
    by_cases on : cause = .wouldBlock ∨ cause = .interrupted
    · simp only [Join.answer, if_pos on]
      exact .ready (.slept on)
    · by_cases timedOut : cause = .timedOut
      · subst timedOut
        exact .doubtful
      · simp only [Join.answer, if_neg on, OsError.isTimeout, timedOut, decide_false]
        exact .failed (by simpa [timedOut] using on)

theorem Stands.reread (expected word : Nat) (spec : Option Timespec) (acts : List WaitAct) :
    Stands deadline (.read word :: .sleep expected spec (.error .timedOut) :: acts)
      (Join.load word ⟨deadline, .recheck⟩).phase := by
  by_cases cleared : word = 0
  · subst cleared
    exact .gone
  · simp only [Join.load, if_neg cleared]
    exact .overslept cleared

theorem Stands.step (stands : Stands watched.join.deadline watched.acts watched.join.phase)
    (moment : Moment) :
    Stands watched.join.deadline (watched.step moment).acts (watched.step moment).join.phase := by
  rcases watched with ⟨⟨deadline, phase⟩, acts⟩
  cases stands with
  | ready again => exact .read again moment.word
  | seen again held limited =>
    obtain ⟨limit, limited⟩ := Option.isSome_iff_exists.mp limited
    dsimp only at limited
    subst limited
    exact .look held moment.now
  | endless => exact .answer ..
  | timed => exact .answer ..
  | doubtful => exact .reread ..
  | expired held limited late => exact .expired held limited late
  | gone => exact .gone
  | overslept held => exact .overslept held
  | failed fails => exact .failed fails

theorem Stands.asks {acts : List WaitAct} {seen : Nat} {left : Option Duration}
    (stands : Stands deadline acts (.wait seen left))
    (fits : ∀ limit, deadline = some limit → limit.nanos < Instant.limit) :
    WaitAct.Asks deadline seen (left.map Timespec.ofDuration) acts := by
  cases stands with
  | endless again held unlimited =>
    subst unlimited
    exact ⟨held, _, rfl⟩
  | timed held limited early =>
    subst limited
    exact ⟨held, _, _, rfl, early, Timespec.ofDuration_exactly (fits _ rfl)⟩

/-! Runs of acts -/

/-- A wait stands where its acts have led it, and has asked rightly whenever it went to sleep. -/
structure Watched.Tells (deadline : Option Instant) (watched : Watched) : Prop where
  same : watched.join.deadline = deadline
  stands : Stands deadline watched.acts watched.join.phase
  asks : ∀ later expected spec outcome earlier,
    watched.acts = later ++ .sleep expected spec outcome :: earlier →
      WaitAct.Asks deadline expected spec earlier

theorem Watched.Tells.step (tells : watched.Tells deadline)
    (fits : ∀ limit, deadline = some limit → limit.nanos < Instant.limit) (moment : Moment) :
    (watched.step moment).Tells deadline := by
  obtain ⟨rfl, stands, asks⟩ := tells
  refine ⟨Join.react_deadline _ _, stands.step moment, ?_⟩
  intro later expected spec outcome earlier acted
  rcases watched with ⟨⟨deadline, phase⟩, acts⟩
  cases phase with
  | wait seen left =>
    cases later with
    | nil =>
      cases acted
      exact stands.asks fits
    | cons act later =>
      cases acted
      exact asks later _ _ _ _ rfl
  | finished result => exact asks later _ _ _ _ acted
  | _ =>
    cases later with
    | nil => cases acted
    | cons act later =>
      cases acted
      exact asks later _ _ _ _ rfl

theorem Join.watch_append (timeout : Option Duration) (begun : Instant) (moments : List Moment)
    (moment : Moment) :
    Join.watch timeout begun (moments ++ [moment]) = (Join.watch timeout begun moments).step moment := by
  simp [watch]

theorem Join.watch_tells (timeout : Option Duration) (begun : Instant) (moments : List Moment) :
    (Join.watch timeout begun moments).Tells (timeout.bind begun.after?) := by
  -- From the last moment: what a wait does then depends on where the earlier ones have led it.
  induction moments using List.reverseRecOn with
  | nil => exact ⟨rfl, .ready .first, by simp [Join.watch]⟩
  | append_singleton moments moment ih =>
    rw [watch_append]
    exact ih.step (fun limit => Join.deadline_fits) moment

theorem Join.watch_onward (going : (Join.watch timeout begun moments).result? = none) :
    (Join.watch timeout begun moments).acts.length = moments.length := by
  induction moments using List.reverseRecOn with
  | nil => rfl
  | append_singleton moments moment ih =>
    rw [watch_append] at going ⊢
    generalize Join.watch timeout begun moments = watched at going ih ⊢
    rcases watched with ⟨⟨deadline, phase⟩, acts⟩
    cases phase with
    | finished result => cases going
    | _ => simpa [Watched.step, Join.act?] using ih rfl

theorem Watched.step_finished {result : Except Error Unit}
    (ended : watched.result? = some result) (moment : Moment) : watched.step moment = watched := by
  rcases watched with ⟨⟨deadline, phase⟩, acts⟩
  cases phase with
  | finished => rfl
  | _ => cases ended

theorem Watched.foldl_finished {result : Except Error Unit}
    (ended : watched.result? = some result) (moments : List Moment) :
    moments.foldl Watched.step watched = watched := by
  induction moments with
  | nil => rfl
  | cons moment rest ih => rw [List.foldl_cons, step_finished ended, ih]

theorem Join.watch_poll (real : begun.nanos < Instant.limit) (first second : Moment)
    (forward : begun.nanos ≤ second.now.nanos) (rest : List Moment) :
    let watched := Join.watch (some ⟨0⟩) begun (first :: second :: rest)
    watched.result? = some (if first.word = 0 then .ok () else .error .timedOut) ∧
      watched.acts <:+ [.look second.now, .read first.word] := by
  have opening : Join.start (some ⟨0⟩) begun = ⟨some begun, .load⟩ := by
    simp [Join.start, Instant.after?, real]
  dsimp only
  rw [watch, opening, List.foldl_cons]
  by_cases cleared : first.word = 0
  · have ended : (Watched.step ⟨⟨some begun, .load⟩, []⟩ first).result? = some (.ok ()) := by
      simp [Watched.step, react, load, cleared, Watched.result?, result?]
    rw [Watched.foldl_finished ended, ended, if_pos cleared]
    exact ⟨rfl, List.suffix_cons _ _⟩
  · have looked : Watched.step (Watched.step ⟨⟨some begun, .load⟩, []⟩ first) second =
        ⟨⟨some begun, .finished (.error .timedOut)⟩, [.look second.now, .read first.word]⟩ := by
      simp [Watched.step, react, load, tick, act?, cleared, forward]
    rw [List.foldl_cons, looked, Watched.foldl_finished rfl, if_neg cleared]
    exact ⟨rfl, List.suffix_rfl⟩

/-! What the last acts tell -/

theorem Watched.result?_eq_some {result : Except Error Unit} :
    watched.result? = some result ↔ watched.join.phase = .finished result := by
  rcases watched with ⟨⟨deadline, phase⟩, acts⟩
  cases phase <;> simp [result?, Join.result?]

theorem Again.not_read {word : Nat} {acts : List WaitAct} : ¬Again (.read word :: acts) := by
  intro again
  cases again

theorem Again.not_look {now : Instant} {acts : List WaitAct} : ¬Again (.look now :: acts) := by
  intro again
  cases again

theorem Again.goesOn {expected : Nat} {spec : Option Timespec} {outcome : Except OsError Unit}
    {acts : List WaitAct} (again : Again (.sleep expected spec outcome :: acts)) :
    Join.GoesOn outcome := by
  cases again with
  | slept on => exact on

theorem Stands.returned_iff {acts : List WaitAct} {phase : JoinPhase}
    (stands : Stands deadline acts phase) :
    phase = .finished (.ok ()) ↔ ∃ earlier, acts = .read 0 :: earlier := by
  constructor
  · rintro rfl
    cases stands
    exact ⟨_, rfl⟩
  · rintro ⟨earlier, rfl⟩
    cases stands with
    | ready again => exact again.not_read.elim
    | gone => rfl
    | seen again held | endless again held | overslept held => exact (held rfl).elim

theorem Stands.timedOut_iff {acts : List WaitAct} {phase : JoinPhase}
    (stands : Stands deadline acts phase) :
    phase = .finished (.error .timedOut) ↔
      (∃ limit now word earlier, deadline = some limit ∧ limit.nanos ≤ now.nanos ∧ word ≠ 0 ∧
        acts = .look now :: .read word :: earlier) ∨
      ∃ word expected spec earlier, word ≠ 0 ∧
        acts = .read word :: .sleep expected spec (.error .timedOut) :: earlier := by
  constructor
  · rintro rfl
    cases stands with
    | expired held limited late => exact .inl ⟨_, _, _, _, limited, late, held, rfl⟩
    | overslept held => exact .inr ⟨_, _, _, _, held, rfl⟩
  · rintro (⟨limit, now, word, earlier, rfl, late, -, rfl⟩ |
      ⟨word, expected, spec, earlier, held, rfl⟩)
    · cases stands with
      | ready again => exact again.not_look.elim
      | timed held limited early =>
        cases limited
        omega
      | expired => rfl
    · have spent : ¬Again (.sleep expected spec (.error .timedOut) :: earlier) := by
        intro again
        have on := again.goesOn
        simp [Join.GoesOn, OsError.timedOut, OsError.wouldBlock, OsError.interrupted] at on
      cases stands with
      | ready again => exact again.not_read.elim
      | gone => exact (held rfl).elim
      | seen again | endless again => exact (spent again).elim
      | overslept => rfl

theorem Stands.failed_iff {acts : List WaitAct} {phase : JoinPhase} {cause : OsError}
    (stands : Stands deadline acts phase) :
    phase = .finished (.error (.wait cause)) ↔ cause ∉ [.wouldBlock, .interrupted, .timedOut] ∧
      ∃ expected spec earlier, acts = .sleep expected spec (.error cause) :: earlier := by
  constructor
  · rintro rfl
    cases stands with
    | failed fails => exact ⟨fails, _, _, _, rfl⟩
  · rintro ⟨fails, expected, spec, earlier, rfl⟩
    cases stands with
    | ready again =>
      have on := again.goesOn
      simp only [Join.GoesOn] at on
      simp_all
    | doubtful => simp at fails
    | failed => rfl

theorem Stands.known {acts : List WaitAct} {error : Error}
    (stands : Stands deadline acts (.finished (.error error))) :
    error = .timedOut ∨ ∃ cause, error = .wait cause := by
  cases stands with
  | expired | overslept => exact .inl rfl
  | failed => exact .inr ⟨_, rfl⟩

theorem Watched.Tells.endless (tells : watched.Tells none)
    (ended : watched.result? = some (.error .timedOut)) :
    ∃ expected, .sleep expected none (.error .timedOut) ∈ watched.acts := by
  rcases tells.stands.timedOut_iff.mp (result?_eq_some.mp ended) with
    ⟨limit, now, word, earlier, limited, -⟩ | ⟨word, expected, spec, earlier, -, acts⟩
  · cases limited
  · have asked := tells.asks [.read word] expected spec _ earlier acts
    cases spec with
    | none => exact ⟨expected, by simp [acts]⟩
    | some spec => exact asked.2.elim

/-! Waits of a process -/

/-- The wait is one over some moments, so that all that is known about those is known about it. -/
def Join.Unfolds (join : Join) : Prop :=
  ∃ timeout begun moments, join = (Join.watch timeout begun moments).join

theorem Join.Unfolds.react (unfolds : join.Unfolds) (moment : Moment) :
    (join.react moment).Unfolds := by
  obtain ⟨timeout, begun, moments, rfl⟩ := unfolds
  exact ⟨timeout, begun, moments ++ [moment], by rw [watch_append]; rfl⟩

theorem Join.Unfolds.load (word : Nat) (unfolds : join.Unfolds) : (join.load word).Unfolds := by
  have reacted := unfolds.react ⟨word, ⟨0⟩, .ok ()⟩
  rcases join with ⟨deadline, phase⟩
  cases phase with
  | load | recheck => exact reacted
  | _ => exact unfolds

theorem Join.Unfolds.tick (now : Instant) (unfolds : join.Unfolds) : (join.tick now).Unfolds := by
  have reacted := unfolds.react ⟨0, now, .ok ()⟩
  rcases join with ⟨deadline, phase⟩
  cases phase with
  | clock seen => exact reacted
  | _ => exact unfolds

theorem Join.Unfolds.answer (outcome : Except OsError Unit) (unfolds : join.Unfolds) :
    (join.answer outcome).Unfolds := by
  have reacted := unfolds.react ⟨0, ⟨0⟩, outcome⟩
  rcases join with ⟨deadline, phase⟩
  cases phase with
  | wait seen left => exact reacted
  | _ => exact unfolds

theorem Join.Unfolds.known {error : Error} (unfolds : join.Unfolds)
    (ended : join.phase = .finished (.error error)) :
    error = .timedOut ∨ ∃ cause, error = .wait cause := by
  obtain ⟨timeout, begun, moments, rfl⟩ := unfolds
  have stands := (watch_tells timeout begun moments).stands
  rw [ended] at stands
  exact stands.known

theorem run_unfolds {system : System} {moves : List Move} {name : Nat} {joining : Joining}
    (free : system.joining name = none)
    (waiting : (system.run moves).joining name = some joining) : joining.join.Unfolds := by
  induction moves using List.reverseRecOn generalizing joining with
  | nil => cases free.symm.trans waiting
  | append_singleton earlier move ih =>
    rw [System.run_append] at waiting
    exact (step_attends name (system.run earlier) move).keeps Join.Unfolds ih
      (fun timeout now => ⟨timeout, now, [], rfl⟩) Join.Unfolds.load Join.Unfolds.tick
      (fun _ => Join.Unfolds.answer _) waiting

end

structure JoinClassified (timeout : Option Duration) (begun : Instant) (moments : List Moment)
    (watched : Watched) : Prop where
  returned : watched.result? = some (.ok ()) ↔ ∃ earlier, watched.acts = .read 0 :: earlier
  timedOut : watched.result? = some (.error .timedOut) ↔
    (∃ limit now word earlier, timeout.bind begun.after? = some limit ∧ limit.nanos ≤ now.nanos ∧
      word ≠ 0 ∧ watched.acts = .look now :: .read word :: earlier) ∨
    ∃ word expected spec earlier, word ≠ 0 ∧
      watched.acts = .read word :: .sleep expected spec (.error .timedOut) :: earlier
  failed : ∀ cause, watched.result? = some (.error (.wait cause)) ↔
    cause ∉ [.wouldBlock, .interrupted, .timedOut] ∧
      ∃ expected spec earlier, watched.acts = .sleep expected spec (.error cause) :: earlier
  known : ∀ error, watched.result? = some (.error error) →
    error = .timedOut ∨ ∃ cause, error = .wait cause
  onward : watched.result? = none → watched.acts.length = moments.length
  asks : ∀ later expected spec outcome earlier,
    watched.acts = later ++ .sleep expected spec outcome :: earlier →
      WaitAct.Asks (timeout.bind begun.after?) expected spec earlier
  polls : timeout = some ⟨0⟩ → ∃ word now, watched.acts <:+ [.look now, .read word] ∧
    ∀ first second rest, moments = first :: second :: rest →
      watched.result? = some (if first.word = 0 then .ok () else .error .timedOut)
  endless : timeout.bind begun.after? = none →
    (∀ expected, .sleep expected none (.error .timedOut) ∉ watched.acts) →
      watched.result? ≠ some (.error .timedOut)

/-- A wait classifies every outcome: for all timeouts, and for whatever words, readings of a clock
that never runs backwards and answers of the kernel it comes by. -/
theorem joins_classified {begun : Instant} {moments : List Moment} (timeout : Option Duration)
    (real : begun.nanos < Instant.limit)
    (forward : (begun :: moments.map Moment.now).Pairwise fun earlier later =>
      earlier.nanos ≤ later.nanos) :
    JoinClassified timeout begun moments (Join.watch timeout begun moments) := by
  have tells := Join.watch_tells timeout begun moments
  constructor
  · exact Watched.result?_eq_some.trans tells.stands.returned_iff
  · exact Watched.result?_eq_some.trans tells.stands.timedOut_iff
  · exact fun cause => Watched.result?_eq_some.trans tells.stands.failed_iff
  · intro error ended
    exact (Watched.result?_eq_some.mp ended ▸ tells.stands).known
  · exact Join.watch_onward
  · exact tells.asks
  · rintro rfl
    cases moments with
    | nil => exact ⟨0, begun, List.nil_suffix, by simp⟩
    | cons first moments =>
      cases moments with
      | nil =>
        have read : (Join.watch (some ⟨0⟩) begun [first]).acts = [.read first.word] := rfl
        rw [read]
        exact ⟨first.word, begun, List.suffix_cons _ _, by simp⟩
      | cons second rest =>
        have later : begun.nanos ≤ second.now.nanos :=
          (List.pairwise_cons.mp forward).1 _ (by simp)
        obtain ⟨ended, acts⟩ := Join.watch_poll real first second later rest
        refine ⟨_, _, acts, ?_⟩
        intro one other further same
        cases same
        exact ended
  · intro unlimited patient ended
    obtain ⟨expected, slept⟩ := (unlimited ▸ tells).endless ended
    exact patient expected slept

theorem joins_classified_interrupted :
    let moments : List Moment := [⟨12, ⟨10⟩, .ok ()⟩, ⟨12, ⟨11⟩, .ok ()⟩,
      ⟨12, ⟨12⟩, .error .interrupted⟩, ⟨12, ⟨13⟩, .ok ()⟩, ⟨12, ⟨15⟩, .ok ()⟩]
    let watched := Join.watch (some ⟨5⟩) ⟨10⟩ moments
    watched.result? = some (.error .timedOut) ∧
      watched.acts = [.look ⟨15⟩, .read 12, .sleep 12 (some ⟨0, 4⟩) (.error .interrupted),
        .look ⟨11⟩, .read 12] ∧
      JoinClassified (some ⟨5⟩) ⟨10⟩ moments watched :=
  ⟨rfl, rfl, joins_classified (some ⟨5⟩) (by decide) (by decide)⟩

end ArenaThreads

import ArenaThreads.Log.Session
import ArenaThreads.Log.Standard
import ArenaThreads.Outcome
/-!
Starting the log more than once. The first start that is not refused decides on the subscriber with its
filter, format and output, and on the file that is opened. Every later one finds the log started and
leaves all of this alone, whatever its settings and its environment, and wherever it comes between the
events that are reported. The subscriber of a host gets everything.
-/

namespace ArenaThreads

inductive LogChannel
  | host
  | console
  | file (place : FilePlace)
  deriving DecidableEq, Repr

inductive LogAct
  | start (env : Environment) (settings : LogSettings)
  | report (event : Event)

def LogAct.event? : LogAct → Option Event
  | .start .. => none
  | .report event => some event

namespace LogSession

variable {φ : Type} (backend : LogBackend φ)

def shows (channel : LogChannel) (session : LogSession φ) (events : List Event) : List Event :=
  match channel with
  | .host => if session.host then events else []
  | .console => session.toConsole backend events
  | .file place => session.toFile backend place events

def shown (channel : LogChannel) : List LogAct → LogSession φ → List Event
  | [], _ => []
  | .report event :: rest, session =>
    session.shows backend channel [event] ++ shown channel rest session
  | .start env settings :: rest, session =>
    match session.start backend env settings with
    | .error _ => []
    | .ok started => shown channel rest started

structure Begun (env : Environment) (settings : LogSettings) (before after : LogSession φ) :
    Prop where
  initialized : after.initialized = true
  host : after.host = before.host
  made : ∃ filter output, backend.filterFor env settings = .ok filter ∧
    LogSession.output backend settings before.tree = some (output, after.tree) ∧
    after.subscriber = (if before.host then none else some ⟨filter, settings.json, output⟩) ∧
    after.kept = output.file?

/-- A log after its first start: no later start makes a difference, and nothing gets lost. -/
structure Settled (env : Environment) (settings : LogSettings) (before after : LogSession φ) : Prop
    extends Begun backend env settings before after where
  later : ∀ starts, before.startAll backend ((env, settings) :: starts) = (none, after)
  shown : ∀ channel acts,
    after.shown backend channel acts =
      after.shows backend channel (acts.filterMap LogAct.event?)
  hosted : before.host = true → ∀ events, after.shows backend .host events = events ∧
    after.shows backend .console events = [] ∧
    ∀ place, after.shows backend (.file place) events = []
  console : ∀ filter json, after.subscriber = some ⟨filter, json, .console⟩ →
    ∀ events, after.shows backend .console events = events.filter (backend.admits filter)
  file : ∀ filter json place, after.subscriber = some ⟨filter, json, .file (.inside place)⟩ →
    ∀ events, after.shows backend (.file place) events = events.filter (backend.admits filter)

section

variable {backend : LogBackend φ} {env : Environment} {settings : LogSettings}
  {session before after : LogSession φ} {refusal : StartRefusal}

/-! Later starts -/

theorem start_initialized (started : session.initialized = true) :
    session.start backend env settings = .ok session := by
  rw [start, if_pos started]

theorem startAll_initialized (started : session.initialized = true)
    (starts : List (Environment × LogSettings)) : session.startAll backend starts = (none, session) := by
  induction starts with
  | nil => rfl
  | cons first rest ih =>
    rw [startAll, start_initialized started]
    exact ih

theorem shows_append (channel : LogChannel) (session : LogSession φ) (first second : List Event) :
    session.shows backend channel (first ++ second) =
      session.shows backend channel first ++ session.shows backend channel second := by
  have written : session.written backend (first ++ second) =
      session.written backend first ++ session.written backend second := by
    cases subscribed : session.subscriber with
    | none => simp [LogSession.written, subscribed]
    | some subscriber => simp [LogSession.written, subscribed]
  cases channel with
  | host => cases hosted : session.host <;> simp [shows, hosted]
  | console =>
    simp only [shows, toConsole]
    split
    · exact written
    · rfl
  | file place =>
    simp only [shows, toFile]
    split
    · split
      · exact written
      · rfl
    · rfl

theorem shown_initialized (started : session.initialized = true) (channel : LogChannel)
    (acts : List LogAct) :
    session.shown backend channel acts =
      session.shows backend channel (acts.filterMap LogAct.event?) := by
  -- A start leaves the log as it is, and a report comes out before those that follow it.
  induction acts with
  | nil =>
    have nothing := @shows_append φ backend channel session [] []
    simpa [shown] using nothing
  | cons act rest ih =>
    cases act with
    | start env settings =>
      rw [shown, start_initialized started]
      exact ih
    | report event =>
      rw [shown, ih, ← shows_append]
      rfl

/-! The first start -/

theorem start_begun (fresh : before.initialized = false) (unkept : before.kept = none)
    (started : before.start backend env settings = .ok after) :
    Begun backend env settings before after := by
  rw [start, if_neg (by simp [fresh])] at started
  cases read : backend.filterFor env settings with
  | error cut =>
    rw [read] at started
    cases started
  | ok filter =>
    cases opened : output backend settings before.tree with
    | none =>
      rw [read] at started
      dsimp only at started
      rw [opened] at started
      cases started
    | some reached =>
      rw [read] at started
      dsimp only at started
      rw [opened] at started
      cases started
      exact ⟨rfl, rfl, filter, reached.1, read, opened, rfl, by simp [unkept]⟩

theorem Begun.kept_file {filter : φ} {json : Bool} {location : Location}
    (begun : Begun backend env settings before after)
    (subscribed : after.subscriber = some ⟨filter, json, .file location⟩) :
    after.kept = some location := by
  obtain ⟨filter, output, -, -, subscriber, kept⟩ := begun.made
  rw [subscriber] at subscribed
  obtain ⟨-, same⟩ := Option.ite_none_left_eq_some.mp subscribed
  cases same
  exact kept

theorem Begun.settled (begun : Begun backend env settings before after)
    (started : before.start backend env settings = .ok after) :
    Settled backend env settings before after where
  toBegun := begun
  later starts := by
    rw [startAll, started]
    exact startAll_initialized begun.initialized starts
  shown := shown_initialized begun.initialized
  hosted := by
    intro hosted events
    have unsubscribed : after.subscriber = none := by
      obtain ⟨filter, output, -, -, subscriber, -⟩ := begun.made
      rw [subscriber, if_pos hosted]
    refine ⟨?_, ?_, fun place => ?_⟩
    · rw [shows, begun.host, if_pos hosted]
    · simp [shows, toConsole, unsubscribed]
    · simp [shows, toFile, unsubscribed]
  console filter json subscribed events := by
    simp [shows, toConsole, LogSession.written, subscribed]
  file filter json place subscribed events := by
    simp [shows, toFile, LogSession.written, subscribed, begun.kept_file subscribed]

/-- For every process, with a subscriber of the host or without, whatever backend it has, and for all
settings and environments of the first start and of the later ones: either the first start succeeds and
settles the log, or it is refused and nothing has been started. -/
theorem first_start_decides (backend : LogBackend φ) (host : Bool) (tree : WorkingTree)
    (env : Environment) (settings : LogSettings) :
    (∀ after, ({ host := host, tree := tree } : LogSession φ).start backend env settings =
        .ok after → Settled backend env settings { host := host, tree := tree } after) ∧
    ∀ refusal, ({ host := host, tree := tree } : LogSession φ).start backend env settings =
        .error refusal → ∀ starts, ∃ after,
      ({ host := host, tree := tree } : LogSession φ).startAll backend ((env, settings) :: starts) =
          (some refusal, after) ∧
        after.initialized = false ∧ after.subscriber = none ∧ after.kept = none := by
  constructor
  · intro after started
    exact (start_begun rfl rfl started).settled started
  · intro refusal refused starts
    refine ⟨{ host := host, tree := tree }, ?_, rfl, rfl, rfl⟩
    rw [startAll, refused]

end

theorem first_start_decides_hosted :
    (∃ after, ({ host := true } : LogSession LogFilter).start .standard .unset .debug = .ok after ∧
      Settled .standard .unset .debug { host := true } after) ∧
    let settings : LogSettings := { fileOutput := true, path := some "log/today" }
    let session : LogSession LogFilter := { tree := { files := [["log".toList]] } }
    session.start .standard .unset settings = .error .file ∧
      ∀ starts, ∃ after,
        session.startAll .standard ((.unset, settings) :: starts) = (some .file, after) ∧
        after.initialized = false ∧ after.subscriber = none ∧ after.kept = none := by
  constructor
  · have started : ({ host := true } : LogSession LogFilter).start .standard .unset .debug =
        .ok { initialized := true, host := true,
              tree := { files := [[LogSettings.defaultFileName.toList]] },
              kept := some (.inside [LogSettings.defaultFileName.toList]) } := by
      decide +kernel
    exact ⟨_, started, (first_start_decides .standard true {} .unset .debug).1 _ started⟩
  · intro settings session
    have refused : session.start .standard .unset settings = .error .file := by decide +kernel
    exact ⟨refused,
      (first_start_decides .standard false session.tree .unset settings).2 .file refused⟩

end LogSession

end ArenaThreads

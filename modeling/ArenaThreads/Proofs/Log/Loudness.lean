import ArenaThreads.Log.Session
import ArenaThreads.Proofs.Log.Directives
/-!
How much is written of what the library reports. Where the environment has no filter, the settings
make one of their level, for targets that begin with the name of the library. The library reports
under two targets, and neither does: whatever the level, nothing is written.
-/

namespace ArenaThreads

theorem Event.target_eq (event : Event) : event.target = "arena" ∨ event.target = "thread" := by
  cases event <;> simp [target]

namespace LogBackend

variable {φ : Type} {backend : LogBackend φ} {env : Environment} {settings : LogSettings} {filter : φ}

/-- The environment gives no filter: its variable is not set to text, or the text is no filter. -/
def NoFilter (backend : LogBackend φ) (env : Environment) : Prop :=
  ∀ text filter, env.text? LogSettings.filterVariable = some text → backend.parse text ≠ .ok filter

theorem Heeds.passes_nothing (heeds : backend.Heeds) (settings : LogSettings) (event : Event) :
    backend.admits (backend.parseLossy settings.directive) event = false := by
  have arena : LogSettings.libraryTarget.toList.isPrefixOf "arena".toList = false := by decide
  have thread : LogSettings.libraryTarget.toList.isPrefixOf "thread".toList = false := by decide
  rw [LogSettings.directive, heeds LogSettings.libraryTarget settings.level event (by decide)]
  rcases event.target_eq with target | target
  · rw [target, arena, Bool.false_and]
  · rw [target, thread, Bool.false_and]

theorem NoFilter.filterFor (nothing : backend.NoFilter env)
    (made : backend.filterFor env settings = .ok filter) :
    filter = backend.parseLossy settings.directive := by
  unfold LogBackend.filterFor at made
  cases text : env.text? LogSettings.filterVariable with
  | none =>
    rw [text] at made
    cases made
    rfl
  | some content =>
    cases read : backend.parse content with
    | ok other => exact absurd read (nothing content other text)
    | error trouble =>
      rw [text, Option.map_some, read] at made
      cases trouble with
      | malformed =>
        cases made
        rfl
      | broken cut => cases made

end LogBackend

namespace LogSession

variable {φ : Type}

def Governed (backend : LogBackend φ) (level : Level) (session : LogSession φ) : Prop :=
  ∀ events, session.written backend events = events.filter (·.reaches level)

structure Unheard (backend : LogBackend φ) (settings : LogSettings) (session : LogSession φ) :
    Prop where
  filter : ∀ subscriber, session.subscriber = some subscriber →
    subscriber.filter = backend.parseLossy settings.directive
  written : ∀ events, session.written backend events = []
  toConsole : ∀ events, session.toConsole backend events = []
  toFile : ∀ place events, session.toFile backend place events = []
  governed : session.Governed backend settings.level ↔ settings.level = .error

section

variable {backend : LogBackend φ} {env : Environment} {settings : LogSettings} {level : Level}
  {session : LogSession φ}

theorem start_subscriber {after : LogSession φ} {subscriber : Subscriber φ}
    (started : session.start backend env settings = .ok after)
    (subscribed : after.subscriber = some subscriber) :
    session.subscriber = some subscriber ∨
      backend.filterFor env settings = .ok subscriber.filter := by
  unfold LogSession.start at started
  split at started
  · cases started
    exact .inl subscribed
  · cases made : backend.filterFor env settings with
    | error cut =>
      rw [made] at started
      cases started
    | ok filter =>
      rw [made] at started
      dsimp only at started
      split at started
      · cases started
      · cases started
        obtain ⟨-, same⟩ := Option.ite_none_left_eq_some.mp subscribed
        cases same
        exact .inr rfl

theorem start_filter (nothing : backend.NoFilter env) (unsubscribed : session.subscriber = none)
    {subscriber : Subscriber φ}
    (subscribed : (session.startAll backend [(env, settings)]).2.subscriber = some subscriber) :
    subscriber.filter = backend.parseLossy settings.directive := by
  have before : session.subscriber ≠ some subscriber := by simp [unsubscribed]
  rw [startAll] at subscribed
  cases started : session.start backend env settings with
  | error refusal =>
    rw [started] at subscribed
    exact absurd subscribed before
  | ok after =>
    rw [started] at subscribed
    exact LogBackend.NoFilter.filterFor nothing ((start_subscriber started subscribed).resolve_left before)

theorem written_nothing (heeds : backend.Heeds)
    (filter : ∀ subscriber, session.subscriber = some subscriber →
      subscriber.filter = backend.parseLossy settings.directive) (events : List Event) :
    session.written backend events = [] := by
  unfold LogSession.written
  cases subscribed : session.subscriber with
  | none => rfl
  | some subscriber =>
    dsimp only
    rw [filter subscriber subscribed, List.filter_eq_nil_iff]
    intro event member
    rw [heeds.passes_nothing]
    decide

theorem governed_nothing_iff (nothing : ∀ events, session.written backend events = []) :
    session.Governed backend level ↔ level = .error := by
  constructor
  · intro governed
    have warning := governed [.threadFailed "" ""]
    rw [nothing] at warning
    cases level with
    | error => rfl
    | _ => cases warning
  · rintro rfl events
    rw [nothing, eq_comm, List.filter_eq_nil_iff]
    intro event member
    cases event <;> simp [Event.reaches, Event.level, Level.severity]

/-- In a process whose host has no log and whose environment has no filter, settings of any kind let
nothing of what the library reports come out, neither on the console nor in a file. -/
theorem settings_unheard (heeds : backend.Heeds) (nothing : backend.NoFilter env)
    (settings : LogSettings) (tree : WorkingTree) :
    Unheard backend settings
      (({ tree := tree } : LogSession φ).startAll backend [(env, settings)]).2 := by
  have filter {subscriber : Subscriber φ} :=
    @start_filter φ backend env settings { tree := tree } nothing rfl subscriber
  generalize (({ tree := tree } : LogSession φ).startAll backend [(env, settings)]).2 = session
    at filter ⊢
  have written := written_nothing heeds fun subscriber subscribed => filter subscribed
  refine ⟨fun subscriber subscribed => filter subscribed, written, ?_, ?_,
    governed_nothing_iff written⟩
  · intro events
    unfold LogSession.toConsole
    split
    · exact written events
    · rfl
  · intro place events
    unfold LogSession.toFile
    split
    · rw [written, ite_self]
    · rfl

end

def garbled : Environment := Environment.unset.set LogSettings.filterVariable (some ⟨#[0xff]⟩)

theorem garbled_noFilter : LogBackend.standard.NoFilter garbled := by
  have nothing : garbled.text? LogSettings.filterVariable = none := by decide +kernel
  intro text filter set
  cases nothing.symm.trans set

theorem settings_unheard_garbled :
    LogBackend.standard.Heeds ∧ LogBackend.standard.NoFilter garbled ∧
      Unheard .standard .debug
        (({} : LogSession LogFilter).startAll .standard [(garbled, .debug)]).2 :=
  ⟨LogBackend.standard_heeds, garbled_noFilter,
    settings_unheard LogBackend.standard_heeds garbled_noFilter .debug {}⟩

theorem warning_unheard : ¬∀ (env : Environment) (settings : LogSettings) (tree : WorkingTree)
    (session : LogSession LogFilter), LogBackend.standard.NoFilter env →
      ({ tree := tree } : LogSession LogFilter).startAll .standard [(env, settings)] =
        (none, session) → session.Governed .standard settings.level := by
  intro law
  let event : Event := .threadFailed "start" "boom"
  let started := (({} : LogSession LogFilter).startAll .standard [(.unset, {})]).2
  have governed := law .unset {} {} started (by intro text filter set; cases set) rfl [event]
  have passed : [event].filter (·.reaches .info) = [event] := rfl
  have stopped := LogBackend.standard_heeds.passes_nothing {} event
  have written : started.written .standard [event] = [] := by
    apply List.filter_eq_nil_iff.mpr
    intro other member
    cases List.mem_singleton.mp member
    exact Bool.eq_false_iff.mp stopped
  cases (written.symm.trans governed).trans passed

end LogSession

end ArenaThreads

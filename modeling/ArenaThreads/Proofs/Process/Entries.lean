import ArenaThreads.Sizing
import Mathlib.Tactic
/-!
Reading the log of one handle: which memory it has, which thread and whether that has been waited for
follow from the last event that tells of each. In an orderly log every event may come when it comes,
so that a thread is created before it is started and started before it is waited for.
-/

namespace ArenaThreads

namespace Event

def housing? : Event → Option (Option Sizing)
  | .threadCreated stack storage _ => some (some ⟨stack, storage⟩)
  | .threadDestroyed _ => some none
  | _ => none

def thread? : Event → Option Nat
  | .threadCreated .. => some 0
  | .threadStarted id => some id
  | _ => none

def waited? : Event → Option Bool
  | .threadCreated .. | .threadStarted _ => some false
  | .threadJoined _ => some true
  | _ => none

end Event

namespace Entries

/-- What the last of the events that tell of something says. -/
def latest {α : Type} (pick : Event → Option α) (entries : List Event) : Option α :=
  (entries.filterMap pick).getLast?

def housed (entries : List Event) : Option Sizing := (latest Event.housing? entries).join

def thread (entries : List Event) : Nat := (latest Event.thread? entries).getD 0

def waited (entries : List Event) : Bool := (latest Event.waited? entries).getD false

def Licensed (entries : List Event) : Event → Prop
  | .threadStarted id => id ≠ 0 ∧ (housed entries).isSome ∧ thread entries = 0
  | .threadJoined id =>
    id ≠ 0 ∧ (housed entries).isSome ∧ thread entries = id ∧ waited entries = false
  | .threadDestroyed id => (housed entries).isSome ∧ thread entries = id
  | _ => True

inductive Orderly : List Event → Prop
  | nil : Orderly []
  | concat {entries : List Event} {event : Event} (orderly : Orderly entries)
    (licensed : Licensed entries event) : Orderly (entries ++ [event])

section

variable {α : Type} {pick : Event → Option α} {entries : List Event} {told : α}

theorem latest_append (pick : Event → Option α) (first second : List Event) :
    latest pick (first ++ second) = (latest pick second).or (latest pick first) := by
  simp [latest, List.filterMap_append, List.getLast?_append]

theorem latest_cons (pick : Event → Option α) (event : Event) (entries : List Event) :
    latest pick (event :: entries) = (latest pick entries).or (pick event) := by
  rw [← List.singleton_append, latest_append]
  cases picked : pick event <;> simp [latest, picked]

theorem latest_concat (pick : Event → Option α) (entries : List Event) (event : Event) :
    latest pick (entries ++ [event]) = (pick event).or (latest pick entries) := by
  rw [latest_append, latest_cons]
  rfl

theorem latest_eq_none :
    latest pick entries = none ↔ ∀ event ∈ entries, pick event = none :=
  List.getLast?_eq_none_iff.trans List.filterMap_eq_nil_iff

theorem latest_eq_some (found : latest pick entries = some told) :
    ∃ earlier event later, entries = earlier ++ event :: later ∧ pick event = some told ∧
      ∀ other ∈ later, pick other = none := by
  induction entries with
  | nil => cases found
  | cons first rest ih =>
    rw [latest_cons] at found
    cases further : latest pick rest with
    | some value =>
      rw [further] at found
      cases found
      obtain ⟨earlier, event, later, rfl, picked, silent⟩ := ih further
      exact ⟨first :: earlier, event, later, rfl, picked, silent⟩
    | none =>
      rw [further] at found
      exact ⟨[], first, rest, rfl, found, latest_eq_none.mp further⟩

theorem latest_mem (found : latest pick entries = some told) :
    ∃ event ∈ entries, pick event = some told := by
  obtain ⟨earlier, event, later, rfl, picked, -⟩ := latest_eq_some found
  exact ⟨event, by simp, picked⟩

end

/-! Orderly logs -/

section

variable {entries before between after : List Event} {event : Event} {id first second : Nat}

theorem Orderly.licensed (orderly : Orderly entries)
    (shape : entries = before ++ event :: after) : Licensed before event := by
  induction orderly generalizing after with
  | nil => simp at shape
  | @concat entries last orderly licensed ih =>
    rcases List.eq_nil_or_concat after with rfl | ⟨front, final, rfl⟩
    · obtain ⟨rfl, same⟩ := List.append_inj' shape rfl
      cases same
      exact licensed
    · have split : entries ++ [last] = (before ++ event :: front) ++ [final] := by
        simpa using shape
      exact ih (List.append_inj' split rfl).1

theorem Orderly.created_between (orderly : Orderly entries)
    (shape : entries = before ++ .threadStarted first ::
      (between ++ .threadStarted second :: after)) :
    ∃ stack storage reused, .threadCreated stack storage reused ∈ between := by
  obtain ⟨real, -, -⟩ := orderly.licensed shape
  have again : entries = (before ++ .threadStarted first :: between) ++
      .threadStarted second :: after := by simpa using shape
  obtain ⟨-, -, zero⟩ := orderly.licensed again
  rw [thread, latest_append, latest_cons] at zero
  cases found : latest Event.thread? between with
  | none =>
    rw [found] at zero
    exact absurd zero real
  | some told =>
    rw [found] at zero
    have none : told = 0 := zero
    subst none
    obtain ⟨earlier, event, later, rfl, tells, -⟩ := latest_eq_some found
    cases event with
    | threadCreated stack storage reused => exact ⟨stack, storage, reused, by simp⟩
    | threadStarted id =>
      cases tells
      have third : entries = (before ++ .threadStarted first :: earlier) ++
          .threadStarted 0 :: (later ++ .threadStarted second :: after) := by simpa using shape
      exact absurd rfl (orderly.licensed third).1
    | _ => cases tells

/-- While a handle has memory, events that tell of no thread tell of no memory: of these only a
destroy event would, and it would have left none. -/
theorem latest_housing_of_thread (roomed : (housed (before ++ event :: between)).isSome)
    (silent : ∀ other ∈ between, other.thread? = none) :
    latest Event.housing? between = none := by
  cases released : latest Event.housing? between with
  | none => rfl
  | some value =>
    obtain ⟨other, member, picked⟩ := latest_mem released
    cases other with
    | threadCreated => cases silent _ member
    | threadDestroyed =>
      cases picked
      rw [housed, latest_append, latest_cons, released] at roomed
      cases roomed
    | _ => cases picked

theorem latest_waited_of_thread (unjoined : waited (before ++ event :: between) = false)
    (silent : ∀ other ∈ between, other.thread? = none) :
    latest Event.waited? between = none := by
  cases joined : latest Event.waited? between with
  | none => rfl
  | some value =>
    obtain ⟨other, member, picked⟩ := latest_mem joined
    cases other with
    | threadCreated | threadStarted => cases silent _ member
    | threadJoined =>
      cases picked
      rw [waited, latest_append, latest_cons, joined] at unjoined
      cases unjoined
    | _ => cases picked

theorem Orderly.started_before (orderly : Orderly entries)
    (shape : entries = before ++ .threadJoined id :: after) :
    ∃ earlier between, before = earlier ++ .threadStarted id :: between ∧
      ∀ event ∈ between, event.housing? = none ∧ event.thread? = none ∧ event.waited? = none := by
  obtain ⟨real, roomed, same, unjoined⟩ := orderly.licensed shape
  cases found : latest Event.thread? before with
  | none =>
    rw [thread, found] at same
    exact absurd same.symm real
  | some told =>
    rw [thread, found] at same
    have here : told = id := same
    subst here
    obtain ⟨earlier, event, between, rfl, tells, silent⟩ := latest_eq_some found
    have started : event = .threadStarted told := by
      cases event with
      | threadStarted id => cases tells; rfl
      | threadCreated => cases tells; exact absurd rfl real
      | _ => cases tells
    subst started
    have unreleased := latest_housing_of_thread roomed silent
    have unwaited := latest_waited_of_thread unjoined silent
    refine ⟨earlier, between, rfl, ?_⟩
    intro event member
    exact ⟨latest_eq_none.mp unreleased event member, silent event member,
      latest_eq_none.mp unwaited event member⟩

end

end Entries

end ArenaThreads

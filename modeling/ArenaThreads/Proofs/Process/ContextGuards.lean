import ArenaThreads.Proofs.Process.ContextIsolation
/-!
Guards over the context of one thread, made and dropped in any order while contexts come and go and
others change the rest of the process. Every guard puts back what was current when it was made. What
that is can be told where the newest guard is always dropped first; otherwise it can be a context that
is gone.
-/

namespace ArenaThreads

section

variable {machine : Machine} {caller : Caller} {party : Party} {context : Nat}

theorem Party.Finds.sets (finds : party.Finds caller machine) (real : context ≠ 0) :
    party.Finds caller (machine.setCurrent caller context).2 ∧
      (machine.setCurrent caller context).2.current caller = context := by
  have after : party.Finds caller (party.puts context machine) := finds.puts real
  rw [finds.setCurrent]
  exact ⟨after, after.current.trans (Party.reads_puts real)⟩

end

/-! A thread and its guards -/

structure HeldGuard where
  name : Nat
  context : Nat
  guard : ContextGuard
  deriving DecidableEq, Repr

/-- A thread among its contexts: the ones that exist besides its original one, by their addresses, and
the guards that it holds, the newest first. -/
structure Scopes where
  machine : Machine
  alive : List Nat := []
  held : List HeldGuard := []

inductive ScopeAct
  | create (address : Nat) (context : Context)
  | enter (name address : Nat)
  | leave (name : Nat)
  | discard (address : Nat)
  | others (after : Machine)

namespace ScopeAct

def entered? : ScopeAct → Option Nat
  | enter _ address => some address
  | _ => none

def Quiet : ScopeAct → Prop
  | enter .. | leave _ => False
  | _ => True

end ScopeAct

namespace Scopes

def guard? (name : Nat) (scopes : Scopes) : Option HeldGuard :=
  scopes.held.find? fun held => held.name = name

def act (caller : Caller) (scopes : Scopes) : ScopeAct → Scopes
  | .create address context =>
    { scopes with
      machine := scopes.machine.storeContext address context
      alive := address :: scopes.alive }
  | .enter name address =>
    let (guard, machine) := ContextGuard.enter caller address scopes.machine
    { scopes with machine := machine, held := ⟨name, address, guard⟩ :: scopes.held }
  | .leave name =>
    match scopes.guard? name with
    | none => scopes
    | some held =>
      { scopes with
        machine := held.guard.leave caller scopes.machine
        held := scopes.held.filter (·.name ≠ name) }
  | .discard address => { scopes with alive := scopes.alive.filter (· ≠ address) }
  | .others after => { scopes with machine := after }

def run (caller : Caller) (acts : List ScopeAct) (scopes : Scopes) : Scopes :=
  acts.foldl (act caller) scopes

def newest (original : Nat) : List HeldGuard → Nat
  | [] => original
  | held :: _ => held.context

/-- What may be done: guards are made for contexts that exist, and a context outlives its guards.
Others leave the thread's context to it. -/
def Lawful (party : Party) (caller : Caller) (original : Nat) (scopes : Scopes) : ScopeAct → Prop
  | .create address _ => address ≠ 0 ∧ address ≠ original ∧ address ∉ scopes.alive
  | .enter name address => address ≠ 0 ∧ (address = original ∨ address ∈ scopes.alive) ∧
      ∀ held ∈ scopes.held, held.name ≠ name
  | .leave name => ∃ held ∈ scopes.held, held.name = name
  | .discard address => address ∈ scopes.alive ∧ ∀ held ∈ scopes.held, held.context ≠ address
  | .others after => party.Finds caller after ∧
      after.current caller = scopes.machine.current caller

def LawfulRun (party : Party) (caller : Caller) (original : Nat) : List ScopeAct → Scopes → Prop
  | [], _ => True
  | act :: rest, scopes => scopes.Lawful party caller original act ∧
      LawfulRun party caller original rest (scopes.act caller act)

def Nested (scopes : Scopes) : ScopeAct → Prop
  | .leave name => scopes.held.head?.map HeldGuard.name = some name
  | _ => True

def NestedRun (caller : Caller) : List ScopeAct → Scopes → Prop
  | [], _ => True
  | act :: rest, scopes => scopes.Nested act ∧ NestedRun caller rest (scopes.act caller act)

def Safe (caller : Caller) (original : Nat) (scopes : Scopes) : Prop :=
  (scopes.machine.current caller = original ∨ scopes.machine.current caller ∈ scopes.alive) ∧
    (scopes.held = [] → scopes.machine.current caller = original)

/-! One act -/

section

variable {party : Party} {caller : Caller} {original name address : Nat} {scopes : Scopes}
  {act : ScopeAct} {Known : Nat → Prop} {held : HeldGuard}

structure Orderly (party : Party) (caller : Caller) (original : Nat) (Known : Nat → Prop)
    (scopes : Scopes) : Prop where
  finds : party.Finds caller scopes.machine
  current : scopes.machine.current caller ≠ 0 ∧ Known (scopes.machine.current caller)
  remembered : ∀ held ∈ scopes.held, held.guard.previous ≠ 0 ∧ Known held.guard.previous
  outlived : ∀ held ∈ scopes.held, held.context = original ∨ held.context ∈ scopes.alive
  distinct : (scopes.held.map HeldGuard.name).Nodup

theorem guard?_mem (found : scopes.guard? name = some held) :
    held ∈ scopes.held ∧ held.name = name :=
  ⟨List.mem_of_find?_eq_some found, by simpa using List.find?_some found⟩

theorem act_enter (finds : party.Finds caller scopes.machine) :
    scopes.act caller (.enter name address) =
      { scopes with
        machine := (scopes.machine.setCurrent caller address).2
        held := ⟨name, address, ⟨scopes.machine.current caller⟩⟩ :: scopes.held } := by
  rw [Scopes.act, ContextGuard.enter, finds.setCurrent, finds.current]

theorem enter_guard? (finds : party.Finds caller scopes.machine) :
    (scopes.act caller (.enter name address)).guard? name =
      some ⟨name, address, ⟨scopes.machine.current caller⟩⟩ := by
  rw [act_enter finds, guard?, List.find?_cons_of_pos (by simp)]

theorem act_leave (found : scopes.guard? name = some held) :
    scopes.act caller (.leave name) =
      { scopes with
        machine := (scopes.machine.setCurrent caller held.guard.previous).2
        held := scopes.held.filter (·.name ≠ name) } := by
  rw [Scopes.act, found]
  rfl

theorem leave_alive : (scopes.act caller (.leave name)).alive = scopes.alive := by
  rw [Scopes.act]
  split <;> rfl

theorem Lawful.guard (lawful : scopes.Lawful party caller original (.leave name)) :
    ∃ held, scopes.guard? name = some held := by
  obtain ⟨held, member, same⟩ := lawful
  exact Option.isSome_iff_exists.mp (List.find?_isSome.mpr ⟨held, member, by simpa using same⟩)

theorem Orderly.step (orderly : scopes.Orderly party caller original Known)
    (lawful : scopes.Lawful party caller original act)
    (known : ∀ address, act.entered? = some address → Known address) :
    (scopes.act caller act).Orderly party caller original Known := by
  obtain ⟨finds, current, remembered, outlived, distinct⟩ := orderly
  cases act with
  | create address context =>
    refine ⟨⟨finds.slot, finds.home, finds.real⟩, current, remembered, ?_, distinct⟩
    intro held member
    exact (outlived held member).imp_right (List.mem_cons_of_mem address)
  | enter name address =>
    obtain ⟨real, there, fresh⟩ := lawful
    obtain ⟨found, made⟩ := finds.sets real
    rw [act_enter finds]
    refine ⟨found, ?_, ?_, ?_, ?_⟩
    · rw [made]
      exact ⟨real, known address rfl⟩
    · exact List.forall_mem_cons.mpr ⟨current, remembered⟩
    · exact List.forall_mem_cons.mpr ⟨there, outlived⟩
    · rw [List.map_cons, List.nodup_cons]
      refine ⟨?_, distinct⟩
      intro member
      obtain ⟨held, taken, same⟩ := List.mem_map.mp member
      exact fresh held taken same
  | leave name =>
    obtain ⟨held, chosen⟩ := lawful.guard
    obtain ⟨real, back⟩ := remembered held (guard?_mem chosen).1
    obtain ⟨found, made⟩ := finds.sets real
    have fewer : ∀ other ∈ scopes.held.filter (·.name ≠ name), other ∈ scopes.held :=
      fun other member => (List.mem_filter.mp member).1
    rw [act_leave chosen]
    refine ⟨found, ?_, ?_, ?_, ?_⟩
    · rw [made]
      exact ⟨real, back⟩
    · exact fun other member => remembered other (fewer other member)
    · exact fun other member => outlived other (fewer other member)
    · exact distinct.sublist (List.filter_sublist.map _)
  | discard address =>
    refine ⟨finds, current, remembered, ?_, distinct⟩
    intro held member
    refine (outlived held member).imp_right fun alive => ?_
    exact List.mem_filter.mpr ⟨alive, by simpa using lawful.2 held member⟩
  | others after =>
    refine ⟨lawful.1, ?_, remembered, outlived, distinct⟩
    rw [Scopes.act, lawful.2]
    exact current

theorem leave_restores (orderly : scopes.Orderly party caller original Known)
    (found : scopes.guard? name = some held) :
    (scopes.act caller (.leave name)).machine.current caller = held.guard.previous := by
  obtain ⟨real, -⟩ := orderly.remembered held (guard?_mem found).1
  rw [act_leave found]
  exact (orderly.finds.sets real).2

theorem current_quiet (lawful : scopes.Lawful party caller original act) (quiet : act.Quiet) :
    (scopes.act caller act).machine.current caller = scopes.machine.current caller := by
  cases act with
  | enter name address => cases quiet
  | leave name => cases quiet
  | others after => exact lawful.2
  | _ => rfl

theorem guard?_act (orderly : scopes.Orderly party caller original Known)
    (lawful : scopes.Lawful party caller original act) (kept : act ≠ .leave name)
    (found : scopes.guard? name = some held) : (scopes.act caller act).guard? name = some held := by
  cases act with
  | enter other address =>
    obtain ⟨member, same⟩ := guard?_mem found
    have different : other ≠ name := by
      rintro rfl
      exact lawful.2.2 held member same
    rw [act_enter orderly.finds, guard?, List.find?_cons_of_neg (by simpa using different)]
    exact found
  | leave other =>
    obtain ⟨chosen, there⟩ := lawful.guard
    have different : other ≠ name := by
      rintro rfl
      exact kept rfl
    have passes (held : HeldGuard) : (held.name ≠ other ∧ held.name = name) ↔ held.name = name :=
      and_iff_right_of_imp fun same => same ▸ different.symm
    rw [act_leave there, guard?, List.find?_filter]
    simp only [decide_eq_true_eq, passes]
    exact found
  | _ => exact found

end

/-! Nested guards -/

section

variable {party : Party} {caller : Caller} {original name address : Nat} {scopes : Scopes}
  {act : ScopeAct} {Known : Nat → Prop} {newer : HeldGuard} {list : List HeldGuard}

def Stacked (original : Nat) : List HeldGuard → Prop
  | [] => True
  | held :: rest => held.guard.previous = newest original rest ∧ Stacked original rest

/-- The current context is that of the newest guard, and so it was all along. -/
structure Tidy (caller : Caller) (original : Nat) (scopes : Scopes) : Prop where
  current : scopes.machine.current caller = newest original scopes.held
  stacked : Stacked original scopes.held

theorem others_kept (distinct : ((newer :: list).map HeldGuard.name).Nodup) :
    (newer :: list).filter (·.name ≠ newer.name) = list := by
  rw [List.filter_cons_of_neg (by simp), List.filter_eq_self]
  intro held member
  have apart := (List.nodup_cons.mp distinct).1
  simp only [ne_eq, decide_not, Bool.not_eq_eq_eq_not, Bool.not_true, decide_eq_false_iff_not]
  exact fun same => apart (List.mem_map.mpr ⟨held, member, same⟩)

theorem leave_newest (orderly : scopes.Orderly party caller original Known)
    (newest : scopes.held = newer :: list) :
    (scopes.act caller (.leave newer.name)).machine.current caller = newer.guard.previous ∧
      (scopes.act caller (.leave newer.name)).held = list := by
  have distinct := orderly.distinct
  have chosen : scopes.guard? newer.name = some newer := by
    rw [guard?, newest, List.find?_cons_of_pos (by simp)]
  refine ⟨leave_restores orderly chosen, ?_⟩
  rw [newest] at distinct
  rw [act_leave chosen, newest, others_kept distinct]

theorem Tidy.step (tidy : scopes.Tidy caller original)
    (orderly : scopes.Orderly party caller original Known)
    (lawful : scopes.Lawful party caller original act) (nested : scopes.Nested act) :
    (scopes.act caller act).Tidy caller original := by
  obtain ⟨current, stacked⟩ := tidy
  cases act with
  | enter name address =>
    obtain ⟨-, made⟩ := orderly.finds.sets lawful.1
    rw [act_enter orderly.finds]
    exact ⟨made, current, stacked⟩
  | leave name =>
    cases list : scopes.held with
    | nil =>
      rw [Nested, list] at nested
      cases nested
    | cons newer rest =>
      rw [Nested, list] at nested
      obtain rfl : newer.name = name := Option.some.inj nested
      obtain ⟨back, left⟩ := leave_newest orderly list
      rw [list] at stacked
      exact ⟨by rw [back, left, stacked.1], by rw [left]; exact stacked.2⟩
  | others after => exact ⟨lawful.2.trans current, stacked⟩
  | _ => exact ⟨current, stacked⟩

theorem Tidy.safe (tidy : scopes.Tidy caller original)
    (orderly : scopes.Orderly party caller original Known) : scopes.Safe caller original := by
  rw [Safe, tidy.current]
  cases list : scopes.held with
  | nil => exact ⟨Or.inl rfl, fun _ => rfl⟩
  | cons held rest => exact ⟨orderly.outlived held (by simp [list]), nofun⟩

end

/-! Whole histories -/

section

variable {party : Party} {caller : Caller} {original name address : Nat} {scopes : Scopes}
  {acts before later : List ScopeAct} {Known : Nat → Prop} {held : HeldGuard}

theorem run_append : scopes.run caller (before ++ later) =
    (scopes.run caller before).run caller later := List.foldl_append ..

theorem lawfulRun_append : LawfulRun party caller original (before ++ later) scopes ↔
    LawfulRun party caller original before scopes ∧
      LawfulRun party caller original later (scopes.run caller before) := by
  induction before generalizing scopes with
  | nil => exact (iff_of_eq (true_and _)).symm
  | cons act rest ih =>
    rw [List.cons_append, LawfulRun, LawfulRun, ih, and_assoc]
    rfl

theorem Orderly.run (orderly : scopes.Orderly party caller original Known)
    (lawful : LawfulRun party caller original acts scopes)
    (known : ∀ address ∈ acts.filterMap ScopeAct.entered?, Known address) :
    (scopes.run caller acts).Orderly party caller original Known := by
  induction acts generalizing scopes with
  | nil => exact orderly
  | cons act rest ih =>
    obtain ⟨now, onward⟩ := lawful
    simp only [List.mem_filterMap, List.mem_cons] at known
    refine ih (orderly.step now fun address entered => known address ⟨act, Or.inl rfl, entered⟩)
      onward ?_
    intro address member
    obtain ⟨other, there, entered⟩ := List.mem_filterMap.mp member
    exact known address ⟨other, Or.inr there, entered⟩

theorem current_quiets (lawful : LawfulRun party caller original acts scopes)
    (quiet : ∀ act ∈ acts, act.Quiet) :
    (scopes.run caller acts).machine.current caller = scopes.machine.current caller := by
  induction acts generalizing scopes with
  | nil => rfl
  | cons act rest ih =>
    obtain ⟨now, onward⟩ := lawful
    obtain ⟨first, others⟩ := List.forall_mem_cons.mp quiet
    exact (ih onward others).trans (current_quiet now first)

theorem guard?_run (orderly : scopes.Orderly party caller original fun _ => True)
    (lawful : LawfulRun party caller original acts scopes) (kept : .leave name ∉ acts)
    (found : scopes.guard? name = some held) : (scopes.run caller acts).guard? name = some held := by
  induction acts generalizing scopes with
  | nil => exact found
  | cons act rest ih =>
    obtain ⟨now, onward⟩ := lawful
    rw [List.mem_cons, not_or] at kept
    exact ih (orderly.step now fun _ _ => trivial) onward kept.2
      (guard?_act orderly now (Ne.symm kept.1) found)

theorem Tidy.run (tidy : scopes.Tidy caller original)
    (orderly : scopes.Orderly party caller original fun _ => True)
    (lawful : LawfulRun party caller original acts scopes) (nested : NestedRun caller acts scopes) :
    (scopes.run caller acts).Tidy caller original := by
  induction acts generalizing scopes with
  | nil => exact tidy
  | cons act rest ih =>
    obtain ⟨now, onward⟩ := lawful
    exact ih (tidy.step orderly now nested.1) (orderly.step now fun _ _ => trivial) onward nested.2

/-- Two guards dropped in the order in which they were made: the context of the first can be gone by
then, and is current nevertheless. -/
def crossing (newer older : HeldGuard) : List ScopeAct :=
  [.leave older.name, .discard older.context, .leave newer.name]

structure Astray (caller : Caller) (context : Nat) (scopes : Scopes) : Prop where
  current : scopes.machine.current caller = context
  gone : context ∉ scopes.alive

theorem Tidy.astray (tidy : scopes.Tidy caller original)
    (orderly : scopes.Orderly party caller original Known) {newer older : HeldGuard}
    {rest : List HeldGuard} (list : scopes.held = newer :: older :: rest)
    (other : older.context ≠ original)
    (alone : ∀ held ∈ newer :: rest, held.context ≠ older.context) :
    LawfulRun party caller original (crossing newer older) scopes ∧
      (scopes.run caller (crossing newer older)).held = rest ∧
        (scopes.run caller (crossing newer older)).Astray caller older.context := by
  have distinct := orderly.distinct
  rw [list, List.map_cons, List.nodup_cons] at distinct
  obtain ⟨apart, distinct⟩ := distinct
  rw [List.map_cons, List.mem_cons, not_or] at apart
  -- The older guard goes first, and its context has no guard left.
  have chosen : scopes.guard? older.name = some older := by
    rw [guard?, list, List.find?_cons_of_neg (by simpa using apart.1),
      List.find?_cons_of_pos (by simp)]
  have left : (scopes.act caller (.leave older.name)).held = newer :: rest := by
    rw [act_leave chosen, list, List.filter_cons_of_pos (by simpa using apart.1)]
    exact congrArg _ (others_kept distinct)
  have first : scopes.Lawful party caller original (.leave older.name) :=
    ⟨older, by simp [list], rfl⟩
  have alive : older.context ∈ (scopes.act caller (.leave older.name)).alive := by
    rw [leave_alive]
    exact (orderly.outlived older (by simp [list])).resolve_left other
  have second : (scopes.act caller (.leave older.name)).Lawful party caller original
      (.discard older.context) := ⟨alive, by rw [left]; exact alone⟩
  -- Then the newer one makes it current again.
  have orderly := (orderly.step first nofun).step second nofun
  obtain ⟨back, rest⟩ := leave_newest orderly left
  have stacked := tidy.stacked
  rw [list] at stacked
  have third : newer ∈ ((scopes.act caller (.leave older.name)).act caller
      (.discard older.context)).held := left ▸ List.mem_cons_self
  refine ⟨⟨first, second, ⟨newer, third, rfl⟩, trivial⟩, rest, back.trans stacked.1, ?_⟩
  change older.context ∉ (Scopes.act caller _ (.leave newer.name)).alive
  rw [leave_alive]
  simp [Scopes.act]

end

/-! What the guards of a thread are good for -/

def start (machine : Machine) : Scopes := { machine := machine }

/-- What holds of the guards of a thread, whose context is at first the original one. -/
structure Guarding (party : Party) (caller : Caller) (original : Nat) (scopes : Scopes) : Prop where
  shown : ∀ {before quiet : List ScopeAct} {name address : Nat},
    LawfulRun party caller original (before ++ .enter name address :: quiet) scopes →
      (∀ act ∈ quiet, act.Quiet) →
        (scopes.run caller (before ++ .enter name address :: quiet)).machine.current caller = address
  restored : ∀ {before between : List ScopeAct} {name address : Nat},
    LawfulRun party caller original (before ++ .enter name address :: between ++ [.leave name])
        scopes → .leave name ∉ between →
      (scopes.run caller (before ++ .enter name address :: between ++ [.leave name])).machine.current
          caller = (scopes.run caller before).machine.current caller
  known : ∀ {acts : List ScopeAct}, LawfulRun party caller original acts scopes →
    (scopes.run caller acts).machine.current caller ∈ original :: acts.filterMap ScopeAct.entered?
  nested : ∀ {acts : List ScopeAct}, LawfulRun party caller original acts scopes →
    NestedRun caller acts scopes →
      (scopes.run caller acts).machine.current caller =
          newest original (scopes.run caller acts).held ∧
        (scopes.run caller acts).Safe caller original
  crossed : ∀ {acts : List ScopeAct} {newer older : HeldGuard} {rest : List HeldGuard},
    LawfulRun party caller original acts scopes → NestedRun caller acts scopes →
      (scopes.run caller acts).held = newer :: older :: rest → older.context ≠ original →
        (∀ held ∈ newer :: rest, held.context ≠ older.context) →
          LawfulRun party caller original (acts ++ crossing newer older) scopes ∧
            (scopes.run caller (acts ++ crossing newer older)).held = rest ∧
              (scopes.run caller (acts ++ crossing newer older)).Astray caller older.context

section

variable {party : Party} {caller : Caller} {machine : Machine}

theorem orderly_start {Known : Nat → Prop} (finds : party.Finds caller machine)
    (real : machine.current caller ≠ 0) (known : Known (machine.current caller)) :
    (start machine).Orderly party caller (machine.current caller) Known :=
  ⟨finds, ⟨real, known⟩, by simp [start], by simp [start], by simp [start]⟩

theorem guarding_start (finds : party.Finds caller machine) (real : machine.current caller ≠ 0) :
    Guarding party caller (machine.current caller) (start machine) := by
  have begins : (start machine).Orderly party caller (machine.current caller) fun _ => True :=
    orderly_start finds real trivial
  have tidy : (start machine).Tidy caller (machine.current caller) := ⟨rfl, trivial⟩
  have always {acts : List ScopeAct}
      (lawful : LawfulRun party caller (machine.current caller) acts (start machine)) :=
    begins.run lawful fun _ _ => trivial
  constructor
  · intro before quiet name address lawful silent
    obtain ⟨first, entered, later⟩ := lawfulRun_append.mp lawful
    have orderly := always first
    rw [run_append]
    refine (current_quiets later silent).trans ?_
    rw [act_enter orderly.finds]
    exact (orderly.finds.sets entered.1).2
  · intro before between name address lawful kept
    obtain ⟨lawful, left, -⟩ := lawfulRun_append.mp lawful
    obtain ⟨first, entered, later⟩ := lawfulRun_append.mp lawful
    have orderly := always first
    have made := orderly.step entered fun _ _ => trivial
    rw [run_append, run_append]
    exact leave_restores (made.run later fun _ _ => trivial)
      (guard?_run made later kept (enter_guard? orderly.finds))
  · intro acts lawful
    have orderly := (orderly_start finds real List.mem_cons_self).run lawful
      fun address member => List.mem_cons_of_mem _ member
    exact orderly.current.2
  · intro acts lawful nested
    have still := tidy.run begins lawful nested
    exact ⟨still.current, still.safe (always lawful)⟩
  · intro acts newer older rest lawful nested list other alone
    have still := tidy.run begins lawful nested
    rw [lawfulRun_append, run_append]
    obtain ⟨allowed, result⟩ := still.astray (always lawful) list other alone
    exact ⟨⟨lawful, allowed⟩, result⟩

end

section

variable {system : System} {hosts : List HostThread} {latest : Party → Option Nat} {party : Party}
  {caller : Caller} {turns : List Turn}

theorem current_real (separate : Separate hosts latest system) (homes : HostThreads hosts)
    (runs : party.Runs hosts caller system) : system.machine.current caller ≠ 0 := by
  have finds := separate.finds runs
  rw [finds.current]
  cases party with
  | host thread =>
    by_cases unset : system.machine.threadLocal thread.home = 0
    · rw [Party.reads, if_pos unset]
      exact homes.real thread runs.1
    · rw [Party.reads, if_neg unset]
      exact unset
  | runtime block => exact finds.real block rfl

theorem others_lawful {turn : Turn} {original : Nat} (separate : Separate hosts latest system)
    (homes : HostThreads hosts) (lawful : turn.Lawful hosts system)
    (other : turn.party? ≠ some party) (runs : party.Runs hosts caller system) {scopes : Scopes}
    (here : scopes.machine = system.machine) :
    scopes.Lawful party caller original (.others (system.turn turn).machine) := by
  obtain ⟨still, same⟩ := separate.spares homes lawful other runs
  rw [← here] at same
  exact ⟨(separate.takes homes lawful).finds still, same⟩

/-- On every thread of a process that has come about in turns, host threads and launched ones, guards
keep these laws, in whatever order they are made and dropped; and a turn that somebody else takes is
among what the laws let others do. -/
theorem guards_restore (fresh : system.Fresh) (homes : HostThreads hosts)
    (unset : ∀ host ∈ hosts, system.machine.threadLocal host.home = 0)
    (lawful : System.LawfulTurns hosts turns system)
    (runs : party.Runs hosts caller (system.play turns)) :
    Guarding party caller ((system.play turns).machine.current caller)
      (start (system.play turns).machine) ∧
    ∀ (turn : Turn) (scopes : Scopes) (original : Nat), turn.Lawful hosts (system.play turns) →
      turn.party? ≠ some party → scopes.machine = (system.play turns).machine →
        scopes.Lawful party caller original (.others ((system.play turns).turn turn).machine) := by
  have separate := (Separate.fresh fresh unset).play homes lawful
  refine ⟨guarding_start (separate.finds runs) (current_real separate homes runs), ?_⟩
  intro turn scopes original allowed other here
  exact others_lawful separate homes allowed other runs here

end

theorem guards_restore_exchange :
    System.LawfulTurns [.creator, .bystander] Turn.exchange {} ∧
      Guarding (.host .creator) ⟨2 ^ 45, 4096⟩ 9000
        (start (System.play Turn.exchange {}).machine) := by
  have fresh : System.Fresh {} := ⟨fun _ => rfl, rfl, rfl, fun _ => rfl, rfl, rfl⟩
  have homes : HostThreads [.creator, .bystander] := ⟨by decide, by decide⟩
  have runs : (Party.host .creator).Runs [.creator, .bystander] ⟨2 ^ 45, 4096⟩
      (System.play Turn.exchange {}) := ⟨by simp, rfl, by decide, by decide⟩
  exact ⟨exchange_lawful, (guards_restore fresh homes (by simp) exchange_lawful runs).1⟩

def twoGuards : List ScopeAct :=
  [.create 0x20 .standard, .create 0x30 .standard, .enter 1 0x20, .enter 2 0x30, .leave 1,
    .discard 0x20, .leave 2]

theorem twoGuards_lawful :
    LawfulRun (.host .creator) ⟨2 ^ 45, 4096⟩ 4096 twoGuards (start {}) := by
  refine ⟨⟨?_, ?_, ?_⟩, ⟨?_, ?_, ?_⟩, ⟨?_, ?_, ?_⟩, ⟨?_, ?_, ?_⟩,
    ⟨_, List.mem_cons_of_mem _ List.mem_cons_self, rfl⟩, ⟨?_, ?_⟩,
    ⟨_, List.mem_cons_self, rfl⟩, trivial⟩
  all_goals decide

theorem twoGuards_unsafe : ¬∀ (hosts : List HostThread) (party : Party) (caller : Caller)
    (system : System) (acts : List ScopeAct), system.Fresh → HostThreads hosts →
      (∀ host ∈ hosts, system.machine.threadLocal host.home = 0) →
        party.Runs hosts caller system →
          LawfulRun party caller (system.machine.current caller) acts (start system.machine) →
            ((start system.machine).run caller acts).Safe caller (system.machine.current caller) := by
  intro law
  have safe := law [.creator] (.host .creator) ⟨2 ^ 45, 4096⟩ {} twoGuards
    ⟨fun _ => rfl, rfl, rfl, fun _ => rfl, rfl, rfl⟩ ⟨by decide, by decide⟩ (by simp)
    ⟨by simp, rfl, by decide, by decide⟩ twoGuards_lawful
  have gone := safe.2 rfl
  cases gone

end Scopes

end ArenaThreads

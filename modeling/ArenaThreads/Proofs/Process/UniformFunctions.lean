import ArenaThreads.Program
import ArenaThreads.Proofs.Process.Counterparts
/-!
Functions that do the same wherever their regions are. They keep to the arena over their own storage,
and ask of a block only whether there is one. Programs that name no context are such.
-/

namespace ArenaThreads

/-- The context of the region is current, and its copy is as it was made. -/
structure Sides.AtHome (setting : Setting) (sides : Sides) : Prop where
  current : sides.current = (setting.region.copy, setting.other.copy)
  copied : ∀ i, i < Context.size → ∀ one other, sides.likeness (setting.region.copy + i) one other →
    one = Context.byte ⟨.arena setting.region.block⟩ i ∧
      other = Context.byte ⟨.arena setting.other.block⟩ i

structure Setting.SameBlock (setting : Setting) (size block target : Nat) : Prop where
  sized : 0 < size
  low : setting.region.copy + Context.size ≤ block
  high : block + size ≤ setting.region.storageStart + setting.region.storage
  same : Shift setting.region.base setting.other.base block target

structure Program.Slot.Same (setting : Setting) (slot other : Program.Slot) : Prop where
  size : other.size = slot.size
  block : Option.Rel (setting.SameBlock slot.size) slot.block other.block

structure Program.State.Same (setting : Setting) (state other : Program.State) : Prop where
  own : (state.own, other.own) = (setting.region.copy, setting.other.copy)
  slots : ∀ slot, (state.slots slot).Same setting (other.slots slot)
  guards : ∀ guard, Option.Rel (fun context counterpart =>
    (context, counterpart) = (setting.region.copy, setting.other.copy))
      (state.guards guard) (other.guards guard)

section

variable {setting : Setting} {sides : Sides} {block target answer : Option Nat}
  {oldSize newSize size place moved : Nat}

namespace Setting.SameBlock

theorem span (same : setting.SameBlock size place moved) (fair : setting.Fair) :
    setting.region.Span setting.other place moved size :=
  (Setting.Source.arena .own).span fair ⟨same.low, same.high⟩ same.same

theorem word (same : setting.SameBlock size place moved) (fair : setting.Fair) :
    setting.SameWord place moved := by
  have sized := same.sized
  have low := same.low
  have high := same.high
  have filled := Region.storage_inside fair.placed
  refine .inr ⟨⟨?_, by omega⟩, same.same⟩
  simp only [Region.copy, Region.storageStart] at low
  omega

end Setting.SameBlock

theorem Setting.Fair.sameAnswer (fair : setting.Fair) {answer moved : Option Nat}
    (same : Option.Rel (setting.SameBlock size) answer moved) :
    Option.Rel setting.SameWord answer moved := by
  cases same with
  | none => exact .none
  | some same => exact .some (same.word fair)

/-! At home -/

namespace Sides.AtHome

theorem beginning : setting.beginning.AtHome setting := by
  refine ⟨rfl, ?_⟩
  intro i low one other known
  change setting.initial (setting.region.copy + i) one other at known
  rwa [Setting.initial, Likeness.write,
    if_pos ⟨Nat.le_add_right .., Nat.add_lt_add_left low _⟩, Nat.add_sub_cancel_left] at known

theorem back (home : sides.AtHome setting) :
    { sides with current := (setting.region.copy, setting.other.copy) }.AtHome setting :=
  ⟨rfl, home.copied⟩

theorem write (home : sides.AtHome setting) (low : setting.region.copy + Context.size ≤ place)
    (length : Nat) (bytes others : Nat → UInt8) :
    { sides with likeness := sides.likeness.write place length bytes others }.AtHome setting := by
  refine ⟨home.current, ?_⟩
  intro i inside one other known
  dsimp only at known
  rw [Likeness.write, if_neg (by omega)] at known
  exact home.copied i inside one other known

theorem resize (home : sides.AtHome setting) (block : Option Nat) (oldSize newSize : Nat)
    (low : ∀ place ∈ answer, setting.region.copy + Context.size ≤ place) :
    { sides with likeness := sides.likeness.resize block oldSize newSize answer }.AtHome setting := by
  cases block with
  | none => exact home
  | some source =>
    cases answer with
    | none => exact home
    | some place =>
      have above := low place rfl
      refine ⟨home.current, ?_⟩
      intro i inside one other known
      dsimp only at known
      rw [Likeness.resize, Likeness.copy, if_neg (by omega)] at known
      exact home.copied i inside one other known

end Sides.AtHome

/-! Steps -/

theorem Context.ofBytes_bytes {context : Context} (fits : context.allocator.data < wordLimit) :
    Context.ofBytes ((List.range Context.size).map context.byte) = context := by
  have loaded := Context.load_store context 0 {} fits
  rwa [Context.load, Context.store, Memory.read_write] at loaded

namespace Routine

/-- What asks for the allocator of its context gets the arena over its own storage. -/
theorem allocator_matches (fair : setting.Fair) (home : sides.AtHome setting)
    {next others : Allocator → Routine}
    (goes : (next (.arena setting.region.block)).Matches setting
      (others (.arena setting.other.block)) sides) :
    (Routine.allocator next).Matches setting (Routine.allocator others) sides := by
  have inside := Region.block_inside fair.placed
  have insides := Region.block_inside fair.others
  have filled := Region.storage_inside fair.placed
  have fills := Region.storage_inside fair.others
  have word := fair.word
  have words := fair.words
  rw [Routine.allocator, Routine.allocator, Matches, home.current]
  refine ⟨rfl, fair.copied, ?_⟩
  intro bytes further known
  have one : (List.range Context.size).map bytes =
      (List.range Context.size).map (Context.byte ⟨.arena setting.region.block⟩) := by
    refine List.map_congr_left fun i member => ?_
    have low := List.mem_range.mp member
    exact (home.copied i low _ _ (known i low)).1
  have both : (List.range Context.size).map further =
      (List.range Context.size).map (Context.byte ⟨.arena setting.other.block⟩) := by
    refine List.map_congr_left fun i member => ?_
    have low := List.mem_range.mp member
    exact (home.copied i low _ _ (known i low)).2
  rw [one, both]
  dsimp only
  rw [Context.ofBytes_bytes, Context.ofBytes_bytes]
  · exact goes
  · dsimp only [Allocator.arena]
    omega
  · dsimp only [Allocator.arena]
    omega

theorem resize_matches (fair : setting.Fair) (home : sides.AtHome setting)
    {next others : Option Nat → Routine}
    (same : Option.Rel (setting.SameBlock oldSize) block target)
    (goes : ∀ {answer moved sides}, Sides.AtHome setting sides →
      Option.Rel (setting.SameBlock newSize) answer moved →
        (next answer).Matches setting (others moved) sides) :
    (Routine.allocator fun allocator => .resize allocator block oldSize newSize next).Matches setting
      (Routine.allocator fun allocator => .resize allocator target oldSize newSize others) sides := by
  apply allocator_matches fair home
  refine ⟨⟨rfl, rfl⟩, _, _, _, .arena .own, ?_, ?_, ?_⟩
  · cases same with
    | none => exact .none
    | some same => exact .some same.same
  · intro place member
    cases same with
    | none => cases member
    | some same =>
      cases member
      exact ⟨same.low, same.high⟩
  · intro answer moved shift placed
    refine goes (home.resize _ _ _ fun place member => (placed place member).2.1) ?_
    cases shift with
    | none => exact .none
    | some shift =>
      obtain ⟨sized, low, high⟩ := placed _ rfl
      exact .some ⟨sized, low, high, shift⟩

end Routine

theorem ThreadFunction.sum_matches (fair : setting.Fair) {count : Nat}
    (fits : 8 * count < wordLimit) :
    (ThreadFunction.sum.body count).Matches setting (ThreadFunction.sum.body count)
      setting.beginning := by
  simp only [ThreadFunction.sum, Routine.sum, Nat.mod_eq_of_lt fits]
  apply Routine.resize_matches fair .beginning .none
  intro answer moved sides home same
  cases same with
  | none => exact .inl rfl
  | some same => exact ⟨rfl, same.span fair, .inl rfl⟩

theorem ThreadFunction.exhaust_matches (fair : setting.Fair) (size : Nat) :
    (ThreadFunction.exhaust.body size).Matches setting (ThreadFunction.exhaust.body size)
      setting.beginning := by
  simp only [ThreadFunction.exhaust, Routine.exhaust]
  apply Routine.allocator_matches fair .beginning
  exact ⟨rfl, _, _, _, .arena .own, fun _ => .inl rfl⟩

/-! Notes -/

namespace Setting.SameShared

variable {first second : Shared} {content other : Note}

theorem note (shared : setting.SameShared first second) (key : Nat)
    (same : setting.SameNote content other) :
    setting.SameShared (first.note key content) (second.note key other) := by
  refine ⟨shared.words, shared.openGates, ?_⟩
  intro place
  by_cases here : place = key
  · subst here
    simp only [Shared.note, Cells.set_same]
    exact List.rel_append (shared.notes place) (.cons same .nil)
  · simp only [Shared.note, Cells.set_other _ _ here]
    exact shared.notes place

theorem addWord (shared : setting.SameShared first second) (word : Nat) (amount : UInt32) :
    setting.SameShared (first.addWord word amount) (second.addWord word amount) := by
  refine ⟨?_, shared.openGates, shared.notes⟩
  rw [Shared.addWord, Shared.addWord, shared.words]

end Setting.SameShared

/-! Programs -/

namespace Program

namespace State.Same

variable {state other : State} {one both : Slot} {context counterpart : Option Nat}

theorem setSlot (same : State.Same setting state other) (slot : Nat)
    (content : Slot.Same setting one both) :
    State.Same setting (state.setSlot slot one) (other.setSlot slot both) := by
  refine ⟨same.own, ?_, same.guards⟩
  intro place
  by_cases here : place = slot
  · subst here
    simp only [State.setSlot, Cells.set_same]
    exact content
  · simp only [State.setSlot, Cells.set_other _ _ here]
    exact same.slots place

theorem setGuard (same : State.Same setting state other) (guard : Nat)
    (content : Option.Rel (fun context counterpart =>
      (context, counterpart) = (setting.region.copy, setting.other.copy)) context counterpart) :
    State.Same setting (state.setGuard guard context) (other.setGuard guard counterpart) := by
  refine ⟨same.own, same.slots, ?_⟩
  intro place
  by_cases here : place = guard
  · subst here
    simp only [State.setGuard, Cells.set_same]
    exact content
  · simp only [State.setGuard, Cells.set_other _ _ here]
    exact same.guards place

theorem held (same : State.Same setting state other) (slot : Nat) :
    (∃ size, state.slots slot = ⟨none, size⟩ ∧ other.slots slot = ⟨none, size⟩) ∨
      ∃ size block target, state.slots slot = ⟨some block, size⟩ ∧
        other.slots slot = ⟨some target, size⟩ ∧ setting.SameBlock size block target := by
  obtain ⟨sized, blocks⟩ := same.slots slot
  generalize state.slots slot = held at sized blocks ⊢
  generalize other.slots slot = holds at sized blocks ⊢
  rcases held with ⟨held, size⟩
  rcases holds with ⟨holds, further⟩
  obtain rfl : further = size := sized
  cases blocks with
  | none => exact .inl ⟨_, rfl, rfl⟩
  | some block => exact .inr ⟨_, _, _, rfl, rfl, block⟩

end State.Same

def Follows (setting : Setting) (next others : State → Routine) : Prop :=
  ∀ ⦃state other sides⦄, State.Same setting state other → Sides.AtHome setting sides →
    (next state).Matches setting (others other) sides

variable {next others : State → Routine}

theorem note_matches (key : Nat) {content counterpart : Note} {rest further : Routine}
    (same : setting.SameNote content counterpart) (goes : rest.Matches setting further sides) :
    (note key content rest).Matches setting (note key counterpart further) sides :=
  ⟨fun _ _ shared => .some (shared.note key same), goes⟩

theorem noteCurrent_matches (fair : setting.Fair) (home : sides.AtHome setting) (key : Nat)
    {rest further : Routine} (goes : rest.Matches setting further sides) :
    (noteCurrent key rest).Matches setting (noteCurrent key further) sides := by
  rw [noteCurrent, noteCurrent, Routine.Matches, home.current]
  exact note_matches key (.context fair.sameCopy) goes

theorem setCurrent_matches (fair : setting.Fair) (home : sides.AtHome setting)
    {rest further : Nat → Routine} {context counterpart : Nat}
    (own : (context, counterpart) = (setting.region.copy, setting.other.copy))
    (goes : ∀ {sides}, Sides.AtHome setting sides →
      (rest setting.region.copy).Matches setting (further setting.other.copy) sides) :
    (Routine.setCurrent context rest).Matches setting (Routine.setCurrent counterpart further)
      sides := by
  obtain ⟨rfl, rfl⟩ := Prod.mk.inj own
  refine ⟨⟨Region.copy_real fair.placed, Region.copy_real fair.others⟩, ?_⟩
  rw [home.current]
  exact goes home.back

theorem release_follows (fair : setting.Fair) (guard : Nat) (follows : Follows setting next others) :
    Follows setting (release guard · next) (release guard · others) := by
  intro state other sides same home
  have guards := same.guards guard
  simp only [release]
  generalize state.guards guard = held at guards ⊢
  generalize other.guards guard = holds at guards ⊢
  cases guards with
  | none => exact follows same home
  | some own =>
    exact setCurrent_matches fair home own fun home => follows (same.setGuard guard .none) home

theorem releaseAll_follows (fair : setting.Fair) (follows : Follows setting next others)
    (count : Nat) : Follows setting (releaseAll next count) (releaseAll others count) := by
  induction count with
  | zero => exact follows
  | succ count ih => exact release_follows fair count ih

theorem finish_follows (fair : setting.Fair) (result : ProgramResult) :
    Follows setting (finish result) (finish result) := by
  intro state other sides same home
  cases result with
  | word word => exact .inl rfl
  | slot slot =>
    have blocks := (same.slots slot).block
    simp only [finish, Routine.Matches]
    generalize (state.slots slot).block = held at blocks ⊢
    generalize (other.slots slot).block = holds at blocks ⊢
    cases blocks with
    | none => exact .inl rfl
    | some block => exact block.word fair
  | context =>
    simp only [finish, Routine.Matches, home.current]
    exact fair.sameCopy

theorem alloc_follows (fair : setting.Fair) (key slot size : Nat)
    (follows : Follows setting next others) :
    Follows setting (step key (.alloc slot size) · next) (step key (.alloc slot size) · others) := by
  intro state other sides same home
  refine Routine.resize_matches fair home .none fun home answered => ?_
  refine note_matches key (.block (fair.sameAnswer answered)) (follows (same.setSlot slot ?_) home)
  cases answered with
  | none => exact ⟨rfl, .none⟩
  | some answered => exact ⟨rfl, .some answered⟩

theorem free_follows (fair : setting.Fair) (key slot : Nat) (follows : Follows setting next others) :
    Follows setting (step key (.free slot) · next) (step key (.free slot) · others) := by
  intro state other sides same home
  rcases same.held slot with ⟨size, one, both⟩ | ⟨size, block, target, one, both, held⟩
  · simp only [step, one, both]
    exact note_matches key (.flag false) (follows same home)
  · simp only [step, one, both]
    refine Routine.resize_matches fair home (.some held) fun home _ => ?_
    exact note_matches key (.flag true) (follows (same.setSlot slot ⟨rfl, .none⟩) home)

theorem realloc_follows (fair : setting.Fair) (key slot size : Nat)
    (follows : Follows setting next others) :
    Follows setting (step key (.realloc slot size) · next)
      (step key (.realloc slot size) · others) := by
  intro state other sides same home
  rcases same.held slot with ⟨old, one, both⟩ | ⟨old, block, target, one, both, held⟩
  · simp only [step, one, both]
    exact note_matches key (.block .none) (follows same home)
  · simp only [step, one, both]
    refine Routine.resize_matches fair home (.some held) fun home answered => ?_
    have noted := fair.sameAnswer answered
    cases answered with
    | none => exact note_matches key (.block .none) (follows same home)
    | some answered =>
      exact note_matches key (.block noted)
        (follows (same.setSlot slot ⟨rfl, .some answered⟩) home)

theorem fill_follows (fair : setting.Fair) (key slot : Nat) (byte : UInt8)
    (follows : Follows setting next others) :
    Follows setting (step key (.fill slot byte) · next) (step key (.fill slot byte) · others) := by
  intro state other sides same home
  rcases same.held slot with ⟨size, one, both⟩ | ⟨size, block, target, one, both, held⟩
  · simp only [step, one, both]
    exact note_matches key (.flag false) (follows same home)
  · simp only [step, one, both]
    refine ⟨rfl, held.span fair, ?_⟩
    exact note_matches key (.flag true) (follows same (home.write held.low _ _ _))

theorem push_follows (fair : setting.Fair) (key guard : Nat)
    (follows : Follows setting next others) :
    Follows setting (step key (.push guard .own) · next) (step key (.push guard .own) · others) := by
  intro state other sides same home
  dsimp only [step]
  refine release_follows fair guard (fun _ _ _ same home => ?_) same home
  refine setCurrent_matches fair home same.own fun home => ?_
  exact noteCurrent_matches fair home key (follows (same.setGuard guard (.some rfl)) home)

theorem gate_follows (key gate : Nat) (follows : Follows setting next others) :
    Follows setting (step key (.gate gate) · next) (step key (.gate gate) · others) := by
  intro state other sides same home
  refine ⟨?_, follows same home⟩
  intro first second shared
  dsimp only
  rw [shared.openGates]
  cases first.openGates gate with
  | true => exact .some (shared.note key (.flag true))
  | false => exact .none

/-- An instruction is followed alike unless it names a context: that would be another one in the
other region. -/
theorem step_follows (fair : setting.Fair) (key : Nat) {instruction : Instruction}
    {result : ProgramResult} (own : contexts ⟨[instruction], result⟩ = [])
    (follows : Follows setting next others) :
    Follows setting (step key instruction · next) (step key instruction · others) := by
  cases instruction with
  | alloc slot size => exact alloc_follows fair key slot size follows
  | free slot => exact free_follows fair key slot follows
  | realloc slot size => exact realloc_follows fair key slot size follows
  | fill slot byte => exact fill_follows fair key slot byte follows
  | current =>
    intro state other sides same home
    exact noteCurrent_matches fair home key (follows same home)
  | set choice =>
    cases choice with
    | context address => cases own
    | own =>
      intro state other sides same home
      exact setCurrent_matches fair home same.own fun home =>
        note_matches key (.context fair.sameCopy) (follows same home)
  | push guard choice =>
    cases choice with
    | context address => cases own
    | own => exact push_follows fair key guard follows
  | pop guard =>
    intro state other sides same home
    dsimp only [step]
    refine release_follows fair guard (fun _ _ _ same home => ?_) same home
    exact noteCurrent_matches fair home key (follows same home)
  | gate gate => exact gate_follows key gate follows
  | add word amount =>
    intro state other sides same home
    refine ⟨?_, follows same home⟩
    intro first second shared
    exact .some ((shared.addWord word amount).note key (.flag true))

theorem runFrom_follows (fair : setting.Fair) (key : Nat) (result : ProgramResult)
    {code : List Instruction} (own : contexts ⟨code, result⟩ = []) :
    Follows setting (runFrom key result code) (runFrom key result code) := by
  induction code with
  | nil => exact releaseAll_follows fair (finish_follows fair result) guardCount
  | cons instruction rest ih =>
    have split : contexts ⟨instruction :: rest, result⟩ =
        contexts ⟨[instruction], result⟩ ++ contexts ⟨rest, result⟩ :=
      List.filterMap_append (l := [instruction]) ..
    rw [split, List.append_eq_nil_iff] at own
    exact step_follows fair key own.1 (ih own.2)

end Program

theorem ThreadFunction.program_matches (fair : setting.Fair) {program : Program}
    (own : program.contexts = []) (key : Nat) :
    ((ThreadFunction.program program).body key).Matches setting
      ((ThreadFunction.program program).body key) setting.beginning :=
  Program.runFrom_follows fair key program.result own
    ⟨rfl, fun _ => ⟨rfl, .none⟩, fun _ => .none⟩ .beginning

/-- Functions that do the same wherever they run. -/
inductive ThreadFunction.Uniform : ThreadFunction → Nat → Prop
  | word (label : String) (result : Nat → Nat) (argument : Nat) :
    Uniform ⟨label, fun argument => .done (result argument)⟩ argument
  | sum {count : Nat} (fits : 8 * count < wordLimit) : Uniform .sum count
  | exhaust (size : Nat) : Uniform .exhaust size
  | program {program : Program} (own : program.contexts = []) (key : Nat) :
    Uniform (.program program) key

theorem ThreadFunction.Uniform.matches {function : ThreadFunction} {argument : Nat}
    (uniform : function.Uniform argument) (fair : setting.Fair) :
    (function.body argument).Matches setting (function.body argument) setting.beginning := by
  cases uniform with
  | word => exact .inl rfl
  | sum fits => exact sum_matches fair fits
  | exhaust => exact exhaust_matches fair argument
  | program own => exact program_matches fair own argument

end

end ArenaThreads

import ArenaThreads.Proofs.Process.RegionLayout
import Mathlib.Algebra.Order.Floor.Div
/-!
Whole pages, for page sizes that are powers of two and sizes up to the end of the address space. A size
is rounded up to the next multiple of a page; where that multiple does not fit a word, it is rounded
down to the last one that does. Rounding down gives nobody too little memory: a region with a size that
was rounded down would not fit a word, and is refused before the system is asked for it.
-/

namespace ArenaThreads

namespace Pages

structure Rounds (page : Nat) : Prop where
  up : ∀ size ≤ wordLimit - page,
    IsLeast {multiple | page ∣ multiple ∧ size ≤ multiple} (round page size)
  down : ∀ size, wordLimit - page < size → round page size = wordLimit - page
  monotone : Monotone (round page)
  idempotent : ∀ size, round page (round page size) = round page size

section

variable {bits size : Nat}

theorem last_multiple (word : bits < 64) :
    (wordLimit - 1) / 2 ^ bits * 2 ^ bits = wordLimit - 2 ^ bits := by
  obtain ⟨pages, whole⟩ : 2 ^ bits ∣ wordLimit := Nat.pow_dvd_pow 2 (Nat.le_of_lt word)
  have some : 0 < 2 ^ bits * pages := by
    rw [← whole]
    decide
  calc
    (wordLimit - 1) / 2 ^ bits * 2 ^ bits = (pages - 1) * 2 ^ bits := by
      rw [whole, Nat.mul_sub_div 0 _ _ some, Nat.zero_div]
    _ = wordLimit - 2 ^ bits := by
      rw [Nat.sub_mul, Nat.one_mul, Nat.mul_comm, whole]

/-- The sum stops at the last word, and clearing the low bits keeps the order: the result is the
lesser of the next multiple and the last one. -/
theorem round_eq_min (word : bits < 64) (size : Nat) :
    round (2 ^ bits) size = min (2 ^ bits * (size ⌈/⌉ 2 ^ bits)) (wordLimit - 2 ^ bits) := by
  have ordered : Monotone fun value => value / 2 ^ bits * 2 ^ bits := by
    intro lower upper le
    exact Nat.mul_le_mul_right _ (Nat.div_le_div_right le)
  calc
    round (2 ^ bits) size = saturatingAdd size (2 ^ bits - 1) / 2 ^ bits * 2 ^ bits := by
      rw [round, clearBits, Nat.and_two_pow_sub_one_eq_mod, Nat.div_mul_self_eq_mod_sub_self]
    _ = min ((size + (2 ^ bits - 1)) / 2 ^ bits * 2 ^ bits)
        ((wordLimit - 1) / 2 ^ bits * 2 ^ bits) := ordered.map_min
    _ = min (2 ^ bits * (size ⌈/⌉ 2 ^ bits)) (wordLimit - 2 ^ bits) := by
      rw [last_multiple word, Nat.ceilDiv_eq_add_pred_div, Nat.mul_comm,
        Nat.add_sub_assoc (Nat.two_pow_pos bits)]

theorem next_multiple_le (word : bits < 64) (short : size ≤ wordLimit - 2 ^ bits) :
    2 ^ bits * (size ⌈/⌉ 2 ^ bits) ≤ wordLimit - 2 ^ bits := by
  rw [← last_multiple word, Nat.mul_comm]
  apply Nat.mul_le_mul_right
  rw [ceilDiv_le_iff_le_mul (Nat.two_pow_pos bits), Nat.mul_comm, last_multiple word]
  exact short

theorem round_up (word : bits < 64) (short : size ≤ wordLimit - 2 ^ bits) :
    round (2 ^ bits) size = 2 ^ bits * (size ⌈/⌉ 2 ^ bits) := by
  rw [round_eq_min word, min_eq_left (next_multiple_le word short)]

theorem round_down (word : bits < 64) (long : wordLimit - 2 ^ bits < size) :
    round (2 ^ bits) size = wordLimit - 2 ^ bits := by
  have beyond : wordLimit - 2 ^ bits ≤ 2 ^ bits * (size ⌈/⌉ 2 ^ bits) :=
    (Nat.le_of_lt long).trans (le_smul_ceilDiv (Nat.two_pow_pos bits))
  rw [round_eq_min word, min_eq_right beyond]

theorem round_le_last (word : bits < 64) (size : Nat) :
    round (2 ^ bits) size ≤ wordLimit - 2 ^ bits := by
  rw [round_eq_min word]
  exact min_le_right _ _

theorem dvd_round (word : bits < 64) (size : Nat) : 2 ^ bits ∣ round (2 ^ bits) size := by
  by_cases short : size ≤ wordLimit - 2 ^ bits
  · rw [round_up word short]
    exact Nat.dvd_mul_right _ _
  · rw [round_down word (Nat.not_le.mp short), ← last_multiple word]
    exact Nat.dvd_mul_left _ _

theorem round_monotone (word : bits < 64) : Monotone (round (2 ^ bits)) := by
  intro smaller larger le
  have pages : smaller ⌈/⌉ 2 ^ bits ≤ larger ⌈/⌉ 2 ^ bits :=
    (gc_mul_ceilDiv (Nat.two_pow_pos bits)).monotone_l le
  rw [round_eq_min word, round_eq_min word]
  exact min_le_min_right _ (Nat.mul_le_mul_left _ pages)

theorem round_round (word : bits < 64) (size : Nat) :
    round (2 ^ bits) (round (2 ^ bits) size) = round (2 ^ bits) size := by
  obtain ⟨pages, whole⟩ := dvd_round word size
  have needed : 2 ^ bits * pages ⌈/⌉ 2 ^ bits = pages := smul_ceilDiv (Nat.two_pow_pos bits) pages
  calc
    round (2 ^ bits) (round (2 ^ bits) size) = 2 ^ bits * (round (2 ^ bits) size ⌈/⌉ 2 ^ bits) :=
      round_up word (round_le_last word size)
    _ = 2 ^ bits * pages := by
      rw [whole, needed]
    _ = round (2 ^ bits) size := whole.symm

theorem rounds (word : bits < 64) : Rounds (2 ^ bits) := by
  constructor
  · intro size short
    rw [round_up word short]
    constructor
    · exact ⟨Nat.dvd_mul_right _ _, le_smul_ceilDiv (Nat.two_pow_pos bits)⟩
    · rintro _ ⟨⟨pages, rfl⟩, enough⟩
      apply Nat.mul_le_mul_left
      exact (ceilDiv_le_iff_le_mul (Nat.two_pow_pos bits)).mpr enough
  · intro size long
    exact round_down word long
  · exact round_monotone word
  · exact round_round word

end

end Pages

namespace Sizing

def clamped (sizing : Sizing) : Sizing := ⟨max sizing.stack minimumStack, max sizing.storage 1⟩

def pages (page : Nat) (sizing : Sizing) : Nat × Nat :=
  (sizing.clamped.stack ⌈/⌉ page, sizing.clamped.storage ⌈/⌉ page)

def Short (page : Nat) (sizing : Sizing) : Prop :=
  sizing.clamped.stack ≤ wordLimit - page ∧ sizing.clamped.storage ≤ wordLimit - page

def Curtailed (page : Nat) (sizing : Sizing) : Prop :=
  (sizing.rounded page).stack < sizing.clamped.stack ∨
    (sizing.rounded page).storage < sizing.clamped.storage

structure Rounded (page : Nat) : Prop where
  whole : ∀ sizing : Sizing,
    page ∣ (sizing.rounded page).stack ∧ page ∣ (sizing.rounded page).storage
  enough : ∀ sizing : Sizing,
    minimumStack ≤ (sizing.rounded page).stack ∧ page ≤ (sizing.rounded page).storage
  settled : ∀ sizing : Sizing, (sizing.rounded page).rounded page = sizing.rounded page
  monotone : ∀ smaller larger : Sizing,
    smaller.stack ≤ larger.stack → smaller.storage ≤ larger.storage →
      (smaller.rounded page).stack ≤ (larger.rounded page).stack ∧
        (smaller.rounded page).storage ≤ (larger.rounded page).storage
  fits : ∀ first second : Sizing, first.Short page → second.Short page →
    ∀ region : Region, region.fits (first.rounded page) = true →
      (region.fits (second.rounded page) = true ↔ first.pages page = second.pages page)

section

variable {bits : Nat} {sizing first second : Sizing} {region : Region}

theorem fits_iff : region.fits sizing = true ↔
    region.stack = sizing.stack ∧ region.storage = sizing.storage := by
  simp [Region.fits]

theorem rounded_eq_pages (word : bits < 64) (short : sizing.Short (2 ^ bits)) :
    sizing.rounded (2 ^ bits) =
      ⟨2 ^ bits * (sizing.pages (2 ^ bits)).1, 2 ^ bits * (sizing.pages (2 ^ bits)).2⟩ := by
  rw [rounded, Sizing.mk.injEq]
  exact ⟨Pages.round_up word short.1, Pages.round_up word short.2⟩

theorem rounded_eq_iff (word : bits < 64) (short : first.Short (2 ^ bits))
    (further : second.Short (2 ^ bits)) :
    first.rounded (2 ^ bits) = second.rounded (2 ^ bits) ↔
      first.pages (2 ^ bits) = second.pages (2 ^ bits) := by
  rw [rounded_eq_pages word short, rounded_eq_pages word further, Sizing.mk.injEq, Prod.ext_iff,
    Nat.mul_right_inj (Nat.two_pow_pos bits).ne', Nat.mul_right_inj (Nat.two_pow_pos bits).ne']

theorem minimumStack_le_rounded (word : bits < 64) (sizing : Sizing) :
    minimumStack ≤ (sizing.rounded (2 ^ bits)).stack := by
  have asked : minimumStack ≤ max sizing.stack minimumStack := Nat.le_max_right _ _
  by_cases short : max sizing.stack minimumStack ≤ wordLimit - 2 ^ bits
  · exact asked.trans ((Pages.rounds word).up _ short).1.2
  · have half : 2 ^ bits ≤ 2 ^ 63 := Nat.pow_le_pow_right (by decide) (Nat.le_of_lt_succ word)
    rw [rounded, Pages.round_down word (Nat.not_le.mp short)]
    simp only [minimumStack, wordLimit]
    omega

theorem rounded_rounded (word : bits < 64) (sizing : Sizing) :
    (sizing.rounded (2 ^ bits)).rounded (2 ^ bits) = sizing.rounded (2 ^ bits) := by
  have stack : max (sizing.rounded (2 ^ bits)).stack minimumStack =
      (sizing.rounded (2 ^ bits)).stack := max_eq_left (minimumStack_le_rounded word sizing)
  have some : 1 ≤ (sizing.rounded (2 ^ bits)).storage :=
    (Nat.two_pow_pos bits).trans_le (Pages.page_le_round word (Nat.le_max_right _ _))
  have storage : max (sizing.rounded (2 ^ bits)).storage 1 =
      (sizing.rounded (2 ^ bits)).storage := max_eq_left some
  rw [rounded, stack, storage, Sizing.mk.injEq]
  exact ⟨Pages.round_round word _, Pages.round_round word _⟩

theorem rounded_whole (word : bits < 64) : Rounded (2 ^ bits) := by
  constructor
  · intro sizing
    exact ⟨Pages.dvd_round word _, Pages.dvd_round word _⟩
  · intro sizing
    constructor
    · exact minimumStack_le_rounded word sizing
    · exact Pages.page_le_round word (Nat.le_max_right _ _)
  · exact rounded_rounded word
  · intro smaller larger stack storage
    constructor
    · exact Pages.round_monotone word (max_le_max_right _ stack)
    · exact Pages.round_monotone word (max_le_max_right _ storage)
  · intro first second short further region fits
    rw [← rounded_eq_iff word short further]
    rw [fits_iff] at fits ⊢
    rw [fits.1, fits.2, Sizing.mk.injEq]

/-- Where a size was rounded down, the sum with the guard page does not fit a word. -/
theorem Curtailed.long (word : bits < 64) (curtailed : sizing.Curtailed (2 ^ bits)) :
    wordLimit ≤ 2 ^ bits + (sizing.rounded (2 ^ bits)).stack +
      (sizing.rounded (2 ^ bits)).storage := by
  have page : 2 ^ bits ≤ wordLimit := Nat.pow_le_pow_right (by decide) (Nat.le_of_lt word)
  have last {size : Nat} (less : Pages.round (2 ^ bits) size < size) :
      Pages.round (2 ^ bits) size = wordLimit - 2 ^ bits := by
    apply Pages.round_down word
    by_contra short
    exact Nat.not_le.mpr less ((Pages.rounds word).up size (Nat.not_lt.mp short)).1.2
  rcases curtailed with less | less
  · have stack : (sizing.rounded (2 ^ bits)).stack = wordLimit - 2 ^ bits := last less
    omega
  · have storage : (sizing.rounded (2 ^ bits)).storage = wordLimit - 2 ^ bits := last less
    omega

end

end Sizing

def MemoryCall.length? : MemoryCall → Option Nat
  | .map length _ => some length
  | _ => none

namespace Machine

def lengthsAsked (machine : Machine) : List Nat := machine.calls.filterMap MemoryCall.length?

/-- What becomes of reserving a region for rounded sizes: the system is asked once, for the sum of the
parts, or the sum does not fit a word and nothing at all happens. -/
structure Reserves (sizing : Sizing) (answers : MemoryAnswers) (machine : Machine) : Prop where
  asked : machine.page + sizing.stack + sizing.storage < wordLimit →
    (machine.reserveRegion sizing answers).2.lengthsAsked =
      machine.lengthsAsked ++ [machine.page + sizing.stack + sizing.storage]
  refused : wordLimit ≤ machine.page + sizing.stack + sizing.storage →
    machine.reserveRegion sizing answers = (.error .outOfMemory, machine)
  granted : ∀ region after, machine.reserveRegion sizing answers = (.ok region, after) →
    region.length = machine.page + sizing.stack + sizing.storage ∧ region.fits sizing = true

section

variable {length base : Nat} {answer : Except OsError Nat} {failure : Option OsError}
  {mapping : Mapping} {sizing : Sizing} {answers : MemoryAnswers} {machine : Machine}

@[simp]
theorem lengthsAsked_called (call : MemoryCall) :
    (machine.called call).lengthsAsked = machine.lengthsAsked ++ call.length?.toList := by
  cases call <;> simp [called, lengthsAsked, MemoryCall.length?]

@[simp]
theorem lengthsAsked_map :
    (machine.map length answer).2.lengthsAsked = machine.lengthsAsked ++ [length] := by
  cases answer <;> exact lengthsAsked_called (.map length _)

@[simp]
theorem lengthsAsked_protect :
    (machine.protect base length failure).lengthsAsked = machine.lengthsAsked := by
  simp [protect, MemoryCall.length?]

@[simp]
theorem lengthsAsked_unmap : (machine.unmap mapping).lengthsAsked = machine.lengthsAsked := by
  change (machine.called (.unmap mapping)).lengthsAsked = _
  simp [MemoryCall.length?]

theorem reserveRegion_asks (short : machine.page + sizing.stack + sizing.storage < wordLimit) :
    (machine.reserveRegion sizing answers).2.lengthsAsked =
      machine.lengthsAsked ++ [machine.page + sizing.stack + sizing.storage] := by
  have asked := @lengthsAsked_map (machine.page + sizing.stack + sizing.storage)
    (answers.map (machine.page + sizing.stack + sizing.storage)) machine
  rw [reserveRegion, Region.length?_of_short short]
  dsimp only
  generalize machine.map _ (answers.map _) = reached at asked ⊢
  rcases reached with ⟨error | base, mapped⟩
  · exact asked
  · cases answers.protect with
    | none => exact lengthsAsked_protect.trans asked
    | some error => exact lengthsAsked_unmap.trans (lengthsAsked_protect.trans asked)

theorem reserveRegion_refuses
    (long : wordLimit ≤ machine.page + sizing.stack + sizing.storage) :
    machine.reserveRegion sizing answers = (.error .outOfMemory, machine) := by
  rw [reserveRegion, Region.length?_of_long long]

theorem reserveRegion_grants {region : Region} {after : Machine}
    (done : machine.reserveRegion sizing answers = (.ok region, after)) :
    region.length = machine.page + sizing.stack + sizing.storage ∧ region.fits sizing = true := by
  have allocated : ThreadMemory.allocate sizing answers machine = (.ok ⟨region, false⟩, after) := by
    rw [ThreadMemory.allocate, done]
  obtain ⟨base, length, fits, same, -⟩ := allocate_maps allocated
  cases same
  constructor
  · exact (Option.some.inj (Option.ite_none_right_eq_some.mp fits).2).symm
  · exact Sizing.fits_iff.mpr ⟨rfl, rfl⟩

theorem reserves (sizing : Sizing) (answers : MemoryAnswers) (machine : Machine) :
    Reserves sizing answers machine := by
  constructor
  · exact reserveRegion_asks
  · exact reserveRegion_refuses
  · intro region after
    exact reserveRegion_grants

end

end Machine

structure PagesWhole (page : Nat) : Prop where
  rounds : Pages.Rounds page
  rounded : Sizing.Rounded page
  reserves : ∀ (sizing : Sizing) (answers : MemoryAnswers) (machine : Machine),
    machine.page = page → machine.Reserves (sizing.rounded page) answers
  curtailed : ∀ sizing : Sizing, sizing.Curtailed page →
    wordLimit ≤ page + (sizing.rounded page).stack + (sizing.rounded page).storage

/-- For every page size that is a power of two, and for all sizes. -/
theorem pages_whole {bits : Nat} (word : bits < 64) : PagesWhole (2 ^ bits) := by
  constructor
  · exact Pages.rounds word
  · exact Sizing.rounded_whole word
  · intro sizing answers machine _
    exact Machine.reserves _ answers machine
  · intro sizing curtailed
    exact curtailed.long word

theorem pages_whole_half : 63 < 64 ∧ PagesWhole (2 ^ 63) := by
  have word : 63 < 64 := by decide
  exact ⟨word, pages_whole word⟩

end ArenaThreads

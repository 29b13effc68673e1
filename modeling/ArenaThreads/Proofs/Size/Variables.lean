import ArenaThreads.Proofs.Size.Grammar
import ArenaThreads.Sizing
/-!
Sizes from the environment. Each of the two variables is looked at on its own, and there are four
things to be found in one: nothing, the text of a size, other text, and bytes that are no text. Only
other text is warned about; bytes that are no text pass for nothing.
-/

namespace ArenaThreads

def Size.Encoded (bytes : ByteArray) (size : Nat) : Prop :=
  ∃ text : String, text.toUTF8 = bytes ∧ Writes text.toList size ∧ 0 < size ∧ size < wordLimit

namespace Sizing

/-- What a variable holds where a size is looked for. -/
inductive Finding
  | nothing
  | sized (size : Nat)
  | malformed (text : String)
  | unreadable
  deriving DecidableEq, Repr

inductive Finds : Option ByteArray → Finding → Prop
  | nothing : Finds none .nothing
  | sized {bytes : ByteArray} {size : Nat} (encoded : Size.Encoded bytes size) :
    Finds (some bytes) (.sized size)
  | malformed {bytes : ByteArray} {text : String} (reads : text.toUTF8 = bytes)
    (sizeless : ∀ size, ¬Size.Encoded bytes size) : Finds (some bytes) (.malformed text)
  | unreadable {bytes : ByteArray} (textless : ∀ text : String, text.toUTF8 ≠ bytes) :
    Finds (some bytes) .unreadable

namespace Finding

def size? : Finding → Option Nat
  | sized size => some size
  | _ => none

def warnings (name : String) : Finding → List Event
  | malformed text => [.malformedSize name text]
  | _ => []

end Finding

structure Resolved (env : Environment) : Prop where
  found : ∀ name, ∃! finding, Finds (env name) finding
  resolves : ∀ stack storage,
    Finds (env stackVariable) stack → Finds (env storageVariable) storage →
      ofEnvironment env =
        (⟨stack.size?.getD (256 * 1024), storage.size?.getD (64 * 1024)⟩,
          stack.warnings stackVariable ++ storage.warnings storageVariable)
  stack : ∀ other : Environment, other stackVariable = env stackVariable →
    (ofEnvironment other).1.stack = (ofEnvironment env).1.stack
  storage : ∀ other : Environment, other storageVariable = env storageVariable →
    (ofEnvironment other).1.storage = (ofEnvironment env).1.storage

section

variable {env other : Environment} {name : String} {raw : Option ByteArray} {bytes : ByteArray}
  {text : String} {size : Nat} {finding another : Finding}

theorem fromUTF8?_eq_some_iff : String.fromUTF8? bytes = some text ↔ text.toUTF8 = bytes := by
  constructor
  · intro reads
    obtain ⟨valid, same⟩ := Option.dite_none_right_eq_some.mp reads
    cases same
    rfl
  · rintro rfl
    exact dif_pos text.isValidUTF8

theorem encoded_iff : Size.Encoded bytes size ↔
    ∃ text, String.fromUTF8? bytes = some text ∧ Size.parse? text.toList = some size := by
  simp only [Size.Encoded, fromUTF8?_eq_some_iff, Size.parse?_eq_some_iff]

theorem encoded_unique {first second : Nat} (encoded : Size.Encoded bytes first)
    (again : Size.Encoded bytes second) : first = second := by
  obtain ⟨text, reads, parsed⟩ := encoded_iff.mp encoded
  obtain ⟨other, rereads, reparsed⟩ := encoded_iff.mp again
  cases reads.symm.trans rereads
  exact Option.some.inj (parsed.symm.trans reparsed)

theorem exists_finds (raw : Option ByteArray) : ∃ finding, Finds raw finding := by
  cases raw with
  | none => exact ⟨.nothing, .nothing⟩
  | some bytes =>
    by_cases reads : ∃ text : String, text.toUTF8 = bytes
    · by_cases sized : ∃ size, Size.Encoded bytes size
      · obtain ⟨size, encoded⟩ := sized
        exact ⟨.sized size, .sized encoded⟩
      · obtain ⟨text, same⟩ := reads
        exact ⟨.malformed text, .malformed same (not_exists.mp sized)⟩
    · exact ⟨.unreadable, .unreadable (not_exists.mp reads)⟩

theorem Finds.unique (finds : Finds raw finding) (again : Finds raw another) :
    finding = another := by
  cases finds with
  | nothing => cases again with
    | nothing => rfl
  | sized encoded => cases again with
    | sized further => rw [encoded_unique encoded further]
    | malformed reads sizeless => exact absurd encoded (sizeless _)
    | unreadable textless => exact absurd encoded.choose_spec.1 (textless _)
  | malformed reads sizeless => cases again with
    | sized further => exact absurd further (sizeless _)
    | malformed same _ => rw [String.toByteArray_inj.mp (reads.trans same.symm)]
    | unreadable textless => exact absurd reads (textless _)
  | unreadable textless => cases again with
    | sized further => exact absurd further.choose_spec.1 (textless _)
    | malformed reads _ => exact absurd reads (textless _)
    | unreadable _ => rfl

theorem Finds.override (finds : Finds (env name) finding) :
    override env name = (finding.size?, finding.warnings name) := by
  unfold Sizing.override Environment.text?
  generalize env name = raw at finds
  cases finds with
  | nothing => rfl
  | sized encoded =>
    obtain ⟨text, reads, parsed⟩ := encoded_iff.mp encoded
    rw [Option.bind_some, reads]
    dsimp only
    rw [parsed]
    rfl
  | @malformed bytes text writes sizeless =>
    have reads := fromUTF8?_eq_some_iff.mpr writes
    have unsized : Size.parse? text.toList = none := Option.eq_none_iff_forall_ne_some.mpr
      fun size parsed => sizeless size (encoded_iff.mpr ⟨text, reads, parsed⟩)
    rw [Option.bind_some, reads]
    dsimp only
    rw [unsized]
    rfl
  | @unreadable bytes textless =>
    have unread : String.fromUTF8? bytes = none := Option.eq_none_iff_forall_ne_some.mpr
      fun text reads => textless text (fromUTF8?_eq_some_iff.mp reads)
    rw [Option.bind_some, unread]
    rfl

theorem override_congr (same : other name = env name) : override other name = override env name := by
  rw [override, override, Environment.text?, Environment.text?, same]

/-- For every environment: each variable gives its size or leaves the default in place, and is warned
about where it holds text that is no size. -/
theorem sizes_resolved (env : Environment) : Resolved env := by
  constructor
  · intro name
    obtain ⟨finding, finds⟩ := exists_finds (env name)
    exact ⟨finding, finds, fun other again => again.unique finds⟩
  · intro stack storage stackFinds storageFinds
    rw [ofEnvironment, stackFinds.override, storageFinds.override]
  · intro other same
    rw [ofEnvironment, ofEnvironment, override_congr same]
  · intro other same
    rw [ofEnvironment, ofEnvironment, override_congr same]

end

theorem unreadable_unwarned : ¬∀ (env : Environment), ∀ name ∈ [stackVariable, storageVariable],
    ∀ bytes, env name = some bytes → (∀ size, ¬Size.Encoded bytes size) →
      ∃ text, .malformedSize name text ∈ (ofEnvironment env).2 := by
  intro law
  have unread : String.fromUTF8? ⟨#[0xff]⟩ = none := by decide +kernel
  have sizeless : ∀ size, ¬Size.Encoded ⟨#[0xff]⟩ size := by
    intro size encoded
    obtain ⟨text, reads, -⟩ := encoded_iff.mp encoded
    cases unread.symm.trans reads
  obtain ⟨text, warned⟩ := law (Environment.unset.set stackVariable (some ⟨#[0xff]⟩)) stackVariable
    (by decide) ⟨#[0xff]⟩ (Cells.set_same _ _ _) sizeless
  have silent : (ofEnvironment (Environment.unset.set stackVariable (some ⟨#[0xff]⟩))).2 = [] := by
    decide +kernel
  rw [silent] at warned
  cases warned

end Sizing

end ArenaThreads

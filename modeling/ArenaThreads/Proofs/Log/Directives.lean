import ArenaThreads.Log.Standard
import ArenaThreads.Proofs.Size.Grammar
import Mathlib.Data.String.Basic
/-!
Directives of a target and a level. They are documented to let those events pass that reach the level
and whose targets begin with the one of the directive, and no others; the standard backend reads and
applies them so.
-/

namespace ArenaThreads

def Event.reaches (level : Level) (event : Event) : Bool := level.severity ≤ event.level.severity

namespace Directive

def isTargetSign (c : Char) : Bool := c.isAlphanum || c ∈ ['-', ':', '_']

def IsTarget (target : String) : Prop := target ≠ "" ∧ target.toList.all isTargetSign = true

instance : DecidablePred IsTarget := fun _ => inferInstanceAs (Decidable (_ ∧ _))

end Directive

/-- Directives of a target and a level are obeyed. -/
def LogBackend.Heeds {φ : Type} (backend : LogBackend φ) : Prop :=
  ∀ target level event, Directive.IsTarget target →
    backend.admits (backend.parseLossy (target ++ "=" ++ level.name)) event =
      (target.toList.isPrefixOf event.target.toList && event.reaches level)

namespace Directive

variable {c : Char} {text word rest : List Char} {directive : Directive}

/-! Targets as texts -/

theorem beginsWord_of_isTargetSign (sign : isTargetSign c = true) : beginsWord c = true := by
  rw [isTargetSign, Bool.or_eq_true] at sign
  rw [beginsWord, Bool.or_eq_true]
  exact sign.imp_left (Text.isAlphanumeric_of_isAlphanum c)

theorem not_blank_of_isTargetSign (sign : isTargetSign c = true) : Text.isBlank c = false := by
  rw [isTargetSign, Bool.or_eq_true] at sign
  rcases sign with plain | other
  · have bounds := Text.toNat_of_isAlphanum plain
    simp only [Text.isBlank, Text.blankRanges, List.any_cons, List.any_nil, Bool.or_false,
      Bool.or_eq_false_iff, Bool.and_eq_false_iff, decide_eq_false_iff_not]
    omega
  · simp only [List.mem_cons, List.not_mem_nil, or_false, decide_eq_true_eq] at other
    rcases other with rfl | rfl | rfl <;> decide

theorem plain_of_isTargetSign (sign : isTargetSign c = true) : c ≠ ',' ∧ c ≠ '=' ∧ c ≠ '[' := by
  refine ⟨?_, ?_, ?_⟩ <;> rintro rfl <;> exact absurd sign (by decide)

theorem not_blank_of_level {level : Level} (member : c ∈ level.name.toList) :
    Text.isBlank c = false := by
  have solid : level.name.toList.all (fun c => !Text.isBlank c) = true := by
    cases level <;> decide
  simpa using List.all_eq_true.mp solid c member

theorem trim_leveled (signs : word.all isTargetSign = true) (filled : word ≠ []) (level : Level) :
    Text.trim (word ++ '=' :: level.name.toList) = word ++ '=' :: level.name.toList := by
  have long : level.name.toList ≠ [] := by cases level <;> decide
  have solid : Text.Solid (word ++ '=' :: level.name.toList) := by
    constructor
    · intro c first
      rw [List.head?_append_of_ne_nil _ filled] at first
      exact not_blank_of_isTargetSign (List.all_eq_true.mp signs c (List.mem_of_mem_head? first))
    · intro c last
      rw [List.getLast?_append_of_ne_nil _ (by simp), List.getLast?_cons_of_ne_nil long] at last
      exact not_blank_of_level (List.mem_of_mem_getLast? last)
  have trimmed := @Text.trim_between [] _ [] rfl solid (by simp) rfl
  rwa [List.nil_append, List.append_nil] at trimmed

/-! Reading a directive -/

theorem readAll_word (signs : word.all isTargetSign = true) (position : Nat) :
    readAll text position (word ++ rest) .word directive =
      readAll text (position + Text.byteLength word) rest .word directive := by
  induction word generalizing position with
  | nil => rfl
  | cons c word ih =>
    rw [List.all_cons, Bool.and_eq_true] at signs
    obtain ⟨-, unequal, unopened⟩ := plain_of_isTargetSign signs.1
    have goesOn : step text position c directive .word = .ok (.word, directive) := by
      rw [step, if_pos ⟨unequal, unopened⟩]
      rfl
    rw [List.cons_append, readAll, goesOn]
    change readAll text (position + c.utf8Size) (word ++ rest) .word directive = _
    rw [ih signs.2, Text.byteLength, Nat.add_assoc]

theorem readAll_level (first position : Nat) :
    readAll text position rest (.level first) directive = .ok (.level first, directive) := by
  induction rest generalizing position with
  | nil => rfl
  | cons c rest ih => exact ih _

theorem parse?_name (level : Level) : Threshold.parse? level.name.toList = some (some level) := by
  cases level <;> decide +kernel

theorem parse_leveled (signs : word.all isTargetSign = true) (filled : word ≠ []) (level : Level) :
    parse (word ++ '=' :: level.name.toList) =
      .ok { target := String.ofList word, threshold := some level } := by
  let text := word ++ '=' :: level.name.toList
  have named : cut 0 (Text.byteLength word) text = .ok word := by
    rw [cut, Text.cut_front]
    rfl
  have levelled : cutFrom (Text.byteLength word + 1) text = .ok level.name.toList := by
    have sign : Text.byteLength (word ++ ['=']) = Text.byteLength word + 1 :=
      Text.byteLength_append word ['=']
    have rest : text = (word ++ ['=']) ++ level.name.toList := by simp [text]
    rw [cutFrom, Text.cutFrom, ← sign, rest, Text.dropBytes?_byteLength]
    rfl
  have signed : step text (Text.byteLength word) '=' {} .word =
      .ok (.level (Text.byteLength word + 1), { target := String.ofList word }) := by
    rw [step, if_neg (by simp), named]
    rfl
  have read : readAll text 0 text .start {} =
      .ok (.level (Text.byteLength word + 1), { target := String.ofList word }) := by
    obtain ⟨c, rest, rfl⟩ := List.exists_cons_of_ne_nil filled
    obtain ⟨sign, others⟩ := Bool.and_eq_true_iff.mp (List.all_cons.symm.trans signs)
    have begins : step text 0 c {} .start = .ok (.word, {}) := by
      rw [step, if_neg (plain_of_isTargetSign sign).2.2, if_pos (beginsWord_of_isTargetSign sign)]
    calc
      readAll text 0 text .start {} =
          readAll text (0 + c.utf8Size) (rest ++ '=' :: level.name.toList) .word {} := by
        change readAll text 0 (c :: (rest ++ '=' :: level.name.toList)) .start {} = _
        rw [readAll, begins]
        rfl
      _ = readAll text (Text.byteLength (c :: rest)) ('=' :: level.name.toList) .word {} := by
        rw [readAll_word others, Nat.zero_add, Text.byteLength]
      _ = readAll text (Text.byteLength (c :: rest) + '='.utf8Size) level.name.toList
          (.level (Text.byteLength (c :: rest) + 1)) { target := String.ofList (c :: rest) } := by
        rw [readAll, signed]
        rfl
      _ = _ := readAll_level ..
  have long : level.name.toList ≠ [] := by cases level <;> decide
  rw [parse, trim_leveled signs filled]
  change (readAll text 0 text .start {}).bind _ = _
  rw [read]
  change finish text { target := String.ofList word } (.level (Text.byteLength word + 1)) = _
  rw [finish, levelled]
  change (if level.name.toList = [] then _ else _) = _
  rw [if_neg long, parse?_name]
  rfl

end Directive

namespace LogFilter

open Directive

/-- A directive for a target and a level lets those events pass that reach the level and whose targets
begin with its own, and no others. -/
theorem admits_directive (target : String) (level : Level) (event : Event) :
    admits [{ target := target, threshold := some level }] event =
      (target.toList.isPrefixOf event.target.toList && event.reaches level) := by
  have covers : Directive.covers { target := target, threshold := some level } event =
      target.toList.isPrefixOf event.target.toList := by
    simp [Directive.covers]
  cases begins : target.toList.isPrefixOf event.target.toList with
  | false => simp [admits, deciding, covers, begins]
  | true => simp [admits, deciding, covers, begins, Threshold.admits, Event.reaches]

theorem parts_single {text : String} (filled : text ≠ "") (single : ',' ∉ text.toList) :
    parts text = [text] := by
  have whole : text.toList.splitOnP (· = ',') = [text.toList] := by
    apply List.splitOnP_eq_singleton
    intro c member
    simp only [decide_eq_false_iff_not]
    rintro rfl
    exact single member
  rw [parts, String.splitToList_of_valid, whole, List.map_singleton, String.ofList_toList,
    List.filter_singleton]
  simp [filled]

theorem parseLossy_directive {target : String} (proper : IsTarget target) (level : Level) :
    parseLossy (target ++ "=" ++ level.name) = [{ target := target, threshold := some level }] := by
  obtain ⟨filled, signs⟩ := proper
  have characters : (target ++ "=" ++ level.name).toList =
      target.toList ++ '=' :: level.name.toList := by
    rw [String.toList_append, String.toList_append, List.append_assoc]
    rfl
  have single : ',' ∉ (target ++ "=" ++ level.name).toList := by
    have plain : ',' ∉ '=' :: level.name.toList := by cases level <;> decide
    rw [characters, List.mem_append, not_or]
    refine ⟨fun member => ?_, plain⟩
    exact (plain_of_isTargetSign (List.all_eq_true.mp signs _ member)).1 rfl
  have some : target ++ "=" ++ level.name ≠ "" := by
    intro empty
    rw [empty] at characters
    simp at characters
  rw [parseLossy, parts_single some single]
  simp only [List.filterMap_cons, List.filterMap_nil, characters]
  rw [parse_leveled signs (by simpa using filled)]
  simp [Except.toOption]

end LogFilter

theorem LogBackend.standard_heeds : LogBackend.standard.Heeds := by
  intro target level event proper
  change LogFilter.admits (LogFilter.parseLossy (target ++ "=" ++ level.name)) event = _
  rw [LogFilter.parseLossy_directive proper]
  exact LogFilter.admits_directive target level event

end ArenaThreads

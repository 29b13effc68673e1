import ArenaThreads.Size
import ArenaThreads.Text.Cut
import Mathlib.Data.List.Basic
import Mathlib.Data.List.TakeWhile
/-!
The texts that are sizes. A size is written as digits, after a plus sign or none, with a letter for
its unit or none, between blanks; these texts are read, with the number that they write, and no others.
Reading by bytes and with arithmetic on words comes to the same.
-/

namespace ArenaThreads

/-! Trimming -/

namespace Text

structure Solid (text : List Char) : Prop where
  first : ∀ c ∈ text.head?, isBlank c = false
  last : ∀ c ∈ text.getLast?, isBlank c = false

section

variable {before text after : List Char}

theorem dropWhile_blank (blank : before.all isBlank = true)
    (first : ∀ c ∈ text.head?, isBlank c = false) : (before ++ text).dropWhile isBlank = text := by
  rw [List.dropWhile_append_of_pos (List.all_eq_true.mp blank)]
  cases text with
  | nil => rfl
  | cons c rest => simp [first c rfl]

theorem trim_between (blank : before.all isBlank = true) (solid : Solid text) (some : text ≠ [])
    (blanks : after.all isBlank = true) : trim (before ++ (text ++ after)) = text := by
  have start : trimStart (before ++ (text ++ after)) = text ++ after := by
    apply dropWhile_blank blank
    rw [List.head?_append_of_ne_nil _ some]
    exact solid.first
  rw [trim, start, trimEnd, List.reverse_append, dropWhile_blank, List.reverse_reverse]
  · rw [List.all_reverse]
    exact blanks
  · rw [List.head?_reverse]
    exact solid.last

theorem exists_trim (text : List Char) : ∃ before after, before.all isBlank = true ∧
    after.all isBlank = true ∧ text = before ++ (trim text ++ after) := by
  refine ⟨text.takeWhile isBlank, ((trimStart text).reverse.takeWhile isBlank).reverse,
    List.all_takeWhile, ?_, ?_⟩
  · rw [List.all_reverse]
    exact List.all_takeWhile
  · rw [trim, trimEnd, ← List.reverse_append, List.takeWhile_append_dropWhile,
      List.reverse_reverse, trimStart, List.takeWhile_append_dropWhile]

theorem cut_front (text after : List Char) : cut 0 (byteLength text) (text ++ after) = .ok text := by
  have taken := takeBytes?_byteLength text after
  rw [cut, dropBytes?]
  dsimp only
  rw [Nat.sub_zero, taken]

end

end Text

namespace Size

/-! The form of a size -/

def letters : List (Char × Nat) := [('k', 1024), ('K', 1024), ('m', 1048576), ('M', 1048576)]

inductive Suffix : List Char → Nat → Prop
  | nothing : Suffix [] 1
  | letter {gap : List Char} {c : Char} {unit : Nat} (blank : gap.all Text.isBlank = true)
      (known : (c, unit) ∈ letters) : Suffix (gap ++ [c]) unit

/-- A size as it is written, part by part. -/
structure Form where
  before : List Char
  sign : List Char
  digits : List Char
  suffix : List Char
  unit : Nat
  after : List Char
  blank : before.all Text.isBlank = true
  signed : sign = [] ∨ sign = ['+']
  written : digits ≠ []
  decimal : digits.all Char.isDigit = true
  ends : Suffix suffix unit
  blanks : after.all Text.isBlank = true

namespace Form

def inner (form : Form) : List Char := form.sign ++ (form.digits ++ form.suffix)

def text (form : Form) : List Char := form.before ++ (form.inner ++ form.after)

def size (form : Form) : Nat := Nat.ofDigitChars 10 form.digits 0 * form.unit

end Form

/-- A text writes a number of bytes. -/
def Writes (text : List Char) (size : Nat) : Prop := ∃ form : Form, form.text = text ∧ form.size = size

/-! Digits -/

section

variable {c : Char} {text digits sign suffix gap : List Char} {unit read value : Nat}

theorem not_blank_of_isDigit (digit : c.isDigit = true) : Text.isBlank c = false := by
  have bounds := Char.isDigit_iff_toNat.mp digit
  simp only [Text.isBlank, Text.blankRanges, List.any_cons, List.any_nil, Bool.or_false,
    Bool.or_eq_false_iff, Bool.and_eq_false_iff, decide_eq_false_iff_not]
  simp at bounds
  omega

theorem digit?_eq (c : Char) :
    digit? c = if c.isDigit then some (c.toNat - '0'.toNat) else none := by
  simp [digit?, Char.isDigit, Char.le_def]

theorem digits?_eq (read : Nat) (text : List Char) : digits? read text =
    if text.all Char.isDigit then some (Nat.ofDigitChars 10 text read) else none := by
  induction text generalizing read with
  | nil => rfl
  | cons c rest ih =>
    rw [digits?, digit?_eq]
    by_cases digit : c.isDigit = true
    · simp only [digit, if_true, Option.bind_some, ih, List.all_cons, Bool.true_and,
        Nat.ofDigitChars_cons]
    · simp [digit]

theorem number?_signed (signed : sign = [] ∨ sign = ['+']) (written : digits ≠ [])
    (decimal : digits.all Char.isDigit = true) : number? (sign ++ digits) =
      if Nat.ofDigitChars 10 digits 0 < wordLimit then some (Nat.ofDigitChars 10 digits 0)
      else none := by
  have unsigned : number? (sign ++ digits) = (digits? 0 digits).filter (· < wordLimit) := by
    rcases signed with rfl | rfl
    · obtain ⟨c, rest, rfl⟩ := List.exists_cons_of_ne_nil written
      have plus : c ≠ '+' := by
        rintro rfl
        simp at decimal
      simp [number?, plus]
    · simp [number?, written]
  rw [unsigned, digits?_eq, if_pos decimal, Option.filter_some]
  simp

theorem number?_parts (text : List Char) : ∃ sign digits, text = sign ++ digits ∧
    (sign = [] ∨ sign = ['+']) ∧
      number? text = if digits = [] then none else (digits? 0 digits).filter (· < wordLimit) := by
  cases text with
  | nil => exact ⟨[], [], rfl, .inl rfl, rfl⟩
  | cons c rest =>
    by_cases plus : c = '+'
    · subst plus
      exact ⟨['+'], rest, rfl, .inr rfl, rfl⟩
    · exact ⟨[], c :: rest, rfl, .inl rfl, by simp [number?, plus]⟩

theorem exists_signed (read : number? text = some value) :
    ∃ sign digits, text = sign ++ digits ∧ (sign = [] ∨ sign = ['+']) ∧ digits ≠ [] ∧
      digits.all Char.isDigit = true ∧ Nat.ofDigitChars 10 digits 0 = value := by
  obtain ⟨sign, digits, rfl, signed, same⟩ := number?_parts text
  rw [same] at read
  by_cases written : digits = []
  · simp [written] at read
  · rw [if_neg written, digits?_eq] at read
    by_cases decimal : digits.all Char.isDigit = true
    · rw [if_pos decimal] at read
      have value := (Option.filter_eq_some_iff.mp read).1
      exact ⟨sign, digits, rfl, signed, written, decimal, Option.some.inj value⟩
    · simp [decimal] at read

/-! Units -/

theorem unit?_letter (text : List Char) (known : (c, unit) ∈ letters) :
    unit? (text ++ [c]) = some (text, unit) := by
  simp only [letters, List.mem_cons, Prod.mk.injEq, List.not_mem_nil, or_false] at known
  rcases known with ⟨rfl, rfl⟩ | ⟨rfl, rfl⟩ | ⟨rfl, rfl⟩ | ⟨rfl, rfl⟩ <;> simp [unit?]

theorem unit?_bytes (text : List Char) (other : ∀ entry ∈ letters, entry.1 ≠ c) :
    unit? (text ++ [c]) = some (text ++ [c], 1) := by
  simp only [letters, List.forall_mem_cons, List.not_mem_nil, false_imp_iff, implies_true,
    and_true] at other
  obtain ⟨k, upperK, m, upperM⟩ := other
  simp [unit?, k.symm, upperK.symm, m.symm, upperM.symm]

theorem not_digit_of_letter : ∀ entry ∈ letters, entry.1.isDigit = false := by decide

theorem unit?_digit (text : List Char) (digit : c.isDigit = true) :
    unit? (text ++ [c]) = some (text ++ [c], 1) := by
  apply unit?_bytes
  rintro entry known rfl
  cases (not_digit_of_letter entry known).symm.trans digit

theorem unit?_cases (known : unit? text = some (digits, unit)) :
    (∃ c, text = digits ++ [c] ∧ (c, unit) ∈ letters) ∨ (digits = text ∧ unit = 1) := by
  obtain ⟨last, ends, same⟩ := Option.map_eq_some_iff.mp known
  have whole := List.dropLast_append_getLast? last ends
  split at same
  · rename_i kilo
    cases same
    refine .inl ⟨last, whole.symm, ?_⟩
    rcases kilo with rfl | rfl <;> simp [letters]
  · split at same
    · rename_i mega
      cases same
      refine .inl ⟨last, whole.symm, ?_⟩
      rcases mega with rfl | rfl <;> simp [letters]
    · cases same
      exact .inr ⟨rfl, rfl⟩

theorem not_blank_of_letter : ∀ entry ∈ letters, Text.isBlank entry.1 = false := by decide

/-! What is read -/

theorem solid_signed (signed : sign = [] ∨ sign = ['+']) (written : digits ≠ [])
    (decimal : digits.all Char.isDigit = true) : Text.Solid (sign ++ digits) := by
  constructor
  · rcases signed with rfl | rfl
    · obtain ⟨c, rest, rfl⟩ := List.exists_cons_of_ne_nil written
      simp only [List.all_cons, Bool.and_eq_true] at decimal
      simp [not_blank_of_isDigit decimal.1]
    · simp [Text.isBlank, Text.blankRanges]
  · intro c last
    rw [List.getLast?_append_of_ne_nil _ written] at last
    exact not_blank_of_isDigit (List.all_eq_true.mp decimal c (List.mem_of_mem_getLast? last))

theorem trim_signed (signed : sign = [] ∨ sign = ['+']) (written : digits ≠ [])
    (decimal : digits.all Char.isDigit = true) (blank : gap.all Text.isBlank = true) :
    Text.trim (sign ++ digits ++ gap) = sign ++ digits := by
  apply @Text.trim_between [] _ _ rfl (solid_signed signed written decimal) ?_ blank
  simp [written]

theorem Suffix.eq (ends : Suffix suffix unit) : suffix = [] ∧ unit = 1 ∨
    ∃ gap c, gap.all Text.isBlank = true ∧ (c, unit) ∈ letters ∧ suffix = gap ++ [c] := by
  cases ends with
  | nothing => exact .inl ⟨rfl, rfl⟩
  | letter blank known => exact .inr ⟨_, _, blank, known, rfl⟩

namespace Form

theorem trim_text (form : Form) : Text.trim form.text = form.inner := by
  have solid := solid_signed form.signed form.written form.decimal
  have some : form.sign ++ form.digits ≠ [] := by simp [form.written]
  have parts : form.inner = form.sign ++ form.digits ++ form.suffix := by simp [inner]
  refine Text.trim_between form.blank ⟨?_, ?_⟩ ?_ form.blanks
  · rw [parts, List.head?_append_of_ne_nil _ some]
    exact solid.first
  · rcases form.ends.eq with ⟨nothing, -⟩ | ⟨gap, c, -, known, letter⟩
    · rw [parts, nothing, List.append_nil]
      exact solid.last
    · simp [parts, letter, not_blank_of_letter _ known]
  · rw [parts]
    exact List.append_ne_nil_of_left_ne_nil some _

theorem unit?_inner (form : Form) : ∃ number, unit? form.inner = some (number, form.unit) ∧
    Text.trim number = form.sign ++ form.digits := by
  have trim {gap : List Char} (blank : gap.all Text.isBlank = true) :=
    trim_signed form.signed form.written form.decimal blank
  rcases form.ends.eq with ⟨nothing, bytes⟩ | ⟨gap, c, blank, known, letter⟩
  · obtain ⟨front, c, whole⟩ := (List.eq_nil_or_concat form.digits).resolve_left form.written
    have digit : c.isDigit = true := List.all_eq_true.mp form.decimal c (by simp [whole])
    have last : form.inner = form.sign ++ front ++ [c] := by simp [inner, nothing, whole]
    have none : form.inner = form.sign ++ form.digits ++ [] := by simp [inner, nothing]
    refine ⟨form.inner, ?_, ?_⟩
    · rw [last, bytes]
      exact unit?_digit _ digit
    · rw [none]
      exact trim rfl
  · have last : form.inner = form.sign ++ form.digits ++ gap ++ [c] := by simp [inner, letter]
    rw [last]
    exact ⟨_, unit?_letter _ known, trim blank⟩

theorem unit_pos (form : Form) : 0 < form.unit := by
  have units : ∀ entry ∈ letters, 0 < entry.2 := by decide
  rcases form.ends.eq with ⟨-, bytes⟩ | ⟨gap, c, -, known, -⟩
  · omega
  · exact units _ known

theorem parse?_text (form : Form) : parse? form.text =
    if 0 < form.size ∧ form.size < wordLimit then some form.size else none := by
  obtain ⟨number, split, trimmed⟩ := form.unit?_inner
  have short : Nat.ofDigitChars 10 form.digits 0 ≤ form.size := Nat.le_mul_of_pos_right _ form.unit_pos
  rw [parse?, form.trim_text, split]
  dsimp only [bind, Option.bind]
  rw [trimmed, number?_signed form.signed form.written form.decimal]
  by_cases fits : Nat.ofDigitChars 10 form.digits 0 < wordLimit
  · rw [if_pos fits]
    rfl
  · rw [if_neg fits, if_neg (by omega)]

end Form

theorem exists_form {size : Nat} (read : parse? text = some size) :
    (∃ form : Form, form.text = text ∧ form.size = size) ∧ 0 < size ∧ size < wordLimit := by
  obtain ⟨before, after, blank, blanks, whole⟩ := Text.exists_trim text
  obtain ⟨⟨number, unit⟩, split, read⟩ := Option.bind_eq_some_iff.mp read
  obtain ⟨count, counted, bounded⟩ := Option.bind_eq_some_iff.mp read
  obtain ⟨bounds, same⟩ := Option.ite_none_right_eq_some.mp bounded
  cases same
  obtain ⟨outer, gap, outerBlank, gapBlank, inside⟩ := Text.exists_trim number
  obtain ⟨sign, digits, signed, plus, written, decimal, rfl⟩ := exists_signed counted
  rw [signed] at inside
  have front : (before ++ outer).all Text.isBlank = true := by
    rw [List.all_append, blank, outerBlank]
    rfl
  refine ⟨?_, bounds⟩
  rcases unit?_cases split with ⟨c, ends, known⟩ | ⟨rfl, rfl⟩
  · refine ⟨⟨before ++ outer, sign, digits, gap ++ [c], unit, after, front, plus, written, decimal,
      .letter gapBlank known, blanks⟩, ?_, rfl⟩
    rw [whole, ends, inside]
    simp only [Form.text, Form.inner, List.append_assoc]
  · have back : (gap ++ after).all Text.isBlank = true := by
      rw [List.all_append, blanks, gapBlank]
      rfl
    refine ⟨⟨before ++ outer, sign, digits, [], 1, gap ++ after, front, plus, written, decimal,
      .nothing, back⟩, ?_, rfl⟩
    rw [whole, inside]
    simp only [Form.text, Form.inner, List.append_assoc, List.append_nil]

theorem parse?_eq_some_iff (text : List Char) (size : Nat) :
    parse? text = some size ↔ Writes text size ∧ 0 < size ∧ size < wordLimit := by
  constructor
  · exact exists_form
  · rintro ⟨⟨form, rfl, rfl⟩, bounds⟩
    rw [form.parse?_text, if_pos bounds]

/-! Leading zeros -/

theorem stretch_unique {kind : Char → Bool} {first second rest other : List Char}
    (one : first.all kind = true) (both : second.all kind = true)
    (stop : ∀ c ∈ rest.head?, kind c = false) (stops : ∀ c ∈ other.head?, kind c = false)
    (same : first ++ rest = second ++ other) : first = second ∧ rest = other := by
  have taken {stretch tail : List Char} (all : stretch.all kind = true)
      (stop : ∀ c ∈ tail.head?, kind c = false) : (stretch ++ tail).takeWhile kind = stretch := by
    rw [List.takeWhile_append_of_pos (List.all_eq_true.mp all)]
    cases tail with
    | nil => simp
    | cons c rest => simp [stop c rfl]
  have stretches : first = second := by rw [← taken one stop, same, taken both stops]
  subst stretches
  exact ⟨rfl, List.append_cancel_left same⟩

theorem signed_first {rest : List Char} (signed : sign = [] ∨ sign = ['+'])
    (digit : ∀ c ∈ rest.head?, c.isDigit = true) :
    ∀ c ∈ (sign ++ rest).head?, Text.isBlank c = false := by
  intro c first
  rcases signed with rfl | rfl
  · exact not_blank_of_isDigit (digit c first)
  · cases first
    decide

theorem sign_unique {rest other further : List Char} (signed : sign = [] ∨ sign = ['+'])
    (signs : other = [] ∨ other = ['+']) (digit : ∀ c ∈ rest.head?, c.isDigit = true)
    (digits : ∀ c ∈ further.head?, c.isDigit = true) (same : sign ++ rest = other ++ further) :
    sign = other ∧ rest = further := by
  rcases signed with rfl | rfl <;> rcases signs with rfl | rfl
  · exact ⟨rfl, same⟩
  · have plus := digit '+' (by simp only [List.nil_append] at same; simp [same])
    cases plus
  · have plus := digits '+' (by simp only [List.nil_append] at same; simp [← same])
    cases plus
  · exact ⟨rfl, List.append_cancel_left same⟩

namespace Form

theorem digits_first (form : Form) (tail : List Char) :
    ∀ c ∈ (form.digits ++ tail).head?, c.isDigit = true := by
  intro c first
  rw [List.head?_append_of_ne_nil _ form.written] at first
  exact List.all_eq_true.mp form.decimal c (List.mem_of_mem_head? first)

theorem digits_last (form : Form) :
    ∀ c ∈ (form.suffix ++ form.after).head?, c.isDigit = false := by
  have blank {c : Char} (blank : Text.isBlank c = true) : c.isDigit = false := by
    cases digit : c.isDigit with
    | false => rfl
    | true => cases (not_blank_of_isDigit digit).symm.trans blank
  intro c first
  rcases form.ends.eq with ⟨nothing, -⟩ | ⟨gap, sign, blanks, known, ends⟩
  · rw [nothing, List.nil_append] at first
    exact blank (List.all_eq_true.mp form.blanks c (List.mem_of_mem_head? first))
  · rw [ends] at first
    cases gap with
    | nil =>
      cases first
      exact not_digit_of_letter _ known
    | cons head rest =>
      cases first
      exact blank (List.all_eq_true.mp blanks c List.mem_cons_self)

theorem parted (form : Form) {before sign rest : List Char} (blank : before.all Text.isBlank = true)
    (signed : sign = [] ∨ sign = ['+']) (digit : ∀ c ∈ rest.head?, c.isDigit = true)
    (same : form.text = before ++ (sign ++ rest)) :
    form.before = before ∧ form.sign = sign ∧
      rest = form.digits ++ (form.suffix ++ form.after) := by
  have text : form.text =
      form.before ++ (form.sign ++ (form.digits ++ (form.suffix ++ form.after))) := by
    simp [Form.text, inner]
  obtain ⟨first, inside⟩ := stretch_unique form.blank blank
    (signed_first form.signed (form.digits_first _)) (signed_first signed digit) (text ▸ same)
  obtain ⟨plus, number⟩ := sign_unique form.signed signed (form.digits_first _) digit inside
  exact ⟨first, plus, number.symm⟩

/-- Digits of the same value write the same size, with blanks and a sign of any kind before them. -/
theorem writes_instead (form : Form) {before sign digits : List Char}
    (blank : before.all Text.isBlank = true) (signed : sign = [] ∨ sign = ['+'])
    (written : digits ≠ []) (decimal : digits.all Char.isDigit = true)
    (value : Nat.ofDigitChars 10 digits 0 = Nat.ofDigitChars 10 form.digits 0) :
    Writes (before ++ (sign ++ (digits ++ (form.suffix ++ form.after)))) form.size := by
  refine ⟨{ form with
    before := before
    sign := sign
    digits := digits
    blank := blank
    signed := signed
    written := written
    decimal := decimal }, ?_, ?_⟩
  · simp [text, inner]
  · exact congrArg (· * form.unit) value

end Form

/-- The same sizes are written with zeros before the first digit and without them. -/
theorem writes_zeros_iff {before rest : List Char} (blank : before.all Text.isBlank = true)
    (signed : sign = [] ∨ sign = ['+']) (digit : rest.head?.any Char.isDigit = true)
    (count size : Nat) : Writes (before ++ (sign ++ (List.replicate count '0' ++ rest))) size ↔
      Writes (before ++ (sign ++ rest)) size := by
  have zeros : (List.replicate count '0').all Char.isDigit = true := by simp
  have same (digits : List Char) : Nat.ofDigitChars 10 (List.replicate count '0' ++ digits) 0 =
      Nat.ofDigitChars 10 digits 0 := by
    rw [Nat.ofDigitChars_append, Nat.ofDigitChars_replicate_zero, Nat.mul_zero]
  have first : ∀ c ∈ rest.head?, c.isDigit = true := by
    intro c found
    rw [found] at digit
    exact digit
  have some : rest ≠ [] := by
    rintro rfl
    cases digit
  have further : ∀ c ∈ (List.replicate count '0' ++ rest).head?, c.isDigit = true := by
    intro c found
    cases count with
    | zero => exact first c found
    | succ count =>
      cases found
      rfl
  constructor
  · rintro ⟨form, text, rfl⟩
    obtain ⟨-, -, number⟩ := form.parted blank signed further text
    have parts := List.takeWhile_append_dropWhile (p := Char.isDigit) (l := rest)
    rw [← parts, ← List.append_assoc] at number
    have run : (rest.takeWhile Char.isDigit).all Char.isDigit = true := List.all_takeWhile
    have stop : ∀ c ∈ (rest.dropWhile Char.isDigit).head?, c.isDigit = false := by
      intro c found
      have last := List.head?_dropWhile_not Char.isDigit rest
      rw [found] at last
      exact last
    -- Both are the longest stretch of digits from the same place on.
    obtain ⟨digits, tail⟩ := stretch_unique (by rw [List.all_append, zeros, run]; rfl) form.decimal
      stop form.digits_last number
    have written : rest.takeWhile Char.isDigit ≠ [] := by
      obtain ⟨c, more, rfl⟩ := List.exists_cons_of_ne_nil some
      have leads : c.isDigit = true := first c (Option.mem_some.mpr rfl)
      simp [leads]
    have value := same (rest.takeWhile Char.isDigit)
    rw [digits] at value
    rw [← parts, tail]
    exact form.writes_instead blank signed written run value.symm
  · rintro ⟨form, text, rfl⟩
    obtain ⟨-, -, number⟩ := form.parted blank signed first text
    rw [number, ← List.append_assoc (List.replicate count '0')]
    exact form.writes_instead blank signed (List.append_ne_nil_of_right_ne_nil _ form.written)
      (by rw [List.all_append, zeros, form.decimal]; rfl) (same form.digits)

end

/-! Reading by bytes, with numbers that fit words -/

namespace Checked

def word? (value : Nat) : Option Nat := if value < wordLimit then some value else none

def digits? (read : Nat) : List Char → Option Nat
  | [] => some read
  | c :: rest => do
    let digit ← digit? c
    let tens ← word? (10 * read)
    let next ← word? (tens + digit)
    digits? next rest

def number? (text : List Char) : Option Nat :=
  match text with
  | [] | ['+'] => none
  | '+' :: rest => digits? 0 rest
  | _ => digits? 0 text

def unit? (text : List Char) : Except Text.BrokenCut (Option (List Char × Nat)) :=
  match (text.flatMap String.utf8EncodeChar).getLast? with
  | none => .ok none
  | some last =>
    match letters.find? fun entry => entry.1.toUInt8 = last with
    | some (_, unit) =>
      (Text.cut 0 (Text.byteLength text - 1) text).map fun digits => some (digits, unit)
    | none => .ok (some (text, 1))

def parse? (text : List Char) : Except Text.BrokenCut (Option Nat) := do
  let split ← unit? (Text.trim text)
  return do
    let (digits, unit) ← split
    let count ← number? (Text.trim digits)
    let size ← word? (count * unit)
    if size = 0 then none else some size

end Checked

section

variable {c : Char} {text : List Char} {read : Nat}

theorem le_digits? {value : Nat} (found : digits? read text = some value) : read ≤ value := by
  induction text generalizing read with
  | nil => exact le_of_eq (Option.some.inj found)
  | cons c rest ih =>
    obtain ⟨digit, -, found⟩ := Option.bind_eq_some_iff.mp found
    have more := ih found
    omega

theorem digits?_checked (bound : read < wordLimit) :
    Checked.digits? read text = (digits? read text).filter (· < wordLimit) := by
  induction text generalizing read with
  | nil => simp [Checked.digits?, digits?, Option.filter_some, bound]
  | cons c rest ih =>
    rw [Checked.digits?, digits?]
    cases digit? c with
    | none => rfl
    | some digit =>
      dsimp only [bind, Option.bind]
      by_cases fits : 10 * read + digit < wordLimit
      · have tens : 10 * read < wordLimit := by omega
        simp only [Checked.word?, if_pos tens, if_pos fits, ih fits]
      · have none : (digits? (10 * read + digit) rest).filter (· < wordLimit) = none := by
          apply Option.filter_eq_none_iff.mpr
          intro value found
          have more := le_digits? found
          simp only [decide_eq_true_eq]
          omega
        rw [none]
        by_cases tens : 10 * read < wordLimit
        · simp only [Checked.word?, if_pos tens, if_neg fits]
        · simp only [Checked.word?, if_neg tens]

theorem number?_checked (text : List Char) : Checked.number? text = number? text := by
  have zero : 0 < wordLimit := by decide
  cases text with
  | nil => rfl
  | cons c rest =>
    by_cases plus : c = '+'
    · subst plus
      cases rest with
      | nil => rfl
      | cons next more => exact digits?_checked zero
    · have one : Checked.number? (c :: rest) = Checked.digits? 0 (c :: rest) := by
        simp [Checked.number?, plus]
      have other : number? (c :: rest) = (digits? 0 (c :: rest)).filter (· < wordLimit) := by
        simp [number?, plus]
      rw [one, other]
      exact digits?_checked zero

theorem toNat_toUInt8 (ascii : c.toNat < 128) : c.toUInt8.toNat = c.toNat := by
  simp only [Char.toUInt8, UInt32.toNat_toUInt8]
  exact Nat.mod_eq_of_lt (show c.toNat < 256 by omega)

/-- The last byte of a character is an ASCII letter only where the character is this letter. -/
theorem exists_last_byte (c : Char) : ∃ front last, String.utf8EncodeChar c = front ++ [last] ∧
    ∀ letter : Char, letter.toNat < 128 → (letter.toUInt8 = last ↔ letter = c) := by
  by_cases ascii : c.toNat < 128
  · have single : c.utf8Size = 1 := by
      rw [Char.utf8Size_eq_one_iff, UInt32.le_iff_toNat_le]
      exact Nat.le_of_lt_succ ascii
    refine ⟨[], c.toUInt8, String.utf8EncodeChar_eq_singleton single, ?_⟩
    intro letter small
    constructor
    · intro same
      have codes := congrArg UInt8.toNat same
      rw [toNat_toUInt8 small, toNat_toUInt8 ascii] at codes
      exact Char.toNat_inj.mp codes
    · rintro rfl
      rfl
  · have high : ¬c.val.toNat ≤ 127 := fun low => ascii (Nat.lt_succ_of_le low)
    have tail : ∃ front, String.utf8EncodeChar c = front ++ [UInt8.ofNat (c.toNat % 64 + 128)] := by
      unfold String.utf8EncodeChar
      rw [if_neg high]
      split
      · exact ⟨[_], rfl⟩
      · split
        · exact ⟨[_, _], rfl⟩
        · exact ⟨[_, _, _], rfl⟩
    obtain ⟨front, whole⟩ := tail
    refine ⟨front, _, whole, ?_⟩
    intro letter small
    constructor
    · intro same
      have codes := congrArg UInt8.toNat same
      rw [toNat_toUInt8 small, UInt8.toNat_ofNat_of_lt' (by change _ < 256; omega)] at codes
      omega
    · rintro rfl
      exact absurd small ascii

theorem letter_ascii : ∀ entry ∈ letters, entry.1.toNat < 128 ∧ entry.1.utf8Size = 1 := by decide

theorem unit?_checked (text : List Char) : Checked.unit? text = .ok (unit? text) := by
  rcases List.eq_nil_or_concat text with rfl | ⟨front, c, rfl⟩
  · rfl
  · obtain ⟨lead, last, encoded, tells⟩ := exists_last_byte c
    have ends : ((front.concat c).flatMap String.utf8EncodeChar).getLast? = some last := by
      simp [encoded]
    rw [Checked.unit?, ends, List.concat_eq_append]
    dsimp only
    cases found : letters.find? fun entry => entry.1.toUInt8 = last with
    | none =>
      have other : ∀ entry ∈ letters, entry.1 ≠ c := by
        intro entry known same
        have byte := (tells entry.1 (letter_ascii entry known).1).mpr same
        simpa [byte] using List.find?_eq_none.mp found entry known
      rw [unit?_bytes front other]
    | some entry =>
      have known := List.mem_of_find?_eq_some found
      have byte : entry.1.toUInt8 = last := by simpa using List.find?_some found
      have same := (tells entry.1 (letter_ascii entry known).1).mp byte
      have size := (letter_ascii entry known).2
      have cut : Text.byteLength (front ++ [c]) - 1 = Text.byteLength front := by
        rw [Text.byteLength_append, ← same]
        simp [Text.byteLength, size]
      subst same
      rw [unit?_letter front known, cut, Text.cut_front]
      rfl

/-- Reading by bytes, with numbers that fit words, never fails in a cut and comes to the same. -/
theorem parse?_checked (text : List Char) : Checked.parse? text = .ok (parse? text) := by
  rw [Checked.parse?, unit?_checked, parse?]
  apply congrArg Except.ok
  cases unit? (Text.trim text) with
  | none => rfl
  | some split =>
    dsimp only [bind, Option.bind]
    rw [number?_checked]
    cases number? (Text.trim split.1) with
    | none => rfl
    | some count =>
      by_cases fits : count * split.2 < wordLimit
      · simp only [Checked.word?, if_pos fits]
        by_cases zero : count * split.2 = 0
        · rw [if_pos zero, if_neg (by omega)]
        · rw [if_neg zero, if_pos ⟨Nat.pos_of_ne_zero zero, fits⟩]
      · simp only [Checked.word?, if_neg fits]
        rw [if_neg (fun bounds => fits bounds.2)]

end

/-! Main statement -/

structure ReadsExactly : Prop where
  accepts : ∀ text size, parse? text = some size ↔ Writes text size ∧ 1 ≤ size ∧ size < wordLimit
  overflows : ∀ form : Form, wordLimit ≤ Nat.ofDigitChars 10 form.digits 0 ∨ wordLimit ≤ form.size →
    parse? form.text = none
  zeros : ∀ {before sign rest : List Char} (count : Nat), before.all Text.isBlank = true →
    sign = [] ∨ sign = ['+'] → rest.head?.any Char.isDigit = true →
      parse? (before ++ (sign ++ (List.replicate count '0' ++ rest))) =
        parse? (before ++ (sign ++ rest))
  cuts : ∀ text, Checked.parse? text = .ok (parse? text)
  decimal : ∀ size : Nat, 1 ≤ size → size < wordLimit → parse? (toString size).toList = some size

/-- Read are exactly the texts that write a size of at least one byte that fits a word. -/
theorem sizes_read_exactly : ReadsExactly := by
  constructor
  · exact parse?_eq_some_iff
  · intro form large
    have short := Nat.le_mul_of_pos_right (Nat.ofDigitChars 10 form.digits 0) form.unit_pos
    have beyond : wordLimit ≤ form.size := large.elim (fun digits => digits.trans short) id
    rw [form.parse?_text, if_neg (by omega)]
  · intro before sign rest count blank signed digit
    apply Option.ext
    intro size
    rw [parse?_eq_some_iff, parse?_eq_some_iff, writes_zeros_iff blank signed digit]
  · exact parse?_checked
  · intro size positive bounded
    have digits : (Nat.toDigits 10 size).all Char.isDigit = true := List.all_eq_true.mpr
      fun c member => Nat.isDigit_of_mem_toDigits (by decide) (by decide) member
    let form : Form := ⟨[], [], Nat.toDigits 10 size, [], 1, [], rfl, .inl rfl, Nat.toDigits_ne_nil,
      digits, .nothing, rfl⟩
    have same : form.size = size := by simp [form, Form.size, Nat.ofDigitChars_ten_toDigits]
    have text : (toString size).toList = form.text := by
      simp [form, Form.text, Form.inner]
    rw [text, form.parse?_text, same, if_pos ⟨positive, bounded⟩]

end Size

end ArenaThreads

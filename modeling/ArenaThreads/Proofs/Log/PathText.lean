import ArenaThreads.Log.Path
import Mathlib.Data.List.Basic
import Mathlib.Data.List.Induction
/-!
Paths as texts: the pieces between separators, of which some stand for components and some leave no
trace. A text is told by its pieces; a directory and what is in it are joined by a separator; a path is
read back from the text that writes it; and a text is divided into a directory and a last component.
-/

namespace ArenaThreads

structure Component.Inner (component : Component) : Prop where
  reads : Path.component? (Path.componentText component) = some component
  clean : Path.separator ∉ Path.componentText component

namespace Component.Inner

variable {component : Component}

theorem ne_root (inner : component.Inner) : component ≠ .root := by
  rintro rfl
  cases inner.reads

theorem text_ne (inner : component.Inner) :
    Path.componentText component ≠ [] ∧ Path.componentText component ≠ ['.'] := by
  constructor
  · intro empty
    have reads := inner.reads
    rw [empty] at reads
    cases reads
  · intro dot
    have reads := inner.reads
    rw [dot] at reads
    cases reads

end Component.Inner

namespace Path

def lead (text : List Char) : Path :=
  if text.head? = some separator then [.root]
  else if (pieces text).head? = some ['.'] then [.here] else []

/-- Inner components after a root, after a dot, or after neither. -/
inductive Proper : Path → Prop
  | after {first inner : Path} (begins : first ∈ [[], [.root], [.here]])
    (all : ∀ component ∈ inner, component.Inner) : Proper (first ++ inner)

/-- Pieces passed over from their end up to the last one that stands for a component; the others before
it are in opposite order. -/
inductive Passed : List (List Char) → List (List Char) → Prop
  | nothing {parts : List (List Char)} (bare : parts.filterMap component? = []) : Passed parts []
  | last {before after : List (List Char)} {piece : List Char} {component : Component}
    (reads : component? piece = some component) (bare : after.filterMap component? = []) :
    Passed (before ++ piece :: after) (piece :: before.reverse)

inductive Divided (text : List Char) : Prop
  | bare (whole : parse text = lead text) (directory : directoryText text = ['.'])
  | alone {last : Component} (inner : last.Inner) (whole : parse text = lead text ++ [last])
    (directory : directoryText text =
      if text.head? = some separator then [separator] else ['.'])
  | below {last : Component} (inner : last.Inner)
    (whole : parse text = parse (directoryText text) ++ [last])
    (some : directoryText text ≠ []) (named : parse (directoryText text) ≠ [])

section

variable {text piece directory : List Char} {parts : List (List Char)} {component : Component}
  {path : Path}

/-! Pieces -/

theorem pieces_eq_splitOn (text : List Char) : pieces text = text.splitOn separator := by
  induction text with
  | nil => rfl
  | cons c rest ih =>
    rw [pieces, ih, List.splitOn_cons_eq_if_modifyHead]
    by_cases same : c = separator
    · simp [same]
    · cases parted : rest.splitOn separator with
      | nil => exact absurd parted (List.splitOn_ne_nil _ _)
      | cons piece others => simp [same]

theorem pieces_ne_nil (text : List Char) : pieces text ≠ [] := by
  rw [pieces_eq_splitOn]
  exact List.splitOn_ne_nil _ _

theorem pieces_join (first second : List Char) :
    pieces (first ++ separator :: second) = pieces first ++ pieces second := by
  simp only [pieces_eq_splitOn]
  exact List.splitOn_append_cons_self first second

theorem pieces_of_clean (clean : separator ∉ piece) : pieces piece = [piece] := by
  rw [pieces_eq_splitOn]
  exact List.splitOn_eq_singleton clean

theorem pieces_intercalate (clean : ∀ part ∈ parts, separator ∉ part) (some : parts ≠ []) :
    pieces ([separator].intercalate parts) = parts := by
  rw [pieces_eq_splitOn]
  exact List.splitOn_intercalate separator clean some

theorem pieces_injective : Function.Injective pieces := by
  have left : Function.LeftInverse [separator].intercalate pieces := by
    intro text
    rw [pieces_eq_splitOn]
    exact List.intercalate_splitOn separator
  exact left.injective

theorem pieces_clean (text : List Char) : ∀ piece ∈ pieces text, separator ∉ piece := by
  induction text with
  | nil => simp [pieces]
  | cons c rest ih =>
    rw [pieces]
    by_cases same : c = separator
    · rw [if_pos same]
      exact List.forall_mem_cons.mpr ⟨List.not_mem_nil, ih⟩
    · rw [if_neg same]
      cases parted : pieces rest with
      | nil => exact absurd parted (pieces_ne_nil rest)
      | cons piece others =>
        rw [parted] at ih
        dsimp only
        obtain ⟨clean, later⟩ := List.forall_mem_cons.mp ih
        have whole : separator ∉ c :: piece :=
          List.not_mem_cons_of_ne_of_not_mem (Ne.symm same) clean
        exact List.forall_mem_cons.mpr ⟨whole, later⟩

/-! Components -/

theorem componentText_of_reads (reads : component? piece = some component) :
    componentText component = piece := by
  unfold component? at reads
  split at reads
  · cases reads
  · split at reads
    · next up =>
      cases reads
      exact up.symm
    · cases reads
      rfl

theorem inner_of_reads (clean : separator ∉ piece) (reads : component? piece = some component) :
    component.Inner := by
  have writes := componentText_of_reads reads
  constructor
  · rw [writes, reads]
  · rw [writes]
    exact clean

theorem filterMap_inner (clean : ∀ part ∈ parts, separator ∉ part) :
    ∀ component ∈ parts.filterMap component?, component.Inner := by
  intro component member
  obtain ⟨part, present, reads⟩ := List.mem_filterMap.mp member
  exact inner_of_reads (clean part present) reads

theorem filterMap_componentText (all : ∀ component ∈ path, component.Inner) :
    (path.map componentText).filterMap component? = path := by
  induction path with
  | nil => rfl
  | cons first rest ih =>
    obtain ⟨inner, later⟩ := List.forall_mem_cons.mp all
    rw [List.map_cons, List.filterMap_cons, inner.reads, ih later]

/-! Parsing -/

theorem parse_eq (text : List Char) :
    parse text = lead text ++ (pieces text).filterMap component? := rfl

theorem lead_mem (text : List Char) : lead text ∈ [[], [.root], [.here]] := by
  unfold lead
  split
  · simp
  · split <;> simp

theorem lead_join (some : directory ≠ []) (rest : List Char) :
    lead (directory ++ separator :: rest) = lead directory := by
  rw [lead, lead, List.head?_append_of_ne_nil _ some, pieces_join,
    List.head?_append_of_ne_nil _ (pieces_ne_nil directory)]

theorem parse_join (some : directory ≠ []) (rest : List Char) :
    parse (directory ++ separator :: rest) =
      parse directory ++ (pieces rest).filterMap component? := by
  rw [parse_eq, parse_eq, lead_join some, pieces_join, List.filterMap_append, List.append_assoc]

theorem parse_named {name : List Char} (some : directory ≠ [])
    (inner : (Component.name name).Inner) :
    parse (if directory = [separator] then directory ++ name else directory ++ separator :: name) =
      parse directory ++ [.name name] := by
  have clean : separator ∉ name := inner.clean
  have reads : component? name = Option.some (.name name) := inner.reads
  have alone : (pieces name).filterMap component? = [.name name] := by
    rw [pieces_of_clean clean, List.filterMap_cons, reads, List.filterMap_nil]
  by_cases root : directory = [separator]
  · rw [if_pos root, root]
    have under : pieces (separator :: name) = [] :: pieces name := pieces_join [] name
    rw [parse_eq, List.singleton_append, under, List.filterMap_cons, alone]
    rfl
  · rw [if_neg root, parse_join some, alone]

theorem parse_proper (text : List Char) : Proper (parse text) :=
  .after (lead_mem text) (filterMap_inner (pieces_clean text))

theorem Proper.concat (proper : Proper path) (inner : component.Inner) :
    Proper (path ++ [component]) := by
  cases proper with
  | after begins all =>
    rw [List.append_assoc]
    apply Proper.after begins
    intro other member
    rcases List.mem_append.mp member with earlier | last
    · exact all other earlier
    · rw [List.mem_singleton.mp last]
      exact inner

theorem lead_of_pieces {first : List Char} {others : List (List Char)}
    (parted : pieces text = first :: others) :
    lead text = if first = [] ∧ others ≠ [] then [.root]
      else if first = ['.'] then [.here] else [] := by
  have rooted : text.head? = some separator ↔ first = [] ∧ others ≠ [] := by
    cases text with
    | nil =>
      cases parted
      simp
    | cons c rest =>
      rw [pieces] at parted
      by_cases same : c = separator
      · rw [if_pos same] at parted
        cases parted
        simp [same, pieces_ne_nil]
      · rw [if_neg same] at parted
        cases further : pieces rest with
        | nil => exact absurd further (pieces_ne_nil rest)
        | cons piece more =>
          rw [further] at parted
          cases parted
          simp [same]
  rw [lead, parted, List.head?_cons]
  simp only [rooted, Option.some.injEq]

theorem parse_intercalate {first : List Char} {others : List (List Char)}
    (clean : ∀ part ∈ first :: others, separator ∉ part) :
    parse ([separator].intercalate (first :: others)) =
      (if first = [] ∧ others ≠ [] then [.root] else if first = ['.'] then [.here] else []) ++
        (first :: others).filterMap component? := by
  have parted := pieces_intercalate clean (List.cons_ne_nil first others)
  rw [parse_eq, lead_of_pieces parted, parted]

/-- A path is read from the text that writes it: first the root or the dot, then a piece for each
component. -/
theorem parse_render (proper : Proper path) : parse (render path) = path := by
  obtain @⟨first, inner, begins, all⟩ := proper
  cases inner with
  | nil =>
    rw [List.append_nil]
    revert first
    decide
  | cons component rest =>
    obtain ⟨empty, dotless⟩ := (all component List.mem_cons_self).text_ne
    have rootless := (all component List.mem_cons_self).ne_root
    have read := filterMap_componentText all
    have clean : ∀ part ∈ (component :: rest).map componentText, separator ∉ part := by
      intro part member
      obtain ⟨other, present, rfl⟩ := List.mem_map.mp member
      exact (all other present).clean
    rw [List.map_cons] at read clean
    simp only [List.mem_cons, List.not_mem_nil, or_false] at begins
    -- Nothing before the components, the root, or a dot: each decides how the first piece is read.
    rcases begins with rfl | rfl | rfl
    · rw [List.nil_append, render, if_neg (by simp [rootless]), List.map_cons,
        parse_intercalate clean, if_neg (by simp [empty]), if_neg dotless, List.nil_append, read]
    · have rooted : ∀ part ∈ [] :: componentText component :: rest.map componentText,
          separator ∉ part := List.forall_mem_cons.mpr ⟨List.not_mem_nil, clean⟩
      rw [List.singleton_append, render, if_neg (by simp), List.map_cons, List.map_cons,
        componentText, parse_intercalate rooted, if_pos (by simp), List.filterMap_cons]
      exact congrArg (Component.root :: ·) read
    · have dotted : ∀ part ∈ ['.'] :: componentText component :: rest.map componentText,
          separator ∉ part := List.forall_mem_cons.mpr ⟨by decide, clean⟩
      rw [List.singleton_append, render, if_neg (by simp), List.map_cons, List.map_cons,
        componentText, parse_intercalate dotted, if_neg (by simp), if_pos rfl, List.filterMap_cons]
      exact congrArg (Component.here :: ·) read

/-! Dividing -/

theorem passed (parts : List (List Char)) :
    Passed parts (parts.reverse.dropWhile fun part => (component? part).isNone) := by
  -- From the end of the list, where pieces are passed over.
  induction parts using List.reverseRecOn with
  | nil => exact .nothing rfl
  | append_singleton front piece ih =>
    rw [List.reverse_append, List.reverse_singleton, List.singleton_append, List.dropWhile_cons]
    cases reads : component? piece with
    | some component => exact .last reads rfl
    | none =>
      have trace : [piece].filterMap component? = [] := by simp [reads]
      rw [Option.isNone_none, if_pos rfl]
      generalize front.reverse.dropWhile _ = left at ih ⊢
      cases ih with
      | nothing bare =>
        apply Passed.nothing
        rw [List.filterMap_append, bare, trace, List.append_nil]
      | @last before after last component known bare =>
        rw [List.append_assoc, List.cons_append]
        apply Passed.last known
        rw [List.filterMap_append, bare, trace, List.append_nil]

theorem parse_halves {first second : List (List Char)} (parted : pieces text = first ++ second)
    (kept : first.filterMap component? ≠ []) (more : second ≠ []) :
    [separator].intercalate first ≠ [] ∧ parse ([separator].intercalate first) ≠ [] ∧
      parse text = parse ([separator].intercalate first) ++ second.filterMap component? := by
  have clean := pieces_clean text
  rw [parted] at clean
  have some : first ≠ [] := by
    rintro rfl
    exact kept rfl
  have above : pieces ([separator].intercalate first) = first :=
    pieces_intercalate (fun part member => clean part (List.mem_append_left _ member)) some
  have beyond : pieces ([separator].intercalate second) = second :=
    pieces_intercalate (fun part member => clean part (List.mem_append_right _ member)) more
  have joined : text =
      [separator].intercalate first ++ separator :: [separator].intercalate second := by
    apply pieces_injective
    rw [pieces_join, above, beyond, parted]
  have filled : [separator].intercalate first ≠ [] := by
    intro empty
    rw [empty] at above
    rw [← above] at kept
    exact kept rfl
  refine ⟨filled, ?_, ?_⟩
  · rw [parse_eq, above]
    exact List.append_ne_nil_of_right_ne_nil _ kept
  · conv_lhs => rw [joined]
    rw [parse_join filled, beyond]

theorem divided (text : List Char) : Divided text := by
  have skipped := passed (pieces text)
  have clean := pieces_clean text
  generalize parted : pieces text = parts at skipped clean
  generalize cut : (parts.reverse.dropWhile fun part => (component? part).isNone) = left at skipped
  cases skipped with
  | nothing bare =>
    apply Divided.bare
    · rw [parse_eq, parted, bare, List.append_nil]
    · rw [directoryText, parted, cut]
  | @last before after piece component reads bare =>
    have inner : component.Inner := inner_of_reads (clean piece (by simp)) reads
    have ends : (piece :: after).filterMap component? = [component] := by
      rw [List.filterMap_cons, reads, bare]
    -- What comes before the component is divided once more: it may be the beginning of the text
    -- alone.
    have further := passed before
    generalize again : (before.reverse.dropWhile fun part => (component? part).isNone) = named
      at further
    cases further with
    | nothing none =>
      apply Divided.alone inner
      · rw [parse_eq, parted, List.filterMap_append, none, ends, List.nil_append]
      · rw [directoryText, parted, cut]
        dsimp only
        rw [again]
    | @last front rest top holder known trace =>
      have directory : directoryText text = [separator].intercalate (front ++ [top]) := by
        rw [directoryText, parted, cut]
        dsimp only
        rw [again]
        dsimp only
        rw [List.reverse_cons, List.reverse_reverse]
      have halves : pieces text = (front ++ [top]) ++ (rest ++ piece :: after) := by
        rw [parted]
        simp
      have kept : (front ++ [top]).filterMap component? ≠ [] := by simp [known]
      obtain ⟨some, named, whole⟩ := parse_halves halves kept (by simp)
      rw [← directory] at some named whole
      rw [List.filterMap_append, trace, ends, List.nil_append] at whole
      exact .below inner whole some named

end

end Path

end ArenaThreads

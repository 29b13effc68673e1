import ArenaThreads.Log.Session
import ArenaThreads.Log.Standard
import ArenaThreads.Proofs.Log.PathText
/-!
The file that settings name. Its directory and its name are found apart from each other, each with a
default of its own, and put together they lead where the configured path leads; where that path has no
name at its end, they are the default name in its directory.
-/

namespace ArenaThreads

def Path.orHere (path : Path) : Path := if path = [] then [.here] else path

/-- Two paths that differ in dots at most. -/
def Path.Same (first second : Path) : Prop :=
  first.filter (· ≠ .here) = second.filter (· ≠ .here)

def Location.further : Location → Component → Location
  | _, .root => .outside
  | location, .here => location
  | .outside, _ => .outside
  | .inside place, .up => if place = [] then .outside else .inside place.dropLast
  | .inside place, .name text => .inside (place ++ [text])

def Path.location (path : Path) : Location := path.foldl Location.further (.inside [])

/-- A file is opened where the texts of its directory and its name lead, and is there from then on. -/
def LogBackend.Opens {φ : Type} (backend : LogBackend φ) : Prop :=
  ∀ directory name tree location opened, directory ≠ [] → (Component.name name).Inner →
    backend.openFile directory name tree = some (location, opened) →
    location = (Path.parse (Path.join directory name)).location ∧
      ∀ place, location = .inside place → opened.hasFile place = true

namespace LogFile

/-- The file that a path stands for, by what is at its end. -/
inductive Meant : Path → LogFile → Prop
  | named {front : Path} {name : List Char} : Meant (front ++ [.name name]) ⟨front.orHere, name⟩
  | above {front : Path} :
    Meant (front ++ [.up]) ⟨front.orHere, LogSettings.defaultFileName.toList⟩
  | bare {path : Path} (nothing : path ∈ [[], [.root], [.here]]) :
    Meant path ⟨[.here], LogSettings.defaultFileName.toList⟩

structure Configured (text : List Char) : Prop where
  meant : Meant (Path.parse text) (ofText text)
  same : ∀ name, (Path.parse text).getLast? = some (.name name) →
    (ofText text).path.Same (Path.parse text) ∧
      (ofText text).path.location = (Path.parse text).location
  directory : Path.parse (Path.directoryText text) = (ofText text).directory
  opened : Path.parse (openedText text) = (ofText text).path
  rendered : Path.parse (ofText text).path.render = (ofText text).path
  name : (ofText text).name ≠ [] ∧ Path.separator ∉ (ofText text).name
  filled : (ofText text).directory ≠ [] ∧ Path.directoryText text ≠ []

section

variable {text : List Char} {front first second path : Path} {last : Component} {file : LogFile}
  {location reached : Location} {tree entered opened : WorkingTree}

/-! The file of a path -/

theorem default_inner : (Component.name LogSettings.defaultFileName.toList).Inner := by
  constructor <;> decide

theorem ofPath_bare (nothing : path ∈ [[], [.root], [.here]]) :
    ofPath path = ⟨[.here], LogSettings.defaultFileName.toList⟩ := by
  revert path
  decide

theorem ofPath_concat (inner : last.Inner) : ofPath (front ++ [last]) =
    ⟨front.orHere, (Path.fileName? [last]).getD LogSettings.defaultFileName.toList⟩ := by
  have parent : Path.parent? (front ++ [last]) = some front := by
    rw [Path.parent?, List.getLast?_concat]
    cases last with
    | root => exact absurd rfl inner.ne_root
    | _ => simp
  have directory : ((some front).filter (· ≠ [])).getD [.here] = front.orHere := by
    rw [Path.orHere]
    by_cases empty : front = [] <;> simp [Option.filter, empty]
  rw [ofPath, parent, directory, Path.fileName?, List.getLast?_concat, Path.fileName?,
    List.getLast?_singleton]

theorem ofPath_meant (inner : last.Inner) : Meant (front ++ [last]) (ofPath (front ++ [last])) := by
  rw [ofPath_concat inner]
  cases last with
  | root => exact absurd rfl inner.ne_root
  | here => cases inner.reads
  | up => exact .above
  | name name => exact .named

theorem ofText_meant (text : List Char) : Meant (Path.parse text) (ofText text) := by
  rw [ofText]
  cases Path.divided text with
  | bare whole _ =>
    have nothing := whole ▸ Path.lead_mem text
    rw [ofPath_bare nothing]
    exact .bare nothing
  | alone inner whole _ =>
    rw [whole]
    exact ofPath_meant inner
  | below inner whole _ _ =>
    rw [whole]
    exact ofPath_meant inner

/-! Directory and name -/

theorem parse_directory (text : List Char) :
    Path.parse (Path.directoryText text) = (ofText text).directory := by
  rw [ofText]
  cases Path.divided text with
  | bare whole directory =>
    have nothing := whole ▸ Path.lead_mem text
    rw [ofPath_bare nothing, directory]
    rfl
  | alone inner whole directory =>
    rw [whole, ofPath_concat inner, directory, Path.lead, Path.orHere]
    by_cases rooted : text.head? = some Path.separator
    · simp only [if_pos rooted]
      rfl
    · simp only [if_neg rooted]
      by_cases dotted : (Path.pieces text).head? = some ['.']
      · simp only [if_pos dotted]
        rfl
      · simp only [if_neg dotted]
        rfl
  | below inner whole _ named =>
    rw [whole, ofPath_concat inner, Path.orHere, if_neg named]

theorem directoryText_ne_nil (text : List Char) : Path.directoryText text ≠ [] := by
  cases Path.divided text with
  | bare _ directory => simp [directory]
  | alone _ _ directory =>
    rw [directory]
    split <;> simp
  | below _ _ some _ => exact some

theorem ofPath_name_inner (inner : last.Inner) :
    (Component.name (ofPath (front ++ [last])).name).Inner := by
  rw [ofPath_concat inner]
  cases last with
  | name name => exact inner
  | _ => exact default_inner

theorem name_inner (text : List Char) : (Component.name (ofText text).name).Inner := by
  rw [ofText]
  cases Path.divided text with
  | bare whole _ =>
    have nothing := whole ▸ Path.lead_mem text
    rw [ofPath_bare nothing]
    exact default_inner
  | alone inner whole _ =>
    rw [whole]
    exact ofPath_name_inner inner
  | below inner whole _ _ =>
    rw [whole]
    exact ofPath_name_inner inner

theorem parse_opened (text : List Char) : Path.parse (openedText text) = (ofText text).path := by
  rw [path, ← parse_directory]
  exact Path.parse_named (directoryText_ne_nil text) (name_inner text)

theorem path_proper (text : List Char) : (ofText text).path.Proper := by
  rw [path, ← parse_directory]
  exact (Path.parse_proper _).concat (name_inner text)

/-! Where the file is -/

theorem location_dotless (path : Path) (location : Location) :
    (path.filter (· ≠ .here)).foldl Location.further location =
      path.foldl Location.further location := by
  induction path generalizing location with
  | nil => rfl
  | cons component rest ih =>
    by_cases dot : component = .here
    · have still : location.further component = location := by
        rw [dot]
        cases location <;> rfl
      rw [List.filter_cons_of_neg (by simp [dot]), List.foldl_cons, still]
      exact ih location
    · rw [List.filter_cons_of_pos (by simp [dot]), List.foldl_cons, List.foldl_cons]
      exact ih _

theorem location_of_same (same : first.Same second) : first.location = second.location := by
  calc
    first.location = (first.filter (· ≠ .here)).foldl Location.further (.inside []) :=
      (location_dotless first _).symm
    _ = (second.filter (· ≠ .here)).foldl Location.further (.inside []) := by rw [same]
    _ = second.location := location_dotless second _

theorem Meant.same {name : List Char} (meant : Meant path file)
    (named : path.getLast? = some (.name name)) : file.path.Same path := by
  cases meant with
  | named =>
    rw [LogFile.path, Path.Same, Path.orHere]
    split
    · next empty => simp [empty]
    · rfl
  | above =>
    rw [List.getLast?_concat] at named
    cases named
  | bare nothing =>
    simp only [List.mem_cons, List.not_mem_nil, or_false] at nothing
    rcases nothing with rfl | rfl | rfl <;> cases named

theorem enter_further {component : Component}
    (entered : WorkingTree.enter (location, tree) component = some (reached, opened)) :
    reached = location.further component := by
  cases component with
  | root | here | up => cases location <;> cases entered <;> rfl
  | name text =>
    cases location <;> rw [WorkingTree.enter] at entered
    · split at entered
      · cases entered
        rfl
      · cases entered
    · split at entered
      · cases entered
        rfl
      · cases entered

theorem walk_further (walked : path.foldlM WorkingTree.enter (location, tree) = some (reached, opened)) :
    reached = path.foldl Location.further location := by
  induction path generalizing location tree with
  | nil =>
    cases walked
    rfl
  | cons component rest ih =>
    rw [List.foldlM_cons] at walked
    obtain ⟨⟨next, between⟩, one, later⟩ := Option.bind_eq_some_iff.mp walked
    rw [List.foldl_cons, ← enter_further one]
    exact ih later

theorem path_location (file : LogFile) : file.path.location =
    (file.directory.foldl Location.further (.inside [])).further (.name file.name) := by
  rw [Path.location, LogFile.path, List.foldl_append, List.foldl_cons, List.foldl_nil]

theorem openLog_location (found : tree.openLog file = some (reached, opened)) :
    reached = file.path.location ∧
      ∀ place, reached = .inside place → opened.hasFile place = true := by
  rw [path_location]
  unfold WorkingTree.openLog at found
  split at found
  · cases found
  next directory entered walked =>
  rw [← walk_further walked]
  split at found
  · cases found
  cases directory with
  | outside =>
    cases found
    constructor
    · rfl
    · simp
  | inside above =>
    dsimp only at found
    split at found
    · cases found
    split at found
    · next present =>
      cases found
      constructor
      · rfl
      · intro place inside
        rw [← Location.inside.inj inside]
        exact present
    · cases found
      constructor
      · rfl
      · intro place inside
        rw [← Location.inside.inj inside]
        simp [WorkingTree.hasFile]

theorem Meant.directory_ne_nil (meant : Meant path file) : file.directory ≠ [] := by
  cases meant with
  | named | above =>
    rw [Path.orHere]
    split
    · simp
    · assumption
  | bare _ => simp

theorem configured (text : List Char) : Configured text where
  meant := ofText_meant text
  same name named := by
    have same := (ofText_meant text).same named
    exact ⟨same, location_of_same same⟩
  directory := parse_directory text
  opened := parse_opened text
  rendered := Path.parse_render (path_proper text)
  name := ⟨(name_inner text).text_ne.1, (name_inner text).clean⟩
  filled := ⟨(ofText_meant text).directory_ne_nil, directoryText_ne_nil text⟩

end

end LogFile

theorem LogBackend.standard_opens : LogBackend.standard.Opens := by
  intro directory name tree location opened filled inner found
  change tree.openFile directory name = some (location, opened) at found
  rw [Path.join, Path.parse_named filled inner]
  rw [WorkingTree.openFile] at found
  split at found
  · exact LogFile.openLog_location found
  · cases found

namespace LogSession

variable {φ : Type} {backend : LogBackend φ} {settings : LogSettings} {text : String}
  {tree opened : WorkingTree} {output : LogOutput}

theorem output_location (file : settings.file? = some text)
    (found : LogSession.output backend settings tree = some (output, opened)) :
    ∃ location, output = .file location ∧
      backend.openFile (Path.directoryText text.toList) (LogFile.ofText text.toList).name tree =
        some (location, opened) := by
  rw [LogSession.output, file] at found
  obtain ⟨⟨location, entered⟩, reached, same⟩ := Option.map_eq_some_iff.mp found
  cases same
  exact ⟨location, rfl, reached⟩

/-- With a path in the settings the log goes to the file that the path stands for, and nowhere else. -/
theorem log_file_configured (opens : backend.Opens) (settings : LogSettings) (text : String)
    (on : settings.fileOutput = true) (given : settings.path = some text) :
    LogFile.Configured text.toList ∧
      ∀ tree output opened, LogSession.output backend settings tree = some (output, opened) →
        output = .file (LogFile.ofText text.toList).path.location ∧
          ∀ place, output = .file (.inside place) → opened.hasFile place = true := by
  have file : settings.file? = some text := by rw [LogSettings.file?, if_pos on, given]
  refine ⟨LogFile.configured text.toList, ?_⟩
  intro tree output opened found
  obtain ⟨location, rfl, reached⟩ := output_location file found
  obtain ⟨led, present⟩ := opens _ _ _ _ _ (LogFile.directoryText_ne_nil text.toList)
    (LogFile.name_inner text.toList) reached
  have joined := LogFile.parse_opened text.toList
  rw [LogFile.openedText] at joined
  refine ⟨by rw [led, joined], ?_⟩
  intro place inside
  exact present place (LogOutput.file.inj inside)

theorem log_file_configured_today :
    let settings : LogSettings := { fileOutput := true, path := some "logs//./today.txt/." }
    LogBackend.standard.Opens ∧ (LogSession.output .standard settings {}).isSome = true ∧
      LogFile.Configured "logs//./today.txt/.".toList ∧
      ∀ tree output opened,
        LogSession.output .standard settings tree = some (output, opened) →
        output = .file (.inside ["logs".toList, "today.txt".toList]) ∧
          opened.hasFile ["logs".toList, "today.txt".toList] = true := by
  intro settings
  have led : (LogFile.ofText "logs//./today.txt/.".toList).path.location =
      .inside ["logs".toList, "today.txt".toList] := by decide
  obtain ⟨file, opens⟩ := log_file_configured LogBackend.standard_opens settings
    "logs//./today.txt/." rfl rfl
  refine ⟨LogBackend.standard_opens, by decide, file, ?_⟩
  intro tree output opened found
  obtain ⟨inside, present⟩ := opens tree output opened found
  rw [led] at inside
  exact ⟨inside, present _ inside⟩

end LogSession

end ArenaThreads

import Manuscript.Proofs.Files.Walk

/-!
Files that grow: folders are made where nothing stood, and files are written, each at a location
that was chosen for it beforehand. What a path leads to stays the same while files grow elsewhere.
-/

namespace Manuscript

/-- Neither location lies at or below the other. -/
def Location.Unrelated (a b : Location) : Prop := ¬ a <+: b ∧ ¬ b <+: a

instance (a b : Location) : Decidable (a.Unrelated b) :=
  inferInstanceAs (Decidable (¬ a <+: b ∧ ¬ b <+: a))

/-- What is to be put where. -/
abbrev Plan := Location → Option Entry

/-- The entry that counts is found at its location after each entry of this was replaced. -/
theorem lookup_replace (entries : List (Location × Entry)) (location other : Location)
    (entry : Entry) :
    (entries.map fun held => if held.1 = location then (location, entry) else held).lookup other =
      if other = location then (entries.lookup location).map fun _ => entry
      else entries.lookup other := by
  -- At each entry its key is compared with the location and with the one that is looked up.
  induction entries with
  | nil => simp
  | cons held rest ih =>
    obtain ⟨key, value⟩ := held
    rw [List.map_cons]
    by_cases here : key = location
    · subst here
      by_cases same : other = key
      · subst same
        simp
      · have skip : (other == key) = false := by simpa using same
        simp [List.lookup_cons, same, skip, ih]
    · by_cases same : other = location
      · subst same
        have skip : (other == key) = false := by simpa using Ne.symm here
        simp [List.lookup_cons, here, skip, ih]
      · by_cases own : other = key
        · subst own
          simp [here]
        · have skip : (other == key) = false := by simpa using own
          simp [List.lookup_cons, here, same, skip, ih]

namespace Files

/-- Whatever there is lies in a folder, and paths that are not absolute start in a folder. -/
structure IsTree (files : Files) : Prop where
  /-- The current folder is there. -/
  current : files.entry? files.current = some .folder
  /-- What lies somewhere lies in a folder. -/
  parent : ∀ {location : Location} {entry : Entry}, files.entry? location = some entry →
    files.entry? location.dropLast = some .folder

variable {files later : Files} {plan : Plan} {targets : Location → Prop}

/-- What stands at a location other than the root. -/
theorem entry?_of_ne {location : Location} (inner : location ≠ []) :
    files.entry? location = files.entries.lookup location := if_neg inner

/-- Files are a tree when each of their entries lies in a folder. -/
theorem IsTree.of_entries (current : files.entry? files.current = some .folder)
    (parents : ∀ held ∈ files.entries, files.entry? held.1.dropLast = some .folder) :
    files.IsTree := by
  refine ⟨current, fun {location entry} stands => ?_⟩
  -- The root needs no folder around it; every other location is held by an entry.
  by_cases root : location = []
  · subst root
    rfl
  · rw [entry?_of_ne root] at stands
    obtain ⟨before, after, entries, -⟩ := List.lookup_eq_some_iff.mp stands
    exact parents (location, entry) (by simp [entries])

/-- What was put at a location stands there, and what stands elsewhere is the same. -/
theorem entry?_put {location : Location} (inner : location ≠ []) (entry : Entry)
    (other : Location) :
    entry? (files.put location entry) other =
      if other = location then some entry else files.entry? other := by
  -- The root is a folder that no entry is about.
  by_cases root : other = []
  · subst root
    rw [if_neg (Ne.symm inner)]
    rfl
  rw [entry?_of_ne root, entry?_of_ne root, put]
  split
  -- An entry that is there already is replaced in its place.
  case isTrue held =>
    have some : files.entries.lookup location ≠ none := by
      intro none
      obtain ⟨first, member, same⟩ := List.any_eq_true.mp held
      have differs := List.lookup_eq_none_iff.mp none first member
      rw [of_decide_eq_true same, bne_self_eq_false] at differs
      cases differs
    obtain ⟨old, found⟩ := Option.ne_none_iff_exists'.mp some
    rw [lookup_replace, found, Option.map_some]
  -- A new entry stands behind all others, and none of these has its location.
  case isFalse free =>
    have none : files.entries.lookup location = none := by
      refine List.lookup_eq_none_iff.mpr fun first member => ?_
      have differs := List.any_eq_false.mp (Bool.eq_false_iff.mpr free) first member
      rw [decide_eq_true_eq] at differs
      exact bne_iff_ne.mpr (Ne.symm differs)
    rw [List.lookup_append]
    by_cases same : other = location
    · rw [if_pos same, same, none, Option.none_or, List.lookup_cons_self]
    · have skip : (other == location) = false := by simpa using same
      simp [List.lookup_cons, same, skip]

/-- A tree stays one when something is put in a folder, where no folder stands. -/
theorem IsTree.put (tree : files.IsTree) {location : Location} (inner : location ≠ [])
    (entry : Entry) (around : files.entry? location.dropLast = some .folder)
    (free : files.entry? location ≠ some .folder) : (files.put location entry).IsTree := by
  refine ⟨?_, ?_⟩
  · -- The folder of the process is a folder still, for what was put stands at a place without one.
    show entry? (files.put location entry) files.current = _
    rw [entry?_put inner, if_neg, tree.current]
    exact fun same => free (same ▸ tree.current)
  · intro other held stands
    -- Nothing lies in the location, for no folder stood there.
    have outside : other.dropLast ≠ location := by
      intro inside
      rw [entry?_put inner] at stands
      split at stands
      case isTrue same =>
        subst same
        have shorter := congrArg List.length inside
        have some := List.length_pos_iff.mpr inner
        rw [List.length_dropLast] at shorter
        omega
      case isFalse => exact free (inside ▸ tree.parent stands)
    rw [entry?_put inner, if_neg outside]
    rw [entry?_put inner] at stands
    split at stands
    case isTrue same =>
      subst same
      exact around
    case isFalse => exact tree.parent stands

/-- What is planned on some files: folders where nothing stands, and files at targets. -/
structure IsPlan (files : Files) (targets : Location → Prop) (plan : Plan) : Prop where
  /-- Whatever is planned is a target or leads to one. -/
  within : ∀ {location entry}, plan location = some entry →
    ∃ target, targets target ∧ location <+: target
  /-- Folders are planned where nothing stands. -/
  folder : ∀ {location}, plan location = some .folder → files.entry? location = none
  /-- Files are planned at targets that are no folders. -/
  file : ∀ {location content}, plan location = some (.file content) →
    targets location ∧ files.entry? location ≠ some .folder

/-- Files that have become others by parts of a plan being carried out. -/
structure Grows (plan : Plan) (files later : Files) : Prop where
  /-- Paths start where they did. -/
  current : later.current = files.current
  /-- A tree stays one. -/
  tree : files.IsTree → later.IsTree
  /-- What stands somewhere stood there before or is planned. -/
  entry : ∀ location, later.entry? location = files.entry? location ∨
    ∃ entry, plan location = some entry ∧ later.entry? location = some entry

namespace Grows

/-- Files have grown when nothing was done. -/
theorem refl (files : Files) : Grows plan files files := ⟨rfl, id, fun _ => .inl rfl⟩

/-- Files may grow further. -/
theorem trans {first between last : Files} (earlier : Grows plan first between)
    (further : Grows plan between last) : Grows plan first last := by
  refine ⟨further.current.trans earlier.current, further.tree ∘ earlier.tree, fun location => ?_⟩
  -- The later growth decides where it put something, and the earlier one everywhere else.
  rcases further.entry location with same | planned
  · rw [same]
    exact earlier.entry location
  · exact .inr planned

/-- Paths start where they did. -/
theorem start (grown : Grows plan files later) (path : Path) :
    later.start path = files.start path := by
  simp only [Files.start, grown.current]

/-- A path leads by its steps where it did. -/
theorem place (grown : Grows plan files later) (path : Path) :
    later.place path = files.place path := by
  simp only [Files.place, grown.start]

/-- A folder is still there. -/
theorem folder (grown : Grows plan files later) (planned : files.IsPlan targets plan)
    {location : Location} (stood : files.entry? location = some .folder) :
    later.entry? location = some .folder := by
  rcases grown.entry location with same | ⟨entry, chosen, stands⟩
  · rw [same, stood]
  -- A file is planned only where no folder stood.
  · cases entry with
    | folder => exact stands
    | file content => exact absurd stood (planned.file chosen).2

/-- A file is still there, whatever it holds. -/
theorem file (grown : Grows plan files later) (planned : files.IsPlan targets plan)
    {location : Location} {content : Bytes} (stood : files.entry? location = some (.file content)) :
    ∃ content, later.entry? location = some (.file content) := by
  -- The plan puts folders only where nothing stood.
  rcases grown.entry location with same | ⟨entry, chosen, stands⟩
  · exact ⟨content, same.trans stood⟩
  · cases entry with
    | folder =>
      rw [planned.folder chosen] at stood
      cases stood
    | file content => exact ⟨content, stands⟩

/-- Where nothing stands nothing stood. -/
theorem empty (grown : Grows plan files later) (planned : files.IsPlan targets plan)
    {location : Location} (stands : later.entry? location = none) :
    files.entry? location = none := by
  -- Nothing that stood there is gone: a file would still be a file, and a folder a folder.
  cases stood : files.entry? location with
  | none => rfl
  | some entry =>
    cases entry with
    | file content =>
      obtain ⟨held, stays⟩ := grown.file planned stood
      rw [stands] at stays
      cases stays
    | folder =>
      rw [grown.folder planned stood] at stands
      cases stands

/-- A file that is not planned stood there before. -/
theorem file_stood (grown : Grows plan files later) (planned : files.IsPlan targets plan)
    {location : Location} {content : Bytes} (stands : later.entry? location = some (.file content))
    (chosen : files.entry? location = none → plan location = some .folder) :
    ∃ content, files.entry? location = some (.file content) := by
  rcases grown.entry location with same | ⟨entry, again, held⟩
  · exact ⟨content, same.symm.trans stands⟩
  -- What stands there now was planned, and by the plan it would be a folder.
  cases stood : files.entry? location with
  | none =>
    rw [chosen stood] at again
    rw [stands, ← again] at held
    cases held
  | some entry =>
    cases entry with
    | file content => exact ⟨content, rfl⟩
    -- A folder would be one now.
    | folder =>
      rw [grown.folder planned stood] at stands
      cases stands

/-- What was carried out of the plan stays so. -/
theorem planned (grown : Grows plan files later) {location : Location} {entry : Entry}
    (chosen : plan location = some entry) (stood : files.entry? location = some entry) :
    later.entry? location = some entry := by
  -- It is as it was, or it was put as the plan says.
  rcases grown.entry location with same | ⟨other, again, stands⟩
  · rw [same, stood]
  · rw [stands, ← again, chosen]

/-- A part of the plan is carried out in a folder, where no folder stands. -/
theorem put (tree : files.IsTree) {location : Location} {entry : Entry} (inner : location ≠ [])
    (chosen : plan location = some entry)
    (around : files.entry? location.dropLast = some .folder)
    (free : files.entry? location ≠ some .folder) :
    Grows plan files (files.put location entry) := by
  -- Only one location changes, and the plan says how.
  refine ⟨rfl, fun _ => tree.put inner entry around free, fun other => ?_⟩
  rw [entry?_put inner]
  split
  case isTrue same =>
    subst same
    exact .inr ⟨entry, chosen, rfl⟩
  case isFalse => exact .inl rfl

end Grows

/-- Steps that are left of a path behind a location where nothing stands. -/
def Stalls (files : Files) (path : Path) (location : Location) (rest : List Name) : Prop :=
  ∃ before, path.steps = before ++ rest ∧
    files.follow (files.start path).1 before = .ok location ∧ files.entry? location = none

/--
A path that files growing towards some targets do not concern: it leads neither to a target nor to
anything above or below one, and where it comes to a folder that is still to be made, no step of it
leads back nor to a name that is too long.
-/
structure Spares (files : Files) (targets : Location → Prop) (path : Path) : Prop where
  /-- The path leads elsewhere. -/
  apart : ∀ target, targets target → target.Unrelated (files.place path)
  /-- Behind a folder that is to be made it leads on. -/
  onward : ∀ location rest, files.Stalls path location rest →
    (∃ target, targets target ∧ location <+: target) →
    ∀ name ∈ rest, name ≠ ['.', '.'] ∧ isOverlong name = false

/-- A path to elsewhere, of names that are not too long and do not lead back, is not concerned. -/
theorem Spares.of_steps {path : Path}
    (apart : ∀ target, targets target → target.Unrelated (files.place path))
    (plain : ∀ name ∈ path.steps, name ≠ ['.', '.'] ∧ isOverlong name = false) :
    files.Spares targets path where
  apart := apart
  onward := by
    -- What holds of all steps holds of those behind any location.
    rintro location rest ⟨before, steps, -⟩ - name member
    exact plain name (by simp [steps, member])

/-- Steps that do not lead back lead on. -/
theorem prefix_steps {location : Location} {names : List Name}
    (onward : ∀ name ∈ names, name ≠ ['.', '.']) :
    location <+: names.foldl Location.step location := by
  induction names generalizing location with
  | nil => exact List.prefix_refl _
  | cons name rest ih =>
    -- A step that does not lead back makes the location longer.
    rw [List.foldl_cons, Location.step, if_neg (onward name List.mem_cons_self)]
    exact (List.prefix_append _ _).trans (ih fun other member =>
      onward other (List.mem_cons_of_mem _ member))

/-- Nothing lies where no folder stands. -/
theorem IsTree.child {location : Location} (tree : files.IsTree)
    (empty : files.entry? location = none) (name : Name) :
    files.entry? (location ++ [name]) = none := by
  cases found : files.entry? (location ++ [name]) with
  | none => rfl
  | some entry =>
    -- An entry below would need a folder here.
    have stands := tree.parent found
    rw [List.dropLast_concat, empty] at stands
    cases stands

/-- What does not lead to a target stays as it was. -/
theorem Grows.entry?_of_apart (grown : Grows plan files later) (planned : files.IsPlan targets plan)
    {location : Location} (apart : ∀ target, targets target → ¬ location <+: target) :
    later.entry? location = files.entry? location := by
  rcases grown.entry location with same | ⟨entry, chosen, -⟩
  · exact same
  · obtain ⟨target, chosen, towards⟩ := planned.within chosen
    -- The plan puts entries only on the way to a target.
    exact absurd towards (apart target chosen)

/-- Nothing is found behind a location at which nothing stood, away from all targets. -/
theorem Grows.walk_behind (grown : Grows plan files later) (planned : files.IsPlan targets plan)
    (tree : files.IsTree) {location : Location} {names : List Name}
    (empty : files.entry? location = none)
    (onward : ∀ name ∈ names.filter isStep, name ≠ ['.', '.'] ∧ isOverlong name = false)
    (apart : ∀ target, targets target →
      target.Unrelated ((names.filter isStep).foldl Location.step location)) :
    (later.follow location names).bind later.entryAt = .error .missing := by
  have leads : location <+: (names.filter isStep).foldl Location.step location :=
    prefix_steps fun name member => (onward name member).1
  -- The walk goes on only through folders made by now, at locations where nothing stood.
  induction names generalizing location with
  | nil =>
    show later.entryAt location = _
    have same : later.entry? location = files.entry? location :=
      grown.entry?_of_apart planned fun target chosen => (apart target chosen).2
    rw [entryAt, same, empty]
  | cons name rest ih =>
    rw [follow_cons]
    rcases grown.entry location with same | ⟨entry, chosen, stands⟩
    · rw [folderAt, same, empty]
      rfl
    cases entry with
    | file content =>
      -- The path would lead below a target.
      exact absurd leads (apart location (planned.file chosen).1).1
    | folder =>
      rw [folderAt, stands]
      show ((stepFrom location name).bind _).bind _ = _
      by_cases step : isStep name = true
      · rw [List.filter_cons_of_pos step] at onward apart leads
        obtain ⟨⟨up, long⟩, further⟩ := List.forall_mem_cons.mp onward
        have next : stepFrom location name = .ok (location ++ [name]) := by
          rw [stepFrom, if_pos step, if_neg up, if_neg (Bool.eq_false_iff.mp long)]
        rw [List.foldl_cons, Location.step, if_neg up] at apart leads
        -- The next location lies in one where nothing stood.
        rw [next]
        exact ih (tree.child empty name) further apart (prefix_steps fun other member =>
          (further other member).1)
      · rw [List.filter_cons_of_neg step] at onward apart leads
        have next : stepFrom location name = .ok location := by rw [stepFrom, if_neg step]
        rw [next]
        exact ih empty onward apart leads

/-- A folder is left for where its next name leads. -/
theorem follow_of_folder {location next : Location} {name : Name} {rest : List Name}
    (folder : files.entry? location = some .folder) (leads : stepFrom location name = .ok next) :
    files.follow location (name :: rest) = files.follow next rest := by
  -- The folder is entered, and the step leads on.
  rw [follow_cons, folderAt, folder]
  show (stepFrom location name).bind _ = _
  rw [leads]
  rfl

/-- Where a name leads nowhere from a folder, no more names are followed. -/
theorem follow_of_fault {location : Location} {name : Name} {rest : List Name} {fault : FileFault}
    (folder : files.entry? location = some .folder)
    (stops : stepFrom location name = .error fault) :
    files.follow location (name :: rest) = .error fault := by
  -- The folder is entered, but the step fails.
  rw [follow_cons, folderAt, folder]
  show (stepFrom location name).bind _ = _
  rw [stops]
  rfl

/-- A walk away from all targets finds what it found before files grew towards these. -/
theorem Grows.walk_eq (grown : Grows plan files later) (planned : files.IsPlan targets plan)
    (tree : files.IsTree) {location : Location} {names : List Name}
    (apart : ∀ target, targets target →
      target.Unrelated ((names.filter isStep).foldl Location.step location))
    (onward : ∀ before stop rest, names.filter isStep = before ++ rest →
      files.follow location before = .ok stop → files.entry? stop = none →
      (∃ target, targets target ∧ stop <+: target) →
      ∀ name ∈ rest, name ≠ ['.', '.'] ∧ isOverlong name = false) :
    (later.follow location names).bind later.entryAt =
      (files.follow location names).bind files.entryAt := by
  induction names generalizing location with
  | nil =>
    show later.entryAt location = files.entryAt location
    have same : later.entry? location = files.entry? location :=
      grown.entry?_of_apart planned fun target chosen => (apart target chosen).2
    rw [entryAt, entryAt, same]
  | cons name rest ih =>
    cases stood : files.entry? location with
    -- Nothing stood here: either that is so still, or something was put on the way to a target.
    | none =>
      have before :
          (files.follow location (name :: rest)).bind files.entryAt = .error .missing := by
        rw [follow_cons, folderAt, stood]
        rfl
      rw [before]
      rcases grown.entry location with same | ⟨entry, chosen, -⟩
      · rw [follow_cons, folderAt, same, stood]
        rfl
      · exact grown.walk_behind planned tree stood
          (onward [] location _ rfl rfl stood (planned.within chosen)) apart
    | some entry =>
      cases entry with
      -- A file stays one, so that both walks end here.
      | file content =>
        obtain ⟨content, stands⟩ := grown.file planned stood
        rw [follow_cons, follow_cons, folderAt, folderAt, stood, stands]
        rfl
      -- A folder stays, so that both walks take the same step.
      | folder =>
        have stands := grown.folder planned stood
        cases leads : stepFrom location name with
        | error fault =>
          rw [follow_of_fault stands leads, follow_of_fault stood leads]
          rfl
        | ok next =>
          -- A name that is no step leaves the walk where it is.
          rw [follow_of_folder stands leads, follow_of_folder stood leads]
          by_cases step : isStep name = true
          · rw [List.filter_cons_of_pos step] at apart onward
            rw [List.foldl_cons, step_of_stepFrom step leads] at apart
            refine ih apart fun before stop rest cut followed => ?_
            exact onward (name :: before) stop rest (by rw [cut, List.cons_append])
              (by rw [follow_of_folder stood leads, followed])
          · rw [List.filter_cons_of_neg step] at apart onward
            have stays : stepFrom location name = .ok location := by rw [stepFrom, if_neg step]
            obtain rfl := Except.ok.inj (stays.symm.trans leads)
            exact ih apart onward

/-- A path finds what it found before files grew elsewhere. -/
theorem Grows.find_eq (grown : Grows plan files later) (planned : files.IsPlan targets plan)
    (tree : files.IsTree) {path : Path} (spared : files.Spares targets path) :
    later.find path = files.find path := by
  show (later.locate path).bind later.entryAt = (files.locate path).bind files.entryAt
  unfold locate
  rw [grown.start]
  -- A path with a fault finds nothing, before and after.
  cases path.fault? with
  | some fault => rfl
  | none =>
    exact grown.walk_eq planned tree spared.apart fun before stop rest cut followed empty =>
      spared.onward stop rest ⟨before, cut, followed, empty⟩

end Files

end Manuscript

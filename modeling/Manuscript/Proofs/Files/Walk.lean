import Manuscript.Proofs.Path.Steps

/-!
Walks through files. A walk takes one step after another from a folder to the next, so that a path
leads where its steps lead, and idle names do not matter.
-/

namespace Manuscript

/-- What follows a result is reached through it. -/
theorem bind_eq_ok_iff {ε α β : Type} {first : Except ε α} {next : α → Except ε β} {result : β} :
    first.bind next = .ok result ↔ ∃ held, first = .ok held ∧ next held = .ok result := by
  cases first with
  -- After an error nothing is done.
  | error error => exact ⟨nofun, nofun⟩
  | ok held =>
    refine ⟨fun found => ⟨held, rfl, found⟩, ?_⟩
    rintro ⟨_, same, found⟩
    cases same
    exact found

/-- What follows what follows a result may be put together first. -/
theorem bind_bind {ε α β γ : Type} (first : Except ε α) (next : α → Except ε β)
    (last : β → Except ε γ) :
    (first.bind next).bind last = first.bind fun result => (next result).bind last := by
  cases first <;> rfl

/-- An error that comes neither from a result nor from what follows it is not given. -/
theorem bind_ne_error {ε α β : Type} {first : Except ε α} {next : α → Except ε β} {error : ε}
    (front : first ≠ .error error) (behind : ∀ held, next held ≠ .error error) :
    first.bind next ≠ .error error := by
  -- The error is that of the first or that of what follows.
  cases first with
  | error other => exact fun same => front (congrArg Except.error (Except.error.inj same))
  | ok held => exact behind held

/-- Where a step leads by its name alone. -/
def Location.step (location : Location) (name : Name) : Location :=
  if name = ['.', '.'] then location.dropLast else location ++ [name]

namespace Files

variable (files : Files)

/-- Where a path leads by its steps alone, whatever stands on the way. -/
def place (path : Path) : Location := path.steps.foldl Location.step (files.start path).1

/-- A location, if a folder stands there. -/
def folderAt (location : Location) : Except FileFault Location :=
  match files.entry? location with
  | some .folder => .ok location
  | some (.file _) => .error .notFolder
  | none => .error .missing

/-- What stands at a location, if anything does. -/
def entryAt (location : Location) : Except FileFault Entry :=
  match files.entry? location with
  | some entry => .ok entry
  | none => .error .missing

/-- Where a name leads from a folder; names that are too long lead nowhere. -/
def stepFrom (location : Location) (name : Name) : Except FileFault Location :=
  if isStep name then
    if name = ['.', '.'] then .ok location.dropLast
    else if isOverlong name then .error .tooLong
    else .ok (location ++ [name])
  else .ok location

/-- Follows names to a folder. -/
def enter (location : Location) (names : List Name) : Except FileFault Location :=
  (files.follow location names).bind files.folderAt

variable {files}

/-- A step that is not too long leads where its name alone does. -/
theorem step_of_stepFrom {location next : Location} {name : Name} (step : isStep name = true)
    (leads : stepFrom location name = .ok next) : location.step name = next := by
  -- A step up and a step to a name lead alike in both, but for the length of the name.
  unfold stepFrom at leads
  rw [if_pos step] at leads
  unfold Location.step
  split at leads
  case isTrue up => rw [if_pos up, Except.ok.inj leads]
  case isFalse up =>
    split at leads
    · cases leads
    · rw [if_neg up, Except.ok.inj leads]

/-- A folder is found where it stands. -/
theorem folderAt_eq_ok_iff {location found : Location} :
    files.folderAt location = .ok found ↔
      location = found ∧ files.entry? location = some .folder := by
  unfold folderAt
  split <;> simp_all

/-- Each name is followed from a folder. -/
theorem follow_cons (location : Location) (name : Name) (rest : List Name) :
    files.follow location (name :: rest) =
      (files.folderAt location).bind fun location =>
        (stepFrom location name).bind fun next => files.follow next rest := by
  unfold folderAt
  rw [follow]
  cases files.entry? location with
  | none => rfl
  | some entry =>
    cases entry with
    -- Only through a folder the walk goes on.
    | file content => rfl
    | folder =>
      show (if name = [] ∨ name = ['.'] then _ else _) = (stepFrom location name).bind _
      unfold stepFrom
      -- An idle name leads to the folder itself, and any other one is a step.
      by_cases idle : name = [] ∨ name = ['.']
      · have still : ¬ isStep name = true := by
          rcases idle with rfl | rfl <;> decide
        rw [if_pos idle, if_neg still]
        rfl
      · have step : isStep name = true := by simpa [isStep, not_or] using idle
        rw [if_neg idle, if_pos step]
        split
        · rfl
        · split <;> rfl

/-- Names are followed one after another. -/
theorem follow_append (location : Location) (first last : List Name) :
    files.follow location (first ++ last) =
      (files.follow location first).bind fun between => files.follow between last := by
  -- The induction is on the names that come first, from wherever the walk has got to.
  induction first generalizing location with
  | nil => rfl
  | cons name rest ih => simp only [List.cons_append, follow_cons, bind_bind, ih]

/-- Without names a walk stays. -/
theorem enter_nil (location : Location) : files.enter location [] = files.folderAt location := rfl

/-- A walk starts in a folder. -/
theorem enter_cons (location : Location) (name : Name) (rest : List Name) :
    files.enter location (name :: rest) =
      (files.folderAt location).bind fun location =>
        (stepFrom location name).bind fun next => files.enter next rest := by
  simp only [enter, follow_cons, bind_bind]

/-- Where a walk starts, a folder has to be. -/
theorem folderAt_bind_enter (location : Location) (names : List Name) :
    ((files.folderAt location).bind fun folder => files.enter folder names) =
      files.enter location names := by
  -- The folder is asked for once more at the start of the walk, with the same answer.
  cases found : files.folderAt location with
  | error fault =>
    cases names with
    | nil => exact found.symm
    | cons name rest =>
      rw [enter_cons, found]
      rfl
  | ok folder =>
    obtain ⟨rfl, -⟩ := folderAt_eq_ok_iff.mp found
    rfl

/-- A walk goes on where another one ended. -/
theorem enter_append (location : Location) (first last : List Name) :
    files.enter location (first ++ last) =
      (files.enter location first).bind fun between => files.enter between last := by
  induction first generalizing location with
  -- The second walk asks again whether its start is a folder, as the first one did at its end.
  | nil => rw [List.nil_append, enter_nil, folderAt_bind_enter]
  | cons name rest ih => simp only [List.cons_append, enter_cons, bind_bind, ih]

/-- Only steps count in a walk. -/
theorem enter_steps (location : Location) (names : List Name) :
    files.enter location (names.filter isStep) = files.enter location names := by
  induction names generalizing location with
  | nil => rfl
  | cons name rest ih =>
    rw [List.filter_cons]
    split
    · simp only [enter_cons, ih]
    case isFalse idle =>
      -- A name that is no step leads to the folder that it is followed from.
      have stays : ∀ folder, stepFrom folder name = .ok folder := fun folder => by
        rw [stepFrom, if_neg idle]
      rw [ih, enter_cons]
      simp only [stays]
      exact (folderAt_bind_enter location rest).symm

/-- What is entered is a folder. -/
theorem entry?_of_enter {location found : Location} {names : List Name}
    (entered : files.enter location names = .ok found) : files.entry? found = some .folder := by
  obtain ⟨last, -, folder⟩ := bind_eq_ok_iff.mp entered
  obtain ⟨rfl, stands⟩ := folderAt_eq_ok_iff.mp folder
  exact stands

/-- A walk that got somewhere takes one more step to a folder. -/
theorem enter_concat {location found next : Location} {names : List Name} {last : Name}
    (entered : files.enter location names = .ok found) (leads : stepFrom found last = .ok next)
    (stands : files.entry? next = some .folder) :
    files.enter location (names ++ [last]) = .ok next := by
  -- The last step is a walk by itself, from the folder that the others lead to.
  rw [enter_append, entered]
  show files.enter found [last] = _
  rw [enter_cons, folderAt, entry?_of_enter entered]
  show (stepFrom found last).bind files.folderAt = _
  rw [leads]
  show files.folderAt next = _
  rw [folderAt, stands]

/-- A walk that gets to its end gets to each name before. -/
theorem enter_of_append {location found : Location} {first last : List Name}
    (entered : files.enter location (first ++ last) = .ok found) :
    ∃ between, files.enter location first = .ok between := by
  rw [enter_append] at entered
  -- The walk came by the folder in between.
  obtain ⟨between, front, -⟩ := bind_eq_ok_iff.mp entered
  exact ⟨between, front⟩

/-- A path names an entry of the folder that the names before its last one lead to. -/
theorem target_eq {path : Path} (sound : path.fault? = none) :
    files.target path =
      (files.enter (files.start path).1 (splitLast (files.start path).2).1).map fun folder =>
        (if isEntryName (splitLast (files.start path).2).2.1 then
            some (folder ++ [(splitLast (files.start path).2).2.1])
          else none,
          (splitLast (files.start path).2).2.2) := by
  unfold target enter
  rw [sound]
  generalize files.start path = start
  obtain ⟨origin, names⟩ := start
  dsimp only
  generalize splitLast names = parts
  obtain ⟨before, last, slashed⟩ := parts
  -- Both follow the names before the last one, and then ask for a folder.
  show (files.follow origin before).bind _ = ((files.follow origin before).bind _).map _
  cases files.follow origin before with
  | error fault => rfl
  | ok folder =>
    show _ = (files.folderAt folder).map _
    unfold folderAt
    dsimp only [Except.bind]
    cases files.entry? folder with
    | none => rfl
    -- Something that is no folder ends both in the same way.
    | some entry => cases entry <;> rfl

/-- The last of some names, when it is not empty. -/
theorem splitLast_append {before : List Name} {last : Name} (some : last ≠ []) :
    splitLast (before ++ [last]) = (before, last, false) := by
  -- No name is empty at the end, so nothing is cut off there.
  have kept : ((before ++ [last]).reverse.dropWhile (· = [])).reverse = before ++ [last] := by
    rw [List.reverse_append, List.reverse_singleton, List.singleton_append,
      List.dropWhile_cons_of_neg (by simpa using some), List.reverse_cons, List.reverse_reverse]
  simp only [splitLast, kept]
  simp

/-- The names of a path that does not end in a slash are cut before the last one. -/
theorem splitLast_of_pieces {path : Path} {before : List Name} {last : Name}
    (pieces : piecesAt '/' path.chars = before ++ [last]) (some : last ≠ []) :
    splitLast (files.start path).2 = (before, last, false) := by
  show splitLast (piecesAt '/' path.chars) = _
  rw [pieces, splitLast_append some]

/-- Names before the last one are a beginning of the names. -/
theorem splitLast_prefix (names : List Name) : (splitLast names).1 <+: names := by
  refine (List.dropLast_prefix _).trans ?_
  rw [← List.reverse_suffix, List.reverse_reverse]
  exact List.dropWhile_suffix _

/-- The first name that is not dropped is one of the names. -/
theorem mem_of_dropWhile_eq_cons {p : Name → Bool} {names rest : List Name} {name : Name}
    (kept : names.dropWhile p = name :: rest) : name ∈ names :=
  (List.dropWhile_sublist p).subset (kept ▸ List.mem_cons_self)

/-- A path without a file name has no name of an entry last. -/
theorem not_isEntryName_splitLast {path : Path} (unnamed : path.fileName? = none) :
    isEntryName (splitLast (files.start path).2).2.1 = false := by
  obtain ⟨before, idle, pieces, front, still, -⟩ := path.pieces_lastCut
  -- None of the names behind the last component leads to an entry, nor does this.
  have behind : ∀ name ∈ idle.reverse ++ [path.lastCut.2], isEntryName name = false := by
    intro name member
    simp only [List.mem_append, List.mem_reverse, List.mem_singleton] at member
    obtain member | rfl := member
    · rw [isEntryName_eq, still name member, Bool.false_and]
    · exact Path.not_isEntryName_of_fileName? unnamed
  show isEntryName
    ((((piecesAt '/' path.chars).reverse.dropWhile (· = [])).reverse.getLast?).getD []) = false
  have back : (piecesAt '/' path.chars).reverse =
      (idle.reverse ++ [path.lastCut.2]) ++ before.reverse := by
    rw [pieces]
    simp
  rw [List.getLast?_reverse, back, List.dropWhile_append]
  split
  case isFalse some =>
    -- One of them is the last name that is not empty.
    cases kept : (idle.reverse ++ [path.lastCut.2]).dropWhile (· = []) with
    | nil => simp [kept] at some
    | cons name rest => exact behind name (mem_of_dropWhile_eq_cons kept)
  case isTrue none =>
    -- All of them are empty, so that nothing but idle names stands in front.
    have empty : path.lastCut.2 = [] := by
      have all := List.dropWhile_eq_nil_iff.mp (List.isEmpty_iff.mp none)
      simpa using all path.lastCut.2 (by simp)
    rw [Path.lastCut_of_empty empty] at front
    cases kept : before.reverse.dropWhile (· = []) with
    | nil => rfl
    | cons name rest =>
      have inside : name ∈ before := List.mem_reverse.mp (mem_of_dropWhile_eq_cons kept)
      have idle := List.filter_eq_nil_iff.mp (front : before.filter isStep = []) name inside
      rw [List.head?_cons, Option.getD_some, isEntryName_eq, Bool.eq_false_iff.mpr idle,
        Bool.false_and]

/-- A path without a file name names no entry, wherever it leads. -/
theorem target_of_unnamed {path : Path} {found : Location} (sound : path.fault? = none)
    (unnamed : path.fileName? = none)
    (entered : files.enter (files.start path).1 path.steps = .ok found) :
    ∃ slashed, files.target path = .ok (none, slashed) := by
  obtain ⟨rest, whole⟩ := splitLast_prefix (files.start path).2
  rw [Path.steps, enter_steps] at entered
  have entered : files.enter (files.start path).1 (files.start path).2 = .ok found := entered
  -- A walk to the end of the path passes the folder before its last name.
  rw [← whole] at entered
  obtain ⟨folder, front⟩ := enter_of_append entered
  refine ⟨(splitLast (files.start path).2).2.2, ?_⟩
  rw [target_eq sound, front, not_isEntryName_splitLast unnamed]
  rfl

/-- A folder is found at a path exactly when its steps lead from folder to folder. -/
theorem kind_eq_folder_iff {path : Path} (sound : path.fault? = none) :
    files.kind path = .ok .folder ↔
      ∃ found, files.enter (files.start path).1 path.steps = .ok found := by
  rw [Path.steps, enter_steps]
  -- Both are asked of the location that the names lead to.
  have found : files.find path =
      (files.follow (files.start path).1 (files.start path).2).bind files.entryAt := by
    show (files.locate path).bind files.entryAt = _
    unfold locate
    rw [sound]
  rw [kind, found, enter]
  show _ ↔ ∃ found,
    (files.follow (files.start path).1 (files.start path).2).bind files.folderAt = .ok found
  cases files.follow (files.start path).1 (files.start path).2 with
  | error fault => exact iff_of_false (by rintro ⟨⟩) (by rintro ⟨_, ⟨⟩⟩)
  | ok location =>
    show (files.entryAt location).map Entry.kind = _ ↔ ∃ found, files.folderAt location = .ok found
    unfold entryAt folderAt
    cases files.entry? location with
    | none => exact iff_of_false (by rintro ⟨⟩) (by rintro ⟨_, ⟨⟩⟩)
    | some entry =>
      cases entry with
      -- A file is found, but not entered.
      | file content => exact iff_of_false (by rintro ⟨⟩) (by rintro ⟨_, ⟨⟩⟩)
      | folder => exact ⟨fun _ => ⟨location, rfl⟩, fun _ => rfl⟩

/-- What a path with a fault in its spelling leads to is not found. -/
theorem kind_of_fault {path : Path} {fault : FileFault} (unsound : path.fault? = some fault) :
    files.kind path = .error fault := by
  rw [kind, find, locate, unsound]
  rfl

/-- No folder is made at a path with a fault in its spelling. -/
theorem makeFolder_of_fault {path : Path} {fault : FileFault} (unsound : path.fault? = some fault) :
    files.makeFolder path = .error fault := by
  rw [makeFolder, target, unsound]
  rfl

/-- No file is written at a path with a fault in its spelling. -/
theorem write_of_fault {path : Path} {fault : FileFault} (unsound : path.fault? = some fault)
    (content : Bytes) : files.write path content = .error fault := by
  rw [write, target, unsound]
  rfl

end Files

end Manuscript

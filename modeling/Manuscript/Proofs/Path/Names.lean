import Manuscript.Proofs.Files.Walk

/-!
Paths that end in the name of an entry, and the names that are made from theirs: with another
extension beside them, or in another directory. Names made from different stems are different.
-/

namespace Manuscript

namespace Path

/-- A path that ends in the name of an entry, with nothing idle behind it. -/
structure EndsIn (path : Path) (name : Name) : Prop where
  /-- Nothing idle stands behind the name. -/
  trim : path.IsTrim
  /-- The name is that of an entry. -/
  named : path.fileName? = some name

variable {path other : Path} {name extension : Name}

/-- A path of which the last piece is a step has nothing idle at its end, and ends there. -/
theorem lastCut_of_pieces {before : List Name} (pieces : piecesAt '/' path.chars = before ++ [name])
    (step : isStep name = true) : path.IsTrim ∧ path.lastCut.2 = name := by
  have trim : path.IsTrim := by
    -- What is idle at the end of a path stands behind its last slash.
    have last : ∀ front idle : List Char, path.chars = front ++ '/' :: idle →
        '/' ∉ idle → idle = name := by
      intro front idle spelled whole
      rw [spelled, piecesAt_append, piecesAt_of_notMem whole] at pieces
      exact (List.cons.inj (List.append_inj_right' pieces rfl)).1
    refine dropIdle_of_not (fun rest back => ?_) fun rest back => ?_
    · -- What is idle is empty or a single dot, and neither is a step.
      have spelled := congrArg List.reverse back
      rw [List.reverse_reverse, List.reverse_cons] at spelled
      rw [← last _ [] spelled List.not_mem_nil] at step
      cases step
    · have spelled := congrArg List.reverse back
      rw [List.reverse_reverse, List.reverse_cons, List.reverse_cons, List.append_assoc] at spelled
      rw [← last _ ['.'] spelled (by decide)] at step
      cases step
  -- So nothing is idle, and the last cut is at the last slash.
  obtain ⟨front, idle, again, -, -, none⟩ := path.pieces_lastCut
  rw [none trim, pieces] at again
  exact ⟨trim, (List.cons.inj (List.append_inj_right' again rfl)).1.symm⟩

/-- A last component that leads to an entry is the file name. -/
theorem fileName?_of_lastCut (last : path.lastCut.2 = name)
    (entry : Files.isEntryName name = true) : path.fileName? = some name := by
  simp only [Files.isEntryName, Bool.and_eq_true, decide_eq_true_eq, ne_eq] at entry
  simp [fileName?, last, entry]

/-- A name of an entry is a step. -/
theorem isStep_of_isEntryName (entry : Files.isEntryName name = true) : isStep name = true := by
  rw [isEntryName_eq, Bool.and_eq_true] at entry
  exact entry.1

/-- A path of which the last piece names an entry ends in it. -/
theorem endsIn_of_pieces {before : List Name} (pieces : piecesAt '/' path.chars = before ++ [name])
    (entry : Files.isEntryName name = true) : path.EndsIn name := by
  obtain ⟨trim, last⟩ := lastCut_of_pieces pieces (isStep_of_isEntryName entry)
  exact ⟨trim, fileName?_of_lastCut last entry⟩

/-- What can stand before a name: nothing, or something that ends in a slash. -/
def IsFront (front : List Char) : Prop := front = [] ∨ ∃ before, front = before ++ ['/']

/-- A path that is spelled with a step behind a slash is cut before the step. -/
theorem lastCut_of_front {front : List Char} (slash : IsFront front) (whole : '/' ∉ name)
    (step : isStep name = true) :
    IsTrim ⟨front ++ name⟩ ∧ lastCut ⟨front ++ name⟩ = (front, name) := by
  -- The last piece is the step, since the slash before it is the last one.
  have pieces : ∃ before, piecesAt '/' (front ++ name) = before ++ [name] := by
    rcases slash with rfl | ⟨before, rfl⟩
    · exact ⟨[], by rw [List.nil_append, piecesAt_of_notMem whole, List.nil_append]⟩
    · refine ⟨piecesAt '/' before, ?_⟩
      rw [List.append_assoc, List.singleton_append, piecesAt_append, piecesAt_of_notMem whole]
  obtain ⟨before, pieces⟩ := pieces
  obtain ⟨trim, last⟩ := lastCut_of_pieces pieces step
  have spelled := lastCut_append ⟨front ++ name⟩
  rw [trim, List.reverse_reverse, last] at spelled
  exact ⟨trim, Prod.ext (List.append_cancel_right spelled) last⟩

/-- A path that is spelled with a step back behind a slash has no name. -/
theorem fileName?_of_back {front : List Char} (slash : IsFront front) :
    fileName? ⟨front ++ ['.', '.']⟩ = none := by
  rw [fileName?, (lastCut_of_front slash (by decide) rfl).2]
  rfl

/-- The last step of a path leads on from where the steps before it lead. -/
theorem place_of_front {front : List Char} (slash : IsFront front) (whole : '/' ∉ name)
    (step : isStep name = true) (files : Files) :
    files.place ⟨front ++ name⟩ = (files.place ⟨front⟩).step name := by
  have start : (files.start ⟨front ++ name⟩).1 = (files.start ⟨front⟩).1 := by
    -- What stands before the name tells whether the path starts at the root.
    have absolute : isAbsolute ⟨front ++ name⟩ = isAbsolute ⟨front⟩ := by
      rcases slash with rfl | ⟨before, rfl⟩
      · cases name with
        | nil => rfl
        | cons c rest => exact decide_eq_false fun same => whole (by cases same; simp)
      · cases before <;> rfl
    simp only [Files.start, absolute]
  rw [Files.place, steps_eq, (lastCut_of_front slash whole step).2, start, List.foldl_append,
    List.filter_cons_of_pos step]
  rfl

/-- A path that is spelled with the name of an entry behind a slash ends in it. -/
theorem endsIn_of_front {front : List Char} (slash : IsFront front) (whole : '/' ∉ name)
    (entry : Files.isEntryName name = true) : EndsIn ⟨front ++ name⟩ name := by
  obtain ⟨trim, cut⟩ := lastCut_of_front slash whole (isStep_of_isEntryName entry)
  exact ⟨trim, fileName?_of_lastCut (congrArg Prod.snd cut) entry⟩

namespace EndsIn

/-- A path is what stands before its name and the name. -/
theorem chars_eq (ends : path.EndsIn name) : path.chars = path.lastCut.1 ++ name := by
  have spelled := path.lastCut_append
  rw [ends.trim, List.reverse_reverse, (lastCut_of_fileName? ends.named).1] at spelled
  exact spelled.symm

/-- The name that a path ends in leads to an entry. -/
theorem entry (ends : path.EndsIn name) : Files.isEntryName name = true :=
  (lastCut_of_fileName? ends.named).2

/-- No slash stands in the name. -/
theorem whole (ends : path.EndsIn name) : '/' ∉ name := by
  rw [← (lastCut_of_fileName? ends.named).1]
  exact path.slash_notMem_lastCut

/-- A path leads to its name in the folder that stands before it. -/
theorem place_eq (ends : path.EndsIn name) (files : Files) :
    files.place path = files.place ⟨path.lastCut.1⟩ ++ [name] := by
  have entry := ends.entry
  rw [isEntryName_eq, Bool.and_eq_true, decide_eq_true_eq] at entry
  -- Step by step: the spelling is cut, and the last piece leads into a folder unless it leads up.
  calc files.place path = files.place ⟨path.lastCut.1 ++ name⟩ :=
        congrArg files.place (congrArg Path.mk ends.chars_eq)
    _ = (files.place ⟨path.lastCut.1⟩).step name :=
        place_of_front path.lastCut_front ends.whole entry.1 files
    _ = files.place ⟨path.lastCut.1⟩ ++ [name] := if_neg entry.2

/-- A path leads to an entry of the name that it ends in. -/
theorem getLast?_place (ends : path.EndsIn name) (files : Files) :
    (files.place path).getLast? = some name := by
  rw [ends.place_eq, List.getLast?_concat]

/-- The stem of a path is that of its name. -/
theorem stem?_eq (ends : path.EndsIn name) : path.stem? = some (splitName name).1 := by
  rw [stem?, ends.named, Option.map_some]

end EndsIn

/-- The parts of a name with an extension. -/
theorem splitName_append {stem : List Char} (some : stem ≠ []) (dotless : '.' ∉ extension) :
    splitName (stem ++ '.' :: extension) = (stem, .some extension) := by
  have back : (stem ++ '.' :: extension).reverse = extension.reverse ++ '.' :: stem.reverse := by
    simp
  -- Read from the back, the extension is what stands before the first dot.
  have before : ∀ c ∈ extension.reverse, (c != '.') = true := by
    intro c member
    rw [bne_iff_ne]
    rintro rfl
    exact dotless (List.mem_reverse.mp member)
  have drop : (stem ++ '.' :: extension).reverse.dropWhile (· != '.') = '.' :: stem.reverse := by
    rw [back, List.dropWhile_append_of_pos before, List.dropWhile_cons_of_neg (by simp)]
  have take : (stem ++ '.' :: extension).reverse.takeWhile (· != '.') = extension.reverse := by
    rw [back, List.takeWhile_append_of_pos before, List.takeWhile_cons_of_neg (by simp),
      List.append_nil]
  -- What is left behind the dot is the stem, which is not empty.
  obtain ⟨c, rest, turned⟩ := List.exists_cons_of_ne_nil
    (List.reverse_ne_nil_iff.mpr some)
  simp only [splitName, drop, take, turned, List.reverse_reverse]
  rw [← turned, List.reverse_reverse]

/-- A name is its stem, with the extension behind a dot if it has one. -/
theorem splitName_cases (name : Name) :
    splitName name = (name, none) ∨
      ∃ stem extension, stem ≠ [] ∧ '.' ∉ extension ∧ name = stem ++ '.' :: extension ∧
        splitName name = (stem, some extension) := by
  -- Read backwards, the extension ends at the first dot.
  have whole := List.takeWhile_append_dropWhile (p := (· != '.')) (l := name.reverse)
  cases back : name.reverse.dropWhile (· != '.') with
  -- A name without a dot has no extension.
  | nil => exact .inl (by simp only [splitName, back])
  | cons c rest =>
    cases rest with
    | nil => exact .inl (by simp only [splitName, back])
    | cons d rest =>
      -- The dot has a name in front of it.
      have dot : c = '.' := eq_of_dropWhile_ne back
      refine .inr ⟨(d :: rest).reverse, (name.reverse.takeWhile (· != '.')).reverse,
        by simp, fun member => ?_, ?_, by simp only [splitName, back]⟩
      · have other := List.mem_takeWhile_imp (List.mem_reverse.mp member)
        simp at other
      · rw [back, dot] at whole
        have spelled := congrArg List.reverse whole
        rw [List.reverse_reverse] at spelled
        exact spelled.symm.trans (by simp)

/-- A stem and an extension are the name of an entry. -/
theorem isEntryName_append (stem : List Char) (some : extension ≠ []) (dotless : '.' ∉ extension) :
    Files.isEntryName (stem ++ '.' :: extension) = true := by
  obtain ⟨c, rest, rfl⟩ := List.exists_cons_of_ne_nil some
  -- The name is longer than those that are idle, and it is not two dots.
  have other : c ≠ '.' := fun same => dotless (same ▸ List.mem_cons_self)
  have size : 2 ≤ (stem ++ '.' :: c :: rest).length := by
    simp only [List.length_append, List.length_cons]
    omega
  have up : stem ++ '.' :: c :: rest ≠ ['.', '.'] := by
    intro same
    cases stem with
    | nil => exact other (List.cons.inj (List.cons.inj same).2).1
    | cons d stem =>
      have longer := congrArg List.length same
      simp only [List.length_append, List.length_cons, List.length_nil] at longer
      omega
  have idle : ∀ short : Name, short.length < 2 → stem ++ '.' :: c :: rest ≠ short := by
    rintro short less rfl
    omega
  -- An idle name has one character at most.
  simp only [Files.isEntryName, Bool.and_eq_true, decide_eq_true_eq, ne_eq]
  exact ⟨⟨idle [] (by simp), idle ['.'] (by simp)⟩, up⟩

/-- No slash stands in the stem of the name that a path ends in. -/
theorem EndsIn.slash_notMem_stem (ends : path.EndsIn name) : '/' ∉ (splitName name).1 := by
  intro member
  refine ends.whole ?_
  -- The stem is the name itself or its front.
  rcases splitName_cases name with same | ⟨stem, extension, -, -, spelled, same⟩
  · rwa [same] at member
  · rw [same] at member
    rw [spelled]
    exact List.mem_append_left _ member

/-- The stem of the name that a path ends in is not empty. -/
theorem EndsIn.stem_ne_nil (ends : path.EndsIn name) : (splitName name).1 ≠ [] := by
  -- A name without an extension is its own stem, and no entry has an empty name.
  rcases splitName_cases name with same | ⟨stem, extension, inner, -, -, same⟩ <;> rw [same]
  · rintro rfl
    exact absurd ends.entry (by decide)
  · exact inner

/-- A path without its extension ends in the dot before that. -/
theorem EndsIn.take_chars {stem : List Char} (ends : path.EndsIn (stem ++ '.' :: extension)) :
    path.chars.take (path.chars.length - extension.length) = path.lastCut.1 ++ (stem ++ ['.']) := by
  -- Only the extension stands behind the dot, so dropping its length ends there.
  have chars : path.chars = (path.lastCut.1 ++ (stem ++ ['.'])) ++ extension := by
    rw [ends.chars_eq]
    simp
  rw [chars, List.length_append, Nat.add_sub_cancel]
  exact List.take_left' rfl

/-- A path with another extension is its stem with it, where a name is left at all. -/
theorem EndsIn.withExtension (ends : path.EndsIn name) :
    ((splitName name).1 = ['.'] ∧ path.withExtension extension = ⟨path.lastCut.1 ++ ['.', '.']⟩) ∨
      (splitName name).1 ≠ ['.'] ∧
        path.withExtension extension =
          ⟨path.lastCut.1 ++ ((splitName name).1 ++ '.' :: extension)⟩ := by
  unfold Path.withExtension
  rw [extension?, ends.named, Option.bind_some]
  rcases splitName_cases name with split | ⟨stem, old, inner, bare, spelled, split⟩ <;> rw [split]
  · -- There is no extension to be taken off.
    refine .inr ⟨?_, ?_⟩
    · rintro rfl
      exact absurd ends.entry (by decide)
    · dsimp only
      rw [setExtension, stem?, ends.named, Option.map_some, split]
      simp only [List.append_assoc]
  -- The old extension is taken off first, and leaves the stem and its dot.
  have own : path.EndsIn (stem ++ '.' :: old) := spelled ▸ ends
  dsimp only
  rw [own.take_chars]
  have whole : '/' ∉ stem ++ ['.'] := fun member => own.whole (by
    rcases List.mem_append.mp member with before | dot
    · exact List.mem_append_left _ before
    · cases List.mem_singleton.mp dot)
  -- This is still the last piece of the path.
  have step : isStep (stem ++ ['.']) = true := by simp [isStep, inner]
  obtain ⟨trim, cut⟩ := lastCut_of_front path.lastCut_front whole step
  by_cases up : stem = ['.']
  · -- Without its extension the name is a step back.
    subst up
    have unnamed : fileName? ⟨path.lastCut.1 ++ (['.'] ++ ['.'])⟩ = none :=
      fileName?_of_back path.lastCut_front
    rw [setExtension, stem?, unnamed, Option.map_none]
    exact .inl ⟨rfl, rfl⟩
  · -- Any other stem names an entry, and has the new extension put behind it.
    have entry : Files.isEntryName (stem ++ ['.']) = true := by
      rw [isEntryName_eq, step, Bool.true_and, decide_eq_true_eq]
      intro same
      exact up (List.append_inj_left' same rfl)
    have named := fileName?_of_lastCut (congrArg Prod.snd cut) entry
    refine .inr ⟨up, ?_⟩
    rw [setExtension, stem?, named, Option.map_some, cut, splitName_append inner List.not_mem_nil]
    simp only [List.append_assoc]

/-- A path with another extension that has a name is its stem with the extension. -/
theorem EndsIn.withExtension_of_named (ends : path.EndsIn name)
    (named : (path.withExtension extension).fileName? ≠ none) :
    (splitName name).1 ≠ ['.'] ∧
      path.withExtension extension =
        ⟨path.lastCut.1 ++ ((splitName name).1 ++ '.' :: extension)⟩ := by
  -- A path that ends in a step back has no name.
  refine ends.withExtension.resolve_left fun unnamed => named ?_
  rw [unnamed.2]
  exact fileName?_of_back path.lastCut_front

/-- A path with another extension is its stem with that, when the stem is more than a dot. -/
theorem EndsIn.withExtension_stem {stem old : List Char} (ends : path.EndsIn (stem ++ '.' :: old))
    (inner : stem ≠ []) (other : stem ≠ ['.']) (dotless : '.' ∉ old) :
    path.withExtension extension = ⟨path.lastCut.1 ++ (stem ++ '.' :: extension)⟩ := by
  have split := splitName_append inner dotless
  -- Only a stem of a single dot is put together otherwise, and that is not given.
  rcases ends.withExtension with ⟨up, -⟩ | ⟨-, spelled⟩
  · rw [split] at up
    exact absurd up other
  · rw [spelled, split]

/-- A path that has an extension already is the path with it. -/
theorem EndsIn.withExtension_self {stem : List Char} (ends : path.EndsIn (stem ++ '.' :: extension))
    (inner : stem ≠ []) (other : stem ≠ ['.']) (dotless : '.' ∉ extension) :
    path.withExtension extension = path := by
  rw [ends.withExtension_stem inner other dotless, ← ends.chars_eq]

section Made

variable {stem : List Char} (some : extension ≠ []) (dotless : '.' ∉ extension)
  (whole : '/' ∉ extension)

include some dotless whole

/-- A file of a directory that is named with an extension ends in its name. -/
theorem endsIn_join (dir : Path) (own : '/' ∉ stem) :
    (dir.join ⟨stem ++ '.' :: extension⟩).EndsIn (stem ++ '.' :: extension) := by
  have entry := isEntryName_append stem some dotless
  have name : '/' ∉ stem ++ '.' :: extension := by simp [own, whole]
  -- A slash stands between the directory and the name, unless no directory is given.
  unfold join
  split
  case isTrue => exact endsIn_of_front (.inl rfl) name entry
  case isFalse =>
    split
    case isTrue slash =>
      -- The directory ends in a slash, so that none is added.
      obtain ⟨front, spelled⟩ := List.getLast?_eq_some_iff.mp slash
      exact endsIn_of_front (.inr ⟨front, spelled⟩) name entry
    case isFalse =>
      have spelled : dir.chars ++ '/' :: (stem ++ '.' :: extension) =
          (dir.chars ++ ['/']) ++ (stem ++ '.' :: extension) := by simp
      rw [spelled]
      exact endsIn_of_front (.inr ⟨dir.chars, rfl⟩) name entry

/-- A file of a directory that is named like another path ends in the stem of that, extended. -/
theorem EndsIn.withStemIn (ends : path.EndsIn name) (dir : Path) :
    (dir.withStemIn path extension).EndsIn ((splitName name).1 ++ '.' :: extension) := by
  rw [Path.withStemIn, ends.stem?_eq, Option.getD_some]
  exact endsIn_join some dotless whole dir ends.slash_notMem_stem

/-- A path with another extension ends in its stem with it, where a name is left at all. -/
theorem EndsIn.withExtension_endsIn (ends : path.EndsIn name)
    (named : (path.withExtension extension).fileName? ≠ none) :
    (path.withExtension extension).EndsIn ((splitName name).1 ++ '.' :: extension) ∧
      (path.withExtension extension).lastCut.1 = path.lastCut.1 := by
  obtain ⟨-, spelled⟩ := ends.withExtension_of_named named
  -- Neither the stem nor the extension has a slash, so that the new name is cut off whole.
  have separate : '/' ∉ (splitName name).1 ++ '.' :: extension := by
    simp [ends.slash_notMem_stem, whole]
  have entry := isEntryName_append (splitName name).1 some dotless
  rw [spelled]
  obtain ⟨-, cut⟩ := lastCut_of_front path.lastCut_front separate (isStep_of_isEntryName entry)
  exact ⟨endsIn_of_front path.lastCut_front separate entry, by rw [cut]⟩

/-- A path that is named like one with another extension has that extension already. -/
theorem EndsIn.withExtension_of_endsIn {last : Name} (ends : path.EndsIn name)
    (source : other.EndsIn last) (output : (other.withExtension extension).EndsIn name) :
    path.withExtension extension = path := by
  have given : (other.withExtension extension).fileName? ≠ none := by simp [output.named]
  have named := (source.withExtension_endsIn some dotless whole given).1.named
  -- The other path has the extension since its name was given it, and the two names are one.
  obtain rfl := Option.some.inj (output.named.symm.trans named)
  obtain ⟨up, -⟩ := source.withExtension_of_named given
  exact ends.withExtension_self source.stem_ne_nil up dotless

/-- Files of one directory that are named like two paths are one only if those have one stem. -/
theorem EndsIn.stem_of_withStemIn {last : Name} (ends : path.EndsIn name)
    (otherEnds : other.EndsIn last) {dir : Path}
    (same : dir.withStemIn path extension = dir.withStemIn other extension) :
    path.stem? = other.stem? := by
  have first := ends.withStemIn some dotless whole dir
  have second := otherEnds.withStemIn some dotless whole dir
  rw [same] at first
  -- The names are the same, and so are their parts before the extension.
  have names := Option.some.inj (first.named.symm.trans second.named)
  rw [ends.stem?_eq, otherEnds.stem?_eq, List.append_inj_left' names rfl]

/-- Paths with another extension are one path only if they have one stem in one folder. -/
theorem EndsIn.stem_of_withExtension {last : Name} (ends : path.EndsIn name)
    (otherEnds : other.EndsIn last) (named : (path.withExtension extension).fileName? ≠ none)
    (same : path.withExtension extension = other.withExtension extension) :
    path.stem? = other.stem? ∧ path.lastCut.1 = other.lastCut.1 := by
  obtain ⟨first, front⟩ := ends.withExtension_endsIn some dotless whole named
  rw [same] at named first front
  obtain ⟨second, again⟩ := otherEnds.withExtension_endsIn some dotless whole named
  -- Equal paths have equal names, and from these the extension is dropped as from one name.
  have names := Option.some.inj (first.named.symm.trans second.named)
  refine ⟨?_, front.symm.trans again⟩
  rw [ends.stem?_eq, otherEnds.stem?_eq, List.append_inj_left' names rfl]

/-- A path that leads where it leads with another extension has that extension already. -/
theorem EndsIn.name_of_withExtension (ends : path.EndsIn name) {files : Files}
    (same : files.place (path.withExtension extension) = files.place path) :
    name = (splitName name).1 ++ '.' :: extension := by
  rcases ends.withExtension with ⟨-, back⟩ | ⟨-, spelled⟩
  · -- The folder around the folder of the path is not the path.
    rw [back, place_of_front path.lastCut_front (by decide) rfl, ends.place_eq] at same
    have size := congrArg List.length same
    simp only [Location.step, if_pos, List.length_dropLast, List.length_append,
      List.length_singleton] at size
    omega
  · have separate : '/' ∉ (splitName name).1 ++ '.' :: extension := by
      simp [ends.slash_notMem_stem, whole]
    -- Both paths lead to the same place, which ends in their last names.
    have made := endsIn_of_front path.lastCut_front separate (isEntryName_append _ some dotless)
    rw [spelled] at same
    have last := made.getLast?_place files
    rw [same, ends.getLast?_place] at last
    exact Option.some.inj last

/-- A path that leads to the file of a directory that is named like it has the extension of that. -/
theorem EndsIn.name_of_withStemIn (ends : path.EndsIn name) {files : Files} {dir : Path}
    (same : files.place (dir.withStemIn path extension) = files.place path) :
    name = (splitName name).1 ++ '.' :: extension := by
  -- The place ends in the new name on the one side and in the old one on the other.
  have last := (ends.withStemIn some dotless whole dir).getLast?_place files
  rw [same, ends.getLast?_place] at last
  exact Option.some.inj last

end Made

end Path

end Manuscript

import Manuscript.Proofs.Path.Names

/-!
The components of a path are where it starts and the steps behind that. Paths with the same
components are one path: what is idle at the end of a path is no part of them, and the parent of a
path has all of them but the last. A path with another extension loses what was idle at its end.
-/

namespace Manuscript

namespace Path

/-- The component that a step stands for. -/
def componentOf (step : Name) : Component := if step = ['.', '.'] then .up else .name step

/-- Where a path starts: at the root, or in the current folder if it says so. -/
def origin (path : Path) : List Component :=
  if path.isAbsolute then [.root]
  else if (piecesAt '/' path.chars).head? = some ['.'] then [.here]
  else []

/-- A piece of a path that is a step stands for a component. -/
theorem stepOf?_eq (piece : Name) :
    stepOf? piece = if isStep piece then some (componentOf piece) else none := by
  -- A piece is idle, a step back, or a name.
  by_cases empty : piece = []
  · simp [stepOf?, isStep, empty]
  by_cases here : piece = ['.']
  · simp [stepOf?, isStep, here]
  by_cases up : piece = ['.', '.'] <;> simp [stepOf?, isStep, componentOf, empty, here, up]

/-- The pieces of a path stand for the components of its steps. -/
theorem filterMap_stepOf? (pieces : List Name) :
    pieces.filterMap stepOf? = (pieces.filter isStep).map componentOf := by
  induction pieces with
  | nil => rfl
  | cons piece rest ih =>
    rw [List.filterMap_cons, stepOf?_eq]
    -- What is idle is no component.
    by_cases step : isStep piece <;> simp [step, ih]

/-- The components of a path are where it starts and its steps. -/
theorem components_eq (path : Path) :
    path.components = path.origin ++ path.steps.map componentOf := by
  unfold components origin steps
  -- There is always a first piece, and only that one may name the place where the path starts.
  cases pieces : piecesAt '/' path.chars with
  | nil => exact absurd pieces (piecesAt_ne_nil _ _)
  | cons first rest =>
    simp only [List.head?_cons, Option.some.injEq, filterMap_stepOf?]
    simp only [stepOf?_eq]
    by_cases absolute : path.isAbsolute
    · -- Nothing stands before the slash at the root.
      have empty : first = [] := by
        obtain ⟨behind, spelled⟩ := slash_prefix absolute
        rw [← spelled, List.singleton_append, piecesAt, if_pos rfl] at pieces
        exact (List.cons.inj pieces).1.symm
      simp [absolute, empty, isStep]
    by_cases here : first = ['.']
    · simp [absolute, here, isStep]
    by_cases step : isStep first <;> simp [absolute, here, step]

/-- A text starts with its own first piece, whatever pieces follow its own. -/
theorem head?_piecesAt_append (mark : Char) (text : List Char) (others : List (List Char)) :
    (piecesAt mark text ++ others).head? = (piecesAt mark text).head? := by
  cases pieces : piecesAt mark text with
  | nil => exact absurd pieces (piecesAt_ne_nil mark text)
  | cons piece rest => rfl

/-- Paths that start with the same piece, at the root or not, have the same origin. -/
theorem origin_congr {path other : Path} (absolute : path.isAbsolute = other.isAbsolute)
    (first : (piecesAt '/' path.chars).head? = (piecesAt '/' other.chars).head?) :
    path.origin = other.origin := by
  simp only [origin, absolute, first]

/-- Where a path starts is told by what stands before a slash of it. -/
theorem origin_slash (front behind : List Char) :
    origin ⟨front ++ '/' :: behind⟩ = origin ⟨front ++ ['/']⟩ := by
  refine origin_congr ?_ ?_
  · cases front <;> rfl
  · simp only [piecesAt_append, head?_piecesAt_append]

/-- A slash at the end of a path is idle. -/
theorem components_append_slash {path : Path} (some : path.chars ≠ []) :
    components ⟨path.chars ++ ['/']⟩ = path.components := by
  -- The slash adds an empty piece, which is no step, and leaves the first piece alone.
  have steps : steps ⟨path.chars ++ ['/']⟩ = path.steps := by
    simp [steps, piecesAt_append, piecesAt, isStep]
  have origin : origin ⟨path.chars ++ ['/']⟩ = path.origin := by
    have longer : path.chars <+: Path.chars ⟨path.chars ++ ['/']⟩ := List.prefix_append _ _
    have start := isAbsolute_of_prefix longer some
    refine origin_congr start.symm ?_
    rw [piecesAt_append, head?_piecesAt_append]
  rw [components_eq, components_eq, origin, steps]

/-- What is idle at the end of a path is no part of its components, but for the root itself. -/
theorem components_dropIdle {back : List Char}
    (kept : dropIdle back = [] → isAbsolute ⟨back.reverse⟩ = false) :
    components ⟨(dropIdle back).reverse⟩ = components ⟨back.reverse⟩ := by
  -- The first piece stays unless nothing is kept, and then the path did not start at the root.
  have origin : origin ⟨(dropIdle back).reverse⟩ = origin ⟨back.reverse⟩ := by
    refine origin_congr ?_ ?_
    · by_cases empty : dropIdle back = []
      · rw [kept empty, empty]
        rfl
      · have front : (dropIdle back).reverse <+: Path.chars ⟨back.reverse⟩ :=
          List.reverse_prefix.mpr (dropIdle_suffix back)
        exact isAbsolute_of_prefix front (by simpa using empty)
    · obtain ⟨idle, pieces, -⟩ := pieces_dropIdle back
      rw [pieces, head?_piecesAt_append]
  rw [components_eq, components_eq, origin, steps_dropIdle]

/-- A name does not start at the root. -/
theorem isAbsolute_of_notMem {name : Name} (whole : '/' ∉ name) : isAbsolute ⟨name⟩ = false := by
  refine decide_eq_false fun slash => whole ?_
  exact List.mem_of_mem_head? slash

variable {path : Path}

/-- A path that ends in a step has its component behind those of what stands before it. -/
theorem components_lastCut (step : isStep path.lastCut.2 = true) :
    path.components = components ⟨path.lastCut.1⟩ ++ [componentOf path.lastCut.2] := by
  have some : path.lastCut.2 ≠ [] := by
    intro empty
    rw [empty] at step
    cases step
  -- The last component is not idle, so that nothing of the path but idle slashes is dropped.
  have trimmed : components ⟨path.lastCut.1 ++ path.lastCut.2⟩ = path.components := by
    rw [lastCut_append, components_dropIdle, List.reverse_reverse]
    intro none
    have whole := path.lastCut_append
    rw [none, List.reverse_nil] at whole
    exact absurd (List.append_eq_nil_iff.mp whole).2 some
  have origin : origin ⟨path.lastCut.1 ++ path.lastCut.2⟩ = origin ⟨path.lastCut.1⟩ := by
    rcases path.lastCut_front with none | ⟨front, ends⟩
    · -- What has no slash starts in the current folder without saying so, as nothing does.
      have here : path.lastCut.2 ≠ ['.'] := by
        intro dot
        rw [dot] at step
        cases step
      rw [none, List.nil_append, origin, origin, isAbsolute_of_notMem path.slash_notMem_lastCut,
        piecesAt_of_notMem path.slash_notMem_lastCut]
      simp [here, piecesAt, isAbsolute]
    · rw [ends, List.append_assoc, List.singleton_append, origin_slash]
  -- Behind all the steps of the front comes the last one.
  have steps : steps ⟨path.lastCut.1 ++ path.lastCut.2⟩ =
      steps ⟨path.lastCut.1⟩ ++ [path.lastCut.2] := by
    have whole := path.steps_eq
    rw [lastCut_append, steps_dropIdle, List.reverse_reverse]
    rw [List.filter_cons_of_pos step] at whole
    exact whole
  rw [← trimmed, components_eq, components_eq, origin, steps, List.map_append, List.append_assoc]
  rfl

/-- A path with a file name has this behind the components of what stands before it. -/
theorem components_of_named {name : Name} (named : path.fileName? = some name) :
    path.components = components ⟨path.lastCut.1⟩ ++ [.name name] := by
  obtain ⟨rfl, entry⟩ := lastCut_of_fileName? named
  -- A file name is never the step upwards, so it stands for itself as a component.
  have up : path.lastCut.2 ≠ ['.', '.'] := by
    rw [isEntryName_eq, Bool.and_eq_true, decide_eq_true_eq] at entry
    exact entry.2
  rw [components_lastCut (isStep_of_isEntryName entry), componentOf, if_neg up]

/-- The parent of a path has the components of what stands before its last one. -/
theorem components_parent? (last : path.lastCut.2 ≠ []) :
    path.parent?.map components = some (components ⟨path.lastCut.1⟩) := by
  rw [parent?_eq last, Option.map_some, Option.some.injEq]
  -- The front starts at the root if the whole does, for it is not empty then.
  have absolute : isAbsolute ⟨path.lastCut.1⟩ = path.isAbsolute := by
    by_cases empty : path.lastCut.1 = []
    · rw [empty]
      exact (Bool.eq_false_iff.mpr fun rooted => lastCut_ne_nil rooted last empty).symm
    · exact isAbsolute_of_prefix ((List.prefix_append _ _).trans path.lastCut_prefix) empty
  split
  case isTrue root =>
    -- All that stands before the last component is idle, and it starts at the root.
    have steps : steps ⟨path.lastCut.1⟩ = [] := by
      have same := steps_dropIdle path.lastCut.1.reverse
      rw [root.1, List.reverse_reverse] at same
      exact same.symm
    rw [components_eq ⟨path.lastCut.1⟩, steps, origin, absolute, if_pos root.2]
    rfl
  case isFalse kept =>
    -- What is idle at its end is no part of the parent.
    rw [components_dropIdle, List.reverse_reverse]
    intro empty
    rw [List.reverse_reverse, absolute]
    exact Bool.eq_false_iff.mpr fun rooted => kept ⟨by rw [empty, List.reverse_nil], rooted⟩

/-- What is idle behind the last component of a path: slashes, and dots behind slashes. -/
inductive Idle : List Char → Prop where
  | none : Idle []
  | slash {rest : List Char} (idle : Idle rest) : Idle ('/' :: rest)
  | dot {rest : List Char} (idle : Idle rest) : Idle ('/' :: '.' :: rest)

namespace Idle

variable {idle other : List Char}

/-- Idle characters behind idle ones are idle. -/
theorem append (first : Idle idle) (second : Idle other) : Idle (idle ++ other) := by
  induction first with
  | none => exact second
  | slash _ ih => exact .slash ih
  | dot _ ih => exact .dot ih

/-- The first of some idle characters are idle. -/
theorem take (given : Idle idle) (count : Nat) : Idle (idle.take count) := by
  induction given generalizing count with
  | none =>
    rw [List.take_nil]
    exact .none
  | slash _ ih =>
    cases count with
    | zero => exact .none
    | succ count => exact .slash (ih count)
  | dot _ ih =>
    -- The dot may be cut off from the slash before it.
    match count with
    | 0 => exact .none
    | 1 => exact .slash .none
    | count + 2 => exact .dot (ih count)

/-- Idle characters are dropped from the end. -/
theorem dropIdle_reverse_append (given : Idle idle) (back : List Char) :
    dropIdle (idle.reverse ++ back) = dropIdle back := by
  -- Each idle piece is dropped as it was put behind.
  induction given generalizing back with
  | none => rfl
  | slash _ ih => rw [List.reverse_cons, List.append_assoc, ih, List.singleton_append, dropIdle]
  | dot _ ih =>
    rw [List.reverse_cons, List.reverse_cons, List.append_assoc, List.append_assoc, ih]
    simp only [List.singleton_append, dropIdle]

end Idle

/-- A text is what is kept of it and what is idle at its end. -/
theorem exists_idle (back : List Char) :
    ∃ idle, Idle idle ∧ back.reverse = (dropIdle back).reverse ++ idle := by
  -- What is idle is taken off the end a slash or a dot at a time.
  induction back using dropIdle.induct with
  | case1 rest ih =>
    obtain ⟨idle, given, whole⟩ := ih
    refine ⟨idle ++ ['/'], given.append (.slash .none), ?_⟩
    rw [List.reverse_cons, whole, dropIdle, List.append_assoc]
  | case2 rest ih =>
    obtain ⟨idle, given, whole⟩ := ih
    refine ⟨idle ++ ['/', '.'], given.append (.dot .none), ?_⟩
    rw [List.reverse_cons, List.reverse_cons, whole, dropIdle]
    simp only [List.append_assoc, List.singleton_append]
  | case3 text slash dot => exact ⟨[], .none, by rw [dropIdle_of_not slash dot, List.append_nil]⟩

/-- A path that is spelled with a step and idle characters behind it is cut before the step. -/
theorem lastCut_of_idle {front idle : List Char} {name : Name} (slash : IsFront front)
    (whole : '/' ∉ name) (step : isStep name = true) (given : Idle idle) :
    lastCut ⟨front ++ name ++ idle⟩ = (front, name) := by
  rw [← (lastCut_of_front slash whole step).2]
  simp only [lastCut, List.reverse_append, given.dropIdle_reverse_append]

/-- A text that loses as many characters as its middle has, but at its end, keeps a beginning of the
middle and of what stands behind it. -/
theorem take_length_sub (front middle back : List Char) :
    (front ++ (middle ++ back)).take ((front ++ (middle ++ back)).length - middle.length) =
      front ++ (middle.take back.length ++ back.take (back.length - middle.length)) := by
  -- What is left behind the front is as long as the back, whatever the middle was.
  have size : (front ++ (middle ++ back)).length - middle.length =
      front.length + back.length := by
    simp only [List.length_append]
    omega
  rw [size, List.take_length_add_append, List.take_append]

/-- A path that ends in a name and an idle end without its extension has a name with that stem. -/
theorem withExtension_of_idle {stem old idle extension : List Char}
    (named : path.fileName? = some (stem ++ '.' :: old)) (inner : stem ≠ []) (some : old ≠ [])
    (dotless : '.' ∉ old) (given : Idle idle) (behind : idle ≠ [])
    (spelled : path.chars = path.lastCut.1 ++ (stem ++ '.' :: old) ++ idle) :
    path.withExtension extension = ⟨path.lastCut.1 ++ (stem ++ '.' :: extension)⟩ := by
  have separate : '/' ∉ stem ++ '.' :: old := by
    rw [← (lastCut_of_fileName? named).1]
    exact path.slash_notMem_lastCut
  simp only [List.mem_append, List.mem_cons, not_or] at separate
  -- As many characters are dropped as the extension has, but from the idle end: the beginning of
  -- the extension is left, with the beginning of what is idle behind it.
  let left := old.take idle.length
  let rest := idle.take (idle.length - old.length)
  have parts : path.chars = path.lastCut.1 ++ (stem ++ ['.']) ++ (old ++ idle) := by
    rw [spelled]
    simp only [List.append_assoc, List.cons_append, List.nil_append]
  have taken : path.chars.take (path.chars.length - old.length) =
      path.lastCut.1 ++ (stem ++ '.' :: left) ++ rest := by
    rw [parts, take_length_sub]
    simp only [left, rest, List.append_assoc, List.cons_append, List.nil_append]
  have leftSome : left ≠ [] := by
    rw [ne_eq, List.take_eq_nil_iff, not_or, List.length_eq_zero_iff]
    exact ⟨behind, some⟩
  have leftDotless : '.' ∉ left := fun member => dotless (List.mem_of_mem_take member)
  have leftSeparate : '/' ∉ stem ++ '.' :: left := by
    simp only [List.mem_append, List.mem_cons, not_or]
    exact ⟨separate.1, by decide, fun member => separate.2.2 (List.mem_of_mem_take member)⟩
  -- What is left of the extension makes a name still.
  have entry := isEntryName_append stem leftSome leftDotless
  have cut := lastCut_of_idle path.lastCut_front leftSeparate (isStep_of_isEntryName entry)
    (given.take (idle.length - old.length))
  have leftNamed := fileName?_of_lastCut (congrArg Prod.snd cut) entry
  rw [Path.withExtension, extension?, named, Option.bind_some, splitName_append inner dotless]
  dsimp only
  rw [taken, setExtension, stem?, leftNamed, Option.map_some, splitName_append inner leftDotless,
    cut]
  simp only [List.append_assoc]

/--
A path with another extension is its stem with that, unless the name is two dots and the extension
with nothing idle behind it.
-/
theorem withExtension_eq {stem old extension : List Char}
    (named : path.fileName? = some (stem ++ '.' :: old)) (inner : stem ≠ []) (some : old ≠ [])
    (dotless : '.' ∉ old) (kept : path.IsTrim → stem ≠ ['.']) :
    path.withExtension extension = ⟨path.lastCut.1 ++ (stem ++ '.' :: extension)⟩ := by
  by_cases trim : path.IsTrim
  · exact EndsIn.withExtension_stem ⟨trim, named⟩ inner (kept trim) dotless
  · obtain ⟨idle, given, whole⟩ := exists_idle path.chars.reverse
    rw [List.reverse_reverse, ← lastCut_append, (lastCut_of_fileName? named).1] at whole
    refine withExtension_of_idle named inner some dotless given ?_ whole
    -- A path with nothing idle behind its name ends in it.
    rintro rfl
    rw [List.append_nil, ← (lastCut_of_fileName? named).1, lastCut_append] at whole
    exact trim (List.reverse_inj.mp (by rw [← whole, List.reverse_reverse])).symm

end Path

end Manuscript

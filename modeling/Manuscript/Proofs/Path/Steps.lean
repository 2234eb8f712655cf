import Manuscript.Files.Basic
import Mathlib.Data.List.TakeWhile

/-!
The steps of a path: the names between its slashes that lead somewhere. The folder that a path lies
in has the same steps but the last one, and paths that end in a file name end there.
-/

namespace Manuscript

/-- What is not dropped up to a mark starts with the mark. -/
theorem eq_of_dropWhile_ne {mark c : Char} {text rest : List Char}
    (kept : text.dropWhile (· != mark) = c :: rest) : c = mark := by
  have first := List.head?_dropWhile_not (· != mark) text
  rw [kept] at first
  simpa using first

/-- The pieces on both sides of a separator. -/
theorem piecesAt_append (mark : Char) (first last : List Char) :
    piecesAt mark (first ++ mark :: last) = piecesAt mark first ++ piecesAt mark last := by
  -- The separator in the first text cuts it as before, and any other character lengthens a piece.
  induction first with
  | nil => simp [piecesAt]
  | cons c first ih =>
    simp only [List.cons_append, piecesAt, ih]
    split
    · rfl
    · cases pieces : piecesAt mark first with
      | nil => exact absurd pieces (piecesAt_ne_nil mark first)
      | cons piece more => rfl

/-- A text without a separator is one piece. -/
theorem piecesAt_of_notMem {mark : Char} {text : List Char} (whole : mark ∉ text) :
    piecesAt mark text = [text] := by
  induction text with
  | nil => rfl
  | cons c text ih =>
    simp only [List.mem_cons, not_or] at whole
    -- No character cuts the text.
    simp [piecesAt, ih whole.2, Ne.symm whole.1]

/-- A name that is a step: neither nothing nor the folder itself. -/
def isStep (name : Name) : Bool := name ≠ [] && name ≠ ['.']

/-- A name of an entry is a step that does not lead back. -/
theorem isEntryName_eq (name : Name) :
    Files.isEntryName name = (isStep name && decide (name ≠ ['.', '.'])) := rfl

namespace Path

/-- The names of a path that are steps. -/
def steps (path : Path) : List Name := (piecesAt '/' path.chars).filter isStep

/-- Nothing idle stands at the end of the path. -/
def IsTrim (path : Path) : Prop := dropIdle path.chars.reverse = path.chars.reverse

/-- A text that starts with nothing idle is kept. -/
theorem dropIdle_of_not {text : List Char} (slash : ∀ rest, text = '/' :: rest → False)
    (dot : ∀ rest, text = '.' :: '/' :: rest → False) : dropIdle text = text := by
  rw [dropIdle]
  · exact slash
  · exact dot

/-- What is left without idle slashes and dots is a part of the text. -/
theorem dropIdle_suffix (back : List Char) : dropIdle back <:+ back := by
  -- One or two characters are dropped, or none.
  induction back using dropIdle.induct with
  | case1 rest ih => exact ih.trans (List.suffix_cons _ _)
  | case2 rest ih => exact (ih.trans (List.suffix_cons _ _)).trans (List.suffix_cons _ _)
  | case3 text slash dot =>
    exact ⟨[], by rw [List.nil_append, dropIdle_of_not slash dot]⟩

/-- Nothing idle is left when it was dropped. -/
theorem dropIdle_dropIdle (back : List Char) : dropIdle (dropIdle back) = dropIdle back := by
  induction back using dropIdle.induct with
  | case1 rest ih => simpa only [dropIdle] using ih
  | case2 rest ih => simpa only [dropIdle] using ih
  | case3 text slash dot => rw [dropIdle_of_not slash dot, dropIdle_of_not slash dot]

/-- What is idle at the end of a text adds only names that are no steps. -/
theorem pieces_dropIdle (back : List Char) :
    ∃ idle, piecesAt '/' back.reverse = piecesAt '/' (dropIdle back).reverse ++ idle ∧
      ∀ name ∈ idle, isStep name = false := by
  -- A slash adds an empty name at the end, and a slash with a dot behind it the name of a dot.
  induction back using dropIdle.induct with
  | case1 rest ih =>
    obtain ⟨idle, pieces, still⟩ := ih
    refine ⟨idle ++ [[]], ?_, ?_⟩
    · rw [List.reverse_cons, piecesAt_append '/' rest.reverse [], pieces, dropIdle]
      simp [piecesAt]
    · simpa [or_imp, forall_and, isStep] using still
  | case2 rest ih =>
    obtain ⟨idle, pieces, still⟩ := ih
    refine ⟨idle ++ [['.']], ?_, ?_⟩
    · have spelled : ('.' :: '/' :: rest).reverse = rest.reverse ++ '/' :: ['.'] := by simp
      rw [spelled, piecesAt_append, pieces, dropIdle]
      simp [piecesAt]
    · simpa [or_imp, forall_and, isStep] using still
  -- Where nothing is dropped, nothing is added either.
  | case3 text slash dot =>
    refine ⟨[], by rw [dropIdle_of_not slash dot, List.append_nil], ?_⟩
    exact fun _ member => absurd member List.not_mem_nil

/-- Dropping what is idle at the end of a path keeps its steps. -/
theorem steps_dropIdle (back : List Char) :
    steps ⟨(dropIdle back).reverse⟩ = steps ⟨back.reverse⟩ := by
  obtain ⟨idle, pieces, still⟩ := pieces_dropIdle back
  -- Idle pieces are no steps, so they leave the filtered list as it is.
  have none : idle.filter isStep = [] := List.filter_eq_nil_iff.mpr fun name member => by
    simp [still name member]
  simp only [steps, pieces, List.filter_append, none, List.append_nil]

variable (path : Path)

/-- A path without what is idle at its end is what stands before its last component and this. -/
theorem lastCut_append :
    path.lastCut.1 ++ path.lastCut.2 = (dropIdle path.chars.reverse).reverse := by
  simp only [lastCut, ← List.reverse_append, List.takeWhile_append_dropWhile]

/-- The last component is a part of the path. -/
theorem lastCut_prefix : path.lastCut.1 ++ path.lastCut.2 <+: path.chars := by
  rw [lastCut_append, ← List.reverse_suffix, List.reverse_reverse]
  exact dropIdle_suffix _

/-- No slash stands in the last component. -/
theorem slash_notMem_lastCut : '/' ∉ path.lastCut.2 := by
  intro member
  simp only [lastCut, List.mem_reverse] at member
  simpa using List.mem_takeWhile_imp member

/-- What stands before the last component is nothing or ends in a slash. -/
theorem lastCut_front : path.lastCut.1 = [] ∨ ∃ front, path.lastCut.1 = front ++ ['/'] := by
  simp only [lastCut, List.reverse_eq_nil_iff]
  -- The component begins behind the last slash, if there is one in front of it.
  cases behind : (dropIdle path.chars.reverse).dropWhile (· != '/') with
  | nil => exact .inl rfl
  | cons c rest =>
    exact .inr ⟨rest.reverse, by rw [eq_of_dropWhile_ne behind, List.reverse_cons]⟩

/-- The last name of a path stands behind those before the last component and before idle ones. -/
theorem pieces_lastCut :
    ∃ before idle, piecesAt '/' path.chars = before ++ path.lastCut.2 :: idle ∧
      before.filter isStep = steps ⟨path.lastCut.1⟩ ∧ (∀ name ∈ idle, isStep name = false) ∧
      (path.IsTrim → idle = []) := by
  obtain ⟨idle, pieces, still⟩ := pieces_dropIdle path.chars.reverse
  rw [List.reverse_reverse, ← lastCut_append] at pieces
  -- A path without anything idle at its end is taken apart as it is.
  have trim : path.IsTrim → idle = [] := by
    intro trim
    rw [lastCut_append, trim, List.reverse_reverse] at pieces
    simpa using pieces
  have own := piecesAt_of_notMem path.slash_notMem_lastCut
  -- Either nothing stands before the last component, or it is behind a slash.
  obtain none | ⟨front, ends⟩ := path.lastCut_front
  · refine ⟨[], idle, ?_, ?_, still, trim⟩
    · rw [pieces, none, List.nil_append, own]
      rfl
    · rw [none]
      rfl
  · refine ⟨piecesAt '/' front, idle, ?_, ?_, still, trim⟩
    · have spelled : path.lastCut.1 ++ path.lastCut.2 = front ++ '/' :: path.lastCut.2 := by
        rw [ends, List.append_assoc]
        rfl
      rw [pieces, spelled, piecesAt_append, own, List.append_assoc]
      rfl
    · -- The slash adds a name that is empty, and so no step.
      rw [ends]
      simp [steps, piecesAt_append, piecesAt, isStep]

/-- The steps of a path are those before its last component and this one, when it is a step. -/
theorem steps_eq : path.steps = steps ⟨path.lastCut.1⟩ ++ [path.lastCut.2].filter isStep := by
  obtain ⟨before, idle, pieces, front, still, -⟩ := path.pieces_lastCut
  -- Behind the last component there are no steps.
  have none : idle.filter isStep = [] := List.filter_eq_nil_iff.mpr fun name member => by
    simp [still name member]
  rw [steps, pieces, List.filter_append, front, List.filter_cons, none, List.filter_cons]
  rfl

/-- A path is that of the folder around another path. -/
structure IsAround (folder path : Path) : Prop where
  /-- It has the steps before the last component of the other. -/
  steps : folder.steps = Path.steps ⟨path.lastCut.1⟩
  /-- It is a beginning of the other. -/
  start : folder.chars <+: path.chars
  /-- It is shorter than the other. -/
  shorter : folder.chars.length < path.chars.length
  /-- Both start at the root, or neither does. -/
  absolute : folder.chars ≠ [] → folder.isAbsolute = path.isAbsolute
  /-- Nothing idle stands at its end, unless all of it is idle. -/
  trim : folder.IsTrim ∨ folder.steps = []

variable {path}

/-- A beginning of a path that is not empty starts where the path does. -/
theorem isAbsolute_of_prefix {start : List Char} (front : start <+: path.chars)
    (some : start ≠ []) : isAbsolute ⟨start⟩ = path.isAbsolute := by
  obtain ⟨rest, spelled⟩ := front
  -- The first character decides, and both have the same.
  cases start with
  | nil => exact absurd rfl some
  | cons c start => simp [isAbsolute, ← spelled]

/-- No slash is left at the end of a path without what is idle there. -/
theorem dropIdle_ne_slash (back rest : List Char) : dropIdle back ≠ '/' :: rest := by
  intro slash
  -- Dropped once more, the slash would go too, though nothing idle is left the second time.
  have again := dropIdle_dropIdle back
  rw [slash, dropIdle] at again
  have shorter := (dropIdle_suffix rest).length_le
  rw [again, List.length_cons] at shorter
  omega

/-- A path without a last component has nothing before it either. -/
theorem lastCut_of_empty (empty : path.lastCut.2 = []) : path.lastCut.1 = [] := by
  simp only [lastCut, List.reverse_eq_nil_iff] at empty ⊢
  cases back : dropIdle path.chars.reverse with
  | nil => rfl
  | cons c rest =>
    -- The last character is not a slash, so that it belongs to the last component.
    have other : c ≠ '/' := fun same => dropIdle_ne_slash _ rest (same ▸ back)
    rw [back, List.takeWhile_cons_of_pos (by simpa using other)] at empty
    cases empty

/-- The path of the folder around a path that has a last component. -/
theorem parent?_eq (last : path.lastCut.2 ≠ []) :
    path.parent? =
      some ⟨if (dropIdle path.lastCut.1.reverse).reverse = [] ∧ path.isAbsolute then ['/']
        else (dropIdle path.lastCut.1.reverse).reverse⟩ := by
  unfold parent?
  split
  -- Only a path without a last component has no parent.
  case h_1 none => exact absurd (congrArg Prod.snd none) last
  case h_2 before _ _ cut => rw [cut]

/-- A path has a parent exactly when it has a last component. -/
theorem parent?_eq_none_iff : path.parent? = none ↔ path.lastCut.2 = [] := by
  -- The parent is what is left when the last component is taken away.
  constructor
  · intro none
    by_contra last
    rw [parent?_eq last] at none
    cases none
  · intro empty
    have cut : path.lastCut = ([], []) := Prod.ext (lastCut_of_empty empty) empty
    unfold parent?
    rw [cut]

/-- An absolute path begins with a slash. -/
theorem slash_prefix (absolute : path.isAbsolute = true) : ['/'] <+: path.chars := by
  obtain ⟨chars⟩ := path
  cases chars with
  | nil => cases absolute
  | cons c rest =>
    -- The first character of an absolute path is the slash.
    have slash : c = '/' := by simpa [isAbsolute] using absolute
    exact ⟨rest, by simp [slash]⟩

/-- The slash at the root does not belong to the last component. -/
theorem lastCut_ne_nil (absolute : path.isAbsolute = true) (last : path.lastCut.2 ≠ []) :
    path.lastCut.1 ≠ [] := by
  intro none
  obtain ⟨c, rest, component⟩ := List.exists_cons_of_ne_nil last
  obtain ⟨behind, spelled⟩ := path.lastCut_prefix
  obtain ⟨others, rooted⟩ := path.slash_prefix absolute
  -- If nothing stood in front of the component, the slash of the root would be part of it.
  rw [none, List.nil_append, component] at spelled
  have slash : c = '/' := by
    have both := spelled.trans rooted.symm
    simpa using (List.cons.inj both).1
  exact path.slash_notMem_lastCut (by simp [component, slash])

/-- The parent of a path is the path of the folder around it. -/
theorem isAround_of_parent? {parent : Path} (found : path.parent? = some parent) :
    parent.IsAround path := by
  have last : path.lastCut.2 ≠ [] := fun empty => by
    rw [parent?_eq_none_iff.mpr empty] at found
    cases found
  rw [parent?_eq last, Option.some.injEq] at found
  have whole := path.lastCut_prefix
  have size := whole.length_le
  have own := List.length_pos_iff.mpr last
  rw [List.length_append] at size
  -- What is dropped behind the folder is no step.
  have steps : Path.steps ⟨(dropIdle path.lastCut.1.reverse).reverse⟩ =
      Path.steps ⟨path.lastCut.1⟩ := by
    rw [steps_dropIdle, List.reverse_reverse]
  have start : (dropIdle path.lastCut.1.reverse).reverse <+: path.lastCut.1 := by
    rw [← List.reverse_suffix, List.reverse_reverse]
    exact dropIdle_suffix _
  split at found
  case isTrue root =>
    -- All that stands before the last component is idle, and it starts at the root.
    obtain ⟨empty, absolute⟩ := root
    have some := List.length_pos_iff.mpr (path.lastCut_ne_nil absolute last)
    refine ⟨?_, ?_, ?_, ?_, ?_⟩ <;> subst found
    · rw [← steps, empty]
      rfl
    · exact path.slash_prefix absolute
    · simp only [List.length_singleton]
      omega
    · exact fun _ => absolute.symm
    · exact .inr rfl
  case isFalse kept =>
    -- Otherwise the parent is the beginning of the path, shorter by the last component.
    have shorter := start.length_le
    refine ⟨?_, ?_, ?_, ?_, ?_⟩ <;> subst found
    · exact steps
    · exact start.trans ((List.prefix_append _ _).trans whole)
    · simp only
      omega
    · exact isAbsolute_of_prefix (start.trans ((List.prefix_append _ _).trans whole))
    · refine .inl ?_
      show dropIdle (List.reverse (List.reverse _)) = List.reverse (List.reverse _)
      rw [List.reverse_reverse, dropIdle_dropIdle]

/-- The spelling of a beginning is no longer than that of the whole. -/
theorem spellingSize_append (first last : List Char) :
    spellingSize (first ++ last) = spellingSize first + spellingSize last := by
  simp [spellingSize]

/-- A path that a sound path begins with is sound. -/
theorem fault?_of_prefix {start : Path} (sound : path.fault? = none)
    (front : start.chars <+: path.chars) (some : start.chars ≠ []) : start.fault? = none := by
  obtain ⟨rest, spelled⟩ := front
  -- A beginning holds no character that the whole does not, and is no longer.
  unfold fault? at sound ⊢
  split at sound
  · cases sound
  case isFalse ends =>
    split at sound
    · cases sound
    split at sound
    · cases sound
    case isFalse size =>
      rw [← spelled] at ends size
      have short : ¬ pathLimit < spellingSize start.chars := by
        rw [spellingSize_append] at size
        omega
      have open_ : ¬ start.chars.contains '\x00' := by
        simp only [List.contains_iff_mem, List.mem_append, not_or] at ends ⊢
        exact ends.1
      -- So no fault can be found in it.
      rw [if_neg open_, if_neg some, if_neg short]

/-- The file name of a path is its last component, and it leads to an entry. -/
theorem lastCut_of_fileName? {name : Name} (named : path.fileName? = some name) :
    path.lastCut.2 = name ∧ Files.isEntryName name = true := by
  -- Of the last components only the two that lead up or nowhere are no names.
  simp only [fileName?] at named
  split at named
  · cases named
  case isFalse other =>
    simp only [not_or] at other
    obtain rfl := Option.some.inj named
    exact ⟨rfl, by simp [Files.isEntryName, other]⟩

/-- The last component of a path without a file name leads to no entry. -/
theorem not_isEntryName_of_fileName? (unnamed : path.fileName? = none) :
    Files.isEntryName path.lastCut.2 = false := by
  simp only [fileName?] at unnamed
  split at unnamed
  case isTrue idle =>
    obtain empty | here | up := idle
    -- Empty, here and upwards are the three last components that name no file.
    · simp [Files.isEntryName, empty]
    · simp [Files.isEntryName, here]
    · simp [Files.isEntryName, up]
  · cases unnamed

/-- A path that ends in a character of a name has nothing idle at its end. -/
theorem isTrim_of_last {front : List Char} {c : Char} (slash : c ≠ '/') (dot : c ≠ '.') :
    IsTrim ⟨front ++ [c]⟩ := by
  have back : (front ++ [c]).reverse = c :: front.reverse := by simp
  show dropIdle (front ++ [c]).reverse = _
  rw [back]
  -- Neither rule for idle ends takes a character that is no slash and no dot.
  exact dropIdle_of_not (fun _ same => slash (List.cons.inj same).1) fun _ same =>
    dot (List.cons.inj same).1

/-- A trimmed path that has steps ends in one. -/
theorem isStep_lastCut (trim : path.IsTrim) (some : path.steps ≠ []) :
    isStep path.lastCut.2 = true := by
  -- A last component that is no step is a dot, or nothing at all.
  by_contra idle
  rw [steps_eq, List.filter_cons_of_neg idle, List.filter_nil, List.append_nil] at some
  have whole := path.lastCut_append
  rw [trim, List.reverse_reverse] at whole
  rcases path.lastCut_front with none | ⟨front, ends⟩
  · rw [none] at some
    exact some rfl
  by_cases empty : path.lastCut.2 = []
  · rw [lastCut_of_empty empty] at some
    exact some rfl
  -- A dot behind a slash would have been dropped.
  have dot : path.lastCut.2 = ['.'] := by
    simpa [isStep, empty] using idle
  have back : path.chars.reverse = '.' :: '/' :: front.reverse := by
    rw [← whole, ends, dot]
    simp
  have kept := trim
  unfold IsTrim at kept
  rw [back, dropIdle] at kept
  have shorter := (dropIdle_suffix front.reverse).length_le
  rw [kept, List.length_cons, List.length_cons] at shorter
  omega

/-- A path that is spelled somehow is not at fault for leading nowhere. -/
theorem fault?_ne_missing (some : path.chars ≠ []) : path.fault? ≠ .some .missing := by
  unfold fault?
  -- Only the empty path counts as missing.
  rw [if_neg some]
  split
  · nofun
  · split <;> nofun

/-- A path without steps has no file name. -/
theorem fileName?_of_steps_nil (idle : path.steps = []) : path.fileName? = none := by
  -- A name is a step, and so there would be one.
  cases named : path.fileName? with
  | none => rfl
  | some name =>
    obtain ⟨rfl, entry⟩ := lastCut_of_fileName? named
    rw [isEntryName_eq, Bool.and_eq_true] at entry
    rw [steps_eq, List.filter_cons_of_pos entry.1] at idle
    simp at idle

end Path

end Manuscript

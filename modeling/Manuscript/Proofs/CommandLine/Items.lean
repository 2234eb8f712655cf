import Manuscript.CommandLine.Extras
import Manuscript.Proofs.Template.Overlay

/-!
How arguments are read: as arguments by themselves, and as flags with the templates behind them.
There is at most one such reading. It tells whether arguments can be taken apart, and into what.
-/

namespace Manuscript.CommandLine

/-- A step in the reading of arguments. -/
inductive Item where
  /-- An argument by itself, which starts as no flag does. -/
  | single (argument : String)
    (plain : ∀ start ∈ extraStarts, ¬ start.toList <+: argument.toList)
  /-- A flag, which is a start with a key behind it, and a template that may look like anything. -/
  | pair (start : String) (known : start ∈ extraStarts) (key template : String)

namespace Item

/-- The arguments that an item is read from. -/
def arguments : Item → List String
  | single argument _ => [argument]
  | pair start _ key template => [start ++ key, template]

/-- The argument that stands by itself. -/
def single? : Item → Option String
  | single argument _ => some argument
  | pair .. => none

/-- The key and the template that are given. -/
def given? : Item → Option (String × String)
  | single .. => none
  | pair _ _ key template => some (key, template)

/-- What has been taken apart, with one more item. -/
def addTo (found : Extras) : Item → Extras
  | single argument _ => found.keep argument
  | pair _ _ key template => found.give key template

end Item

/-- The arguments that items are read from. -/
def argumentsOf (items : List Item) : List String := items.flatMap Item.arguments

/-- The arguments among items that stand by themselves. -/
def singlesOf (items : List Item) : List String := items.filterMap Item.single?

/-- The keys and the templates that items give. -/
def givenBy (items : List Item) : List (String × String) := items.filterMap Item.given?

/-- The template that is given last for a key. -/
def lastGiven? (given : List (String × String)) (key : String) : Option String :=
  given.reverse.lookup key

/-- What is found behind a start is all that follows it. -/
theorem afterStart?_eq_some_iff {start text behind : List Char} :
    afterStart? start text = some behind ↔ text = start ++ behind :=
  List.isPrefixOf?_eq_some_iff_append_eq.trans eq_comm

/-- An argument has a key when it is a start with the key behind it. -/
theorem extraKey?_eq_some_iff {argument key : String} :
    extraKey? argument = some key ↔ ∃ start ∈ extraStarts, argument = start ++ key := by
  unfold extraKey?
  constructor
  · intro found
    obtain ⟨behind, taken, rfl⟩ := Option.map_eq_some_iff.mp found
    -- The key is what stands behind one of the two flags.
    obtain ⟨start, known, starts⟩ := List.exists_of_findSome?_eq_some taken
    refine ⟨start, known, String.toList_inj.mp ?_⟩
    rw [afterStart?_eq_some_iff.mp starts]
    simp
  · rintro ⟨start, known, rfl⟩
    have behind : afterStart? start.toList (start ++ key).toList = some key.toList :=
      afterStart?_eq_some_iff.mpr (by simp)
    -- What starts as the second of the flags does not start as the first one.
    have apart : ∀ rest, afterStart? "--extra-".toList ("--extras-".toList ++ rest) = none :=
      fun _ => rfl
    simp only [extraStarts, List.mem_cons, List.not_mem_nil, or_false] at known
    rcases known with rfl | rfl
    · simp only [extraStarts, List.findSome?_cons, behind, Option.map_some, String.ofList_toList]
    · simp only [String.toList_append] at behind ⊢
      simp only [extraStarts, List.findSome?_cons, apart, behind, Option.map_some,
        String.ofList_toList]

/-- An argument has no key when it starts as no flag does. -/
theorem extraKey?_eq_none_iff {argument : String} :
    extraKey? argument = none ↔ ∀ start ∈ extraStarts, ¬ start.toList <+: argument.toList := by
  constructor
  · rintro none start known ⟨behind, spelled⟩
    have key : extraKey? argument = some (String.ofList behind) :=
      extraKey?_eq_some_iff.mpr ⟨start, known, String.toList_inj.mp (by simp [spelled])⟩
    rw [none] at key
    cases key
  · intro plain
    -- A key that is found would stand behind a start, and the argument would begin with that.
    cases found : extraKey? argument with
    | none => rfl
    | some key =>
      obtain ⟨start, known, rfl⟩ := extraKey?_eq_some_iff.mp found
      exact absurd ⟨key.toList, by simp⟩ (plain start known)

/-- A flag has the key behind its start. -/
theorem extraKey?_append {start : String} (known : start ∈ extraStarts) (key : String) :
    extraKey? (start ++ key) = some key := extraKey?_eq_some_iff.mpr ⟨start, known, rfl⟩

/-- An item adds what it is read from. -/
theorem takeMore_item (found : Extras) (item : Item) (rest : List String) :
    takeMore found (item.arguments ++ rest) = takeMore (item.addTo found) rest := by
  cases item with
  | single argument plain =>
    have none := extraKey?_eq_none_iff.mpr plain
    -- It does not matter to such an argument whether more of them follow.
    cases rest <;> simp only [Item.arguments, List.cons_append, List.nil_append, takeMore, none] <;>
      rfl
  | pair start known key template =>
    simp only [Item.arguments, List.cons_append, List.nil_append, takeMore,
      extraKey?_append known key]
    rfl

/-- Items are taken one after another, and what follows them is taken behind them. -/
theorem takeMore_items (found : Extras) (items : List Item) (rest : List String) :
    takeMore found (argumentsOf items ++ rest) = takeMore (items.foldl Item.addTo found) rest := by
  -- The induction is on the items, behind whatever was taken apart before them.
  induction items generalizing found with
  | nil => rfl
  | cons item items ih =>
    have front : argumentsOf (item :: items) ++ rest =
        item.arguments ++ (argumentsOf items ++ rest) := by
      rw [argumentsOf, List.flatMap_cons, List.append_assoc, argumentsOf]
    rw [front, takeMore_item, ih, List.foldl_cons]

/-- Arguments that items are read from are taken apart into these. -/
theorem takeExtras_argumentsOf (items : List Item) :
    takeExtras (argumentsOf items) = .ok (items.foldl Item.addTo {}) := by
  have taken := takeMore_items {} items []
  rwa [List.append_nil] at taken

/-- A flag at the end of the arguments lacks its template. -/
theorem takeExtras_flag (items : List Item) {start : String} (known : start ∈ extraStarts)
    (key : String) :
    takeExtras (argumentsOf items ++ [start ++ key]) =
      .error (missingTemplate (start ++ key)) := by
  -- All items are taken, and then the flag has nothing behind it.
  rw [takeExtras, takeMore_items]
  simp only [takeMore, extraKey?_append known key]

/-- All arguments are read as items, but for a flag that may be left at the end. -/
theorem exists_items (arguments : List String) :
    (∃ items, argumentsOf items = arguments) ∨
      ∃ items, ∃ start ∈ extraStarts, ∃ key, argumentsOf items ++ [start ++ key] = arguments := by
  -- The reading goes on behind each item as it does from the start.
  have further : ∀ (item : Item) (rest : List String),
      ((∃ items, argumentsOf items = rest) ∨
        ∃ items, ∃ start ∈ extraStarts, ∃ key, argumentsOf items ++ [start ++ key] = rest) →
      (∃ items, argumentsOf items = item.arguments ++ rest) ∨
        ∃ items, ∃ start ∈ extraStarts, ∃ key,
          argumentsOf items ++ [start ++ key] = item.arguments ++ rest := by
    rintro item rest (⟨items, rfl⟩ | ⟨items, start, known, key, rfl⟩)
    · exact .inl ⟨item :: items, rfl⟩
    · exact .inr ⟨item :: items, start, known, key, List.append_assoc ..⟩
  -- Each call takes one item, and only a flag with nothing behind it is left over.
  fun_induction takeMore {} arguments with
  | case1 found => exact .inl ⟨[], rfl⟩
  | case2 found argument key flag =>
    obtain ⟨start, known, rfl⟩ := extraKey?_eq_some_iff.mp flag
    exact .inr ⟨[], start, known, key, rfl⟩
  | case3 found argument plain =>
    exact further (.single argument (extraKey?_eq_none_iff.mp plain)) [] (.inl ⟨[], rfl⟩)
  | case4 found argument template rest key flag ih =>
    obtain ⟨start, known, rfl⟩ := extraKey?_eq_some_iff.mp flag
    exact further (.pair start known key template) rest ih
  | case5 found argument next rest plain ih =>
    exact further (.single argument (extraKey?_eq_none_iff.mp plain)) (next :: rest) ih

/-- Items that the same arguments begin with are the same. -/
theorem Item.eq_of_arguments {item other : Item} {rest more : List String}
    (same : item.arguments ++ rest = other.arguments ++ more) : item = other ∧ rest = more := by
  cases item with
  | single argument plain =>
    cases other with
    | single again _ =>
      obtain ⟨rfl, rfl⟩ := List.cons.inj same
      exact ⟨rfl, rfl⟩
    | pair start known key template =>
      -- The same argument would stand by itself and be a flag.
      obtain ⟨rfl, -⟩ := List.cons.inj same
      exact absurd ⟨key.toList, by simp⟩ (plain start known)
  | pair start known key template =>
    cases other with
    | single again plain =>
      obtain ⟨rfl, -⟩ := List.cons.inj same
      exact absurd ⟨key.toList, by simp⟩ (plain start known)
    | pair start' known' key' template' =>
      obtain ⟨flag, behind⟩ := List.cons.inj same
      obtain ⟨rfl, rfl⟩ := List.cons.inj behind
      -- The key of a flag is what is found in it, and the start stands before that.
      have keys := extraKey?_append known key
      rw [flag, extraKey?_append known' key'] at keys
      obtain rfl := Option.some.inj keys
      obtain rfl : start = start' :=
        String.toList_inj.mp (by simpa using congrArg String.toList flag)
      exact ⟨rfl, rfl⟩

/-- There is at most one reading of arguments. -/
theorem argumentsOf_injective : Function.Injective argumentsOf := by
  intro items others same
  -- The first items are told from what the arguments begin with, and the others from what is left.
  induction items generalizing others with
  | nil =>
    cases others with
    | nil => rfl
    | cons other others => cases other <;> cases same
  | cons item items ih =>
    cases others with
    | nil => cases item <;> cases same
    | cons other others =>
      have spelled : item.arguments ++ argumentsOf items = other.arguments ++ argumentsOf others :=
        same
      obtain ⟨rfl, behind⟩ := Item.eq_of_arguments spelled
      rw [ih behind]

/-- The arguments by themselves are kept in their order. -/
theorem others_foldl_addTo (found : Extras) (items : List Item) :
    (items.foldl Item.addTo found).others = found.others ++ singlesOf items := by
  induction items generalizing found with
  -- A pair adds a template and no argument by itself.
  | nil => exact (List.append_nil _).symm
  | cons item items ih =>
    rw [List.foldl_cons, ih]
    cases item with
    | single argument plain => exact List.append_assoc ..
    | pair start known key template => rfl

/-- The templates are laid over those that were given before. -/
theorem templates_foldl_addTo (found : Extras) (items : List Item) :
    (items.foldl Item.addTo found).templates = found.templates.overlay (givenBy items) := by
  -- Only pairs change the templates.
  induction items generalizing found with
  | nil => rfl
  | cons item items ih =>
    rw [List.foldl_cons, ih]
    cases item <;> rfl

/-- What is taken apart tells of each key the template that is given last for it. -/
theorem lookup_foldl_addTo (items : List Item) (key : String) :
    (items.foldl Item.addTo {}).templates.lookup key = lastGiven? (givenBy items) key := by
  rw [templates_foldl_addTo, ConfigMap.lookup_overlay_eq_last]
  exact Option.or_none

/-- What is given later counts more. -/
theorem lastGiven?_append (first last : List (String × String)) (key : String) :
    lastGiven? (first ++ last) key = (lastGiven? last key).or (lastGiven? first key) := by
  rw [lastGiven?, List.reverse_append, List.lookup_append, lastGiven?, lastGiven?]

/-- A pair may be moved past items of which none has its key: the same is given last. -/
theorem lastGiven?_moved {key template wanted : String} {passed behind : List (String × String)}
    (other : ∀ given ∈ passed, given.1 ≠ key) :
    lastGiven? (passed ++ (key, template) :: behind) wanted =
      lastGiven? ((key, template) :: passed ++ behind) wanted := by
  -- The items that the pair is moved over do not give its key.
  have apart : lastGiven? passed key = none := by
    refine ConfigMap.lookup_eq_none_iff.mpr fun member => ?_
    obtain ⟨given, member, same⟩ := List.mem_map.mp member
    exact other given (List.mem_reverse.mp member) same
  have single : ∀ wanted, lastGiven? [(key, template)] wanted =
      if wanted = key then some template else none := fun wanted => lookup_cons_eq_ite ..
  have front : (key, template) :: passed ++ behind = [(key, template)] ++ (passed ++ behind) := rfl
  have between : passed ++ (key, template) :: behind = passed ++ ([(key, template)] ++ behind) :=
    rfl
  rw [front, between]
  -- Only the key of the pair is given by the pair, and none of the items gives that.
  simp only [lastGiven?_append, single, Option.or_assoc]
  by_cases same : wanted = key
  · subst same
    rw [apart, Option.or_none, Option.none_or]
  · rw [if_neg same, Option.none_or, Option.or_none]

/-- What is taken apart has one template for each key. -/
theorem distinct_foldl_addTo (items : List Item) :
    (items.foldl Item.addTo {}).templates.Distinct := by
  have none : ConfigMap.Distinct [] := List.nodup_nil
  rw [templates_foldl_addTo]
  exact none.overlay _

/-- Arguments can be taken apart when they can be read as items. -/
theorem takeExtras_isOk_iff (arguments : List String) :
    (takeExtras arguments).isOk ↔ ∃ items, argumentsOf items = arguments := by
  rcases exists_items arguments with ⟨items, rfl⟩ | ⟨items, start, known, key, rfl⟩
  · rw [takeExtras_argumentsOf]
    exact iff_of_true rfl ⟨items, rfl⟩
  · rw [takeExtras_flag items known]
    -- Could these arguments be read as items, they would be taken apart into them.
    refine iff_of_false Bool.false_ne_true ?_
    rintro ⟨others, same⟩
    have taken := takeExtras_argumentsOf others
    rw [same, takeExtras_flag items known] at taken
    cases taken

/-- Arguments cannot be taken apart when a flag is left behind the items at their end. -/
theorem takeExtras_eq_error_iff (arguments : List String) (reason : String) :
    takeExtras arguments = .error reason ↔
      ∃ items, ∃ start ∈ extraStarts, ∃ key,
        arguments = argumentsOf items ++ [start ++ key] ∧
        reason = missingTemplate (start ++ key) := by
  constructor
  -- Arguments are items, or items and a flag that nothing is left for; only the latter fail.
  · intro failed
    rcases exists_items arguments with ⟨items, rfl⟩ | ⟨items, start, known, key, rfl⟩
    · rw [takeExtras_argumentsOf] at failed
      cases failed
    · rw [takeExtras_flag items known] at failed
      exact ⟨items, start, known, key, rfl, (Except.error.inj failed).symm⟩
  · rintro ⟨items, start, known, key, rfl, rfl⟩
    exact takeExtras_flag items known key

/-- A pair that is moved past items gives what it gave, and so do they. -/
theorem givenBy_moved {start : String} (known : start ∈ extraStarts) (key template : String)
    (before passed behind : List Item) :
    givenBy (before ++ .pair start known key template :: passed ++ behind) =
        givenBy before ++ ((key, template) :: givenBy passed ++ givenBy behind) ∧
      givenBy (before ++ passed ++ .pair start known key template :: behind) =
        givenBy before ++ (givenBy passed ++ (key, template) :: givenBy behind) := by
  -- A pair gives its key where it stands.
  constructor <;> simp [givenBy, Item.given?]

/--
Arguments can be taken apart just when they can be read as items, which is possible in one way at
most. The arguments by themselves are kept in their order, and for each key the template counts that
is given last. Otherwise a flag is left at the end, and that is what is said. A pair may be moved
past items of which none has its key: nothing else comes of it.
-/
theorem takeExtras_reads_items :
    (∀ arguments, (takeExtras arguments).isOk ↔ ∃ items, argumentsOf items = arguments) ∧
    Function.Injective argumentsOf ∧
    (∀ items, ∃ extras, takeExtras (argumentsOf items) = .ok extras ∧
      extras.others = singlesOf items ∧ extras.templates.Distinct ∧
      ∀ key, extras.templates.lookup key = lastGiven? (givenBy items) key) ∧
    (∀ arguments reason, takeExtras arguments = .error reason ↔
      ∃ items, ∃ start ∈ extraStarts, ∃ key,
        arguments = argumentsOf items ++ [start ++ key] ∧
        reason = missingTemplate (start ++ key)) ∧
    ∀ before passed behind start known key template,
      (∀ given ∈ givenBy passed, given.1 ≠ key) →
      ∃ extras moved,
        takeExtras (argumentsOf (before ++ .pair start known key template :: passed ++ behind)) =
          .ok extras ∧
        takeExtras (argumentsOf (before ++ passed ++ .pair start known key template :: behind)) =
          .ok moved ∧
        moved.others = extras.others ∧
        ∀ wanted, moved.templates.lookup wanted = extras.templates.lookup wanted := by
  refine ⟨takeExtras_isOk_iff, argumentsOf_injective, fun items => ?_, takeExtras_eq_error_iff,
    fun before passed behind start known key template other => ?_⟩
  · -- The arguments of items are read item by item, in their order.
    refine ⟨_, takeExtras_argumentsOf items, ?_, distinct_foldl_addTo items,
      lookup_foldl_addTo items⟩
    rw [others_foldl_addTo]
    rfl
  · refine ⟨_, _, takeExtras_argumentsOf _, takeExtras_argumentsOf _, ?_, fun wanted => ?_⟩
    · -- A pair is no argument by itself, wherever it stands.
      rw [others_foldl_addTo, others_foldl_addTo]
      simp [singlesOf, List.filterMap_cons, Item.single?]
    · -- For each key the last one that gives it is still the same.
      obtain ⟨first, last⟩ := givenBy_moved known key template before passed behind
      rw [lookup_foldl_addTo, lookup_foldl_addTo, first, last, lastGiven?_append,
        lastGiven?_moved other, ← lastGiven?_append]

end Manuscript.CommandLine

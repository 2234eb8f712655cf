import Manuscript.Tokenizer
import Mathlib.Data.List.Induction
import Mathlib.Data.Set.Subsingleton

/-!
Which tokenizer reads a file after any row of tokenizers was added. Of those of one name the last is
there. One that is there and claims the extension of the path reads the file; of several any may be
met first, for the tokenizers are gone through in no order of their own.
-/

namespace Manuscript

/-- A tokenizer reads files with the extension of a path, be it in upper or in lower case. -/
def Tokenizer.Claims (tokenizer : Tokenizer) (path : Path) : Prop :=
  ∃ extension, path.extension? = some extension ∧
    ∃ claimed ∈ tokenizer.extensions, claimed.toList = lowerAsciiChars extension

namespace Registry

/-- The registry of tokenizers that are added one after another to none. -/
def ofList (added : List Tokenizer) : Registry := added.foldl register []

/-- The tokenizer that was added last of those of a name. -/
def lastAdded? (added : List Tokenizer) (name : String) : Option Tokenizer :=
  added.reverse.find? (·.name = name)

/-- The tokenizers that are there and claim the extension of a path. -/
def claimants (added : List Tokenizer) (path : Path) : Set Tokenizer :=
  {tokenizer | lastAdded? added tokenizer.name = some tokenizer ∧ tokenizer.Claims path}

/-- A registry holds what was added: of the tokenizers of one name the last one, and no other. -/
def Holds (registry : Registry) (added : List Tokenizer) : Prop :=
  ∀ tokenizer, tokenizer ∈ registry ↔ lastAdded? added tokenizer.name = some tokenizer

variable {registry other entries : Registry} {added : List Tokenizer} {tokenizer : Tokenizer}
  {path : Path} {name : String}

/-- A tokenizer at the end is the last one of its name. -/
theorem lastAdded?_concat (added : List Tokenizer) (tokenizer : Tokenizer) (name : String) :
    lastAdded? (added ++ [tokenizer]) name =
      if tokenizer.name = name then some tokenizer else lastAdded? added name := by
  rw [lastAdded?, List.reverse_concat, List.find?_cons]
  by_cases same : tokenizer.name = name <;> simp [same, lastAdded?]

/-- The last tokenizer of a name has this name. -/
theorem name_of_lastAdded? (last : lastAdded? added name = some tokenizer) :
    tokenizer.name = name :=
  of_decide_eq_true (List.find?_some (p := fun other : Tokenizer => decide (other.name = name)) last)

/-- A tokenizer that is added is there, and of the others those that have another name. -/
theorem mem_register {held : Tokenizer} :
    held ∈ registry.register tokenizer ↔
      held = tokenizer ∨ held ∈ registry ∧ held.name ≠ tokenizer.name := by
  unfold register
  split
  case isTrue named =>
    -- It takes the place of the one that has its name.
    obtain ⟨old, member, same⟩ := List.any_eq_true.mp named
    rw [List.mem_map]
    constructor
    · rintro ⟨before, member, rfl⟩
      by_cases same : before.name = tokenizer.name
      · exact .inl (if_pos same)
      · rw [if_neg same]
        exact .inr ⟨member, same⟩
    · rintro (rfl | ⟨member, differs⟩)
      · exact ⟨old, member, if_pos (of_decide_eq_true same)⟩
      · exact ⟨held, member, if_neg differs⟩
  case isFalse unnamed =>
    -- It stands behind all others, none of which has its name.
    have differ : ∀ before ∈ registry, before.name ≠ tokenizer.name := fun before member same =>
      unnamed (List.any_eq_true.mpr ⟨before, member, decide_eq_true same⟩)
    rw [List.mem_append, List.mem_singleton, or_comm]
    exact or_congr_right ⟨fun member => ⟨member, differ held member⟩, And.left⟩

namespace Holds

/-- One more tokenizer is held, in the place of one of its name. -/
theorem register (holds : Holds registry added) (tokenizer : Tokenizer) :
    Holds (registry.register tokenizer) (added ++ [tokenizer]) := by
  intro held
  rw [mem_register, lastAdded?_concat, holds]
  -- The one of the same name is replaced, and all others stay.
  by_cases same : tokenizer.name = held.name
  · simp [same, eq_comm]
  · have differs : held ≠ tokenizer := fun this => same (congrArg Tokenizer.name this.symm)
    simp [same, differs, Ne.symm same]

/-- A registry holds what was added whatever order it is gone through in. -/
theorem perm (holds : Holds registry added) (arranged : entries.Perm registry) :
    Holds entries added :=
  fun tokenizer => arranged.mem_iff.trans (holds tokenizer)

/-- A name finds the tokenizer that was added last under it. -/
theorem find?_name (holds : Holds registry added) (name : String) :
    registry.find? (·.name = name) = lastAdded? added name := by
  cases found : registry.find? (·.name = name) with
  | some tokenizer =>
    have named : tokenizer.name = name := by simpa using List.find?_some found
    rw [← named, (holds tokenizer).mp (List.mem_of_find?_eq_some found)]
  | none =>
    -- One that was added would be there, and would have been found.
    cases last : lastAdded? added name with
    | none => rfl
    | some tokenizer =>
      have named := name_of_lastAdded? last
      have member := (holds tokenizer).mpr (named ▸ last)
      exact absurd (decide_eq_true named) (List.find?_eq_none.mp found tokenizer member)

end Holds

/-- What was added one by one is held. -/
theorem holds_ofList (added : List Tokenizer) : Holds (ofList added) added := by
  -- The induction is on the last one that was added.
  induction added using List.reverseRecOn with
  | nil => exact fun tokenizer => by simp [ofList, lastAdded?]
  | append_singleton front tokenizer ih =>
    rw [ofList, List.foldl_append]
    exact ih.register tokenizer

/-- What is found for a path is there and claims its extension. -/
theorem Holds.mem_claimants_of_detect? (holds : Holds registry added)
    (found : registry.detect? path = some tokenizer) : tokenizer ∈ claimants added path := by
  obtain ⟨extension, written, found⟩ := Option.bind_eq_some_iff.mp found
  refine ⟨(holds tokenizer).mp (List.mem_of_find?_eq_some found), extension, written, ?_⟩
  simpa using List.find?_some found

/-- Nothing is found for a path just when no tokenizer that is there claims its extension. -/
theorem Holds.detect?_eq_none_iff (holds : Holds registry added) :
    registry.detect? path = none ↔ claimants added path = ∅ := by
  rw [Set.eq_empty_iff_forall_notMem]
  -- A tokenizer that claims the extension would have been found, and what was found claims it.
  constructor
  · rintro missed tokenizer ⟨last, extension, written, claimed, member, same⟩
    rw [detect?, written, Option.bind_some, List.find?_eq_none] at missed
    exact missed tokenizer ((holds tokenizer).mpr last)
      (List.any_eq_true.mpr ⟨claimed, member, decide_eq_true same⟩)
  · intro unclaimed
    cases found : registry.detect? path with
    | none => rfl
    | some tokenizer =>
      exact absurd (holds.mem_claimants_of_detect? found) (unclaimed tokenizer)

/-- A tokenizer that is met first and claims the extension of a path is found for it. -/
theorem detect?_cons (claims : tokenizer.Claims path) (rest : List Tokenizer) :
    detect? (tokenizer :: rest) path = some tokenizer := by
  obtain ⟨extension, written, claimed, member, same⟩ := claims
  rw [detect?, written, Option.bind_some]
  exact List.find?_cons_of_pos (List.any_eq_true.mpr ⟨claimed, member, decide_eq_true same⟩)

/-- Any tokenizer that is there and claims the extension of a path may be met first. -/
theorem Holds.exists_perm_detect? (holds : Holds registry added)
    (claims : tokenizer ∈ claimants added path) :
    ∃ entries : Registry, entries.Perm registry ∧ entries.detect? path = some tokenizer := by
  -- It may stand in front of all others.
  obtain ⟨front, behind, split⟩ := List.append_of_mem ((holds tokenizer).mpr claims.1)
  refine ⟨tokenizer :: (front ++ behind), ?_, detect?_cons claims.2 _⟩
  rw [split]
  exact List.perm_middle.symm

/-- What is found for a path reads it, and else the tokenizer that was last added for markdown. -/
theorem Holds.forPath_eq_ok_iff (holds : Holds registry added) :
    registry.forPath path = .ok tokenizer ↔
      registry.detect? path = some tokenizer ∨
        registry.detect? path = none ∧ lastAdded? added markdownName = some tokenizer := by
  rw [forPath, get, holds.find?_name]
  -- A tokenizer that claims the path is taken, and only without one the name counts.
  cases registry.detect? path with
  | some found => simp
  | none => cases lastAdded? added markdownName <;> simp

/-- With one claimant at most, registries that hold the same find the same for a path. -/
theorem Holds.detect?_eq (holds : Holds registry added) (again : Holds other added)
    (alone : (claimants added path).Subsingleton) :
    registry.detect? path = other.detect? path := by
  -- Nothing is found in both or in neither, and two that are found are the only one that claims.
  cases found : registry.detect? path with
  | none => rw [again.detect?_eq_none_iff.mpr (holds.detect?_eq_none_iff.mp found)]
  | some tokenizer =>
    cases second : other.detect? path with
    | none =>
      rw [holds.detect?_eq_none_iff.mpr (again.detect?_eq_none_iff.mp second)] at found
      cases found
    | some rival =>
      rw [alone (holds.mem_claimants_of_detect? found) (again.mem_claimants_of_detect? second)]

/-- Registries that hold the same and find the same for a path read it by the same tokenizer. -/
theorem Holds.forPath_eq (holds : Holds registry added) (again : Holds other added)
    (same : registry.detect? path = other.detect? path) :
    registry.forPath path = other.forPath path := by
  rw [forPath, forPath, same, get, get, holds.find?_name, again.find?_name]

/-- The tokenizers that some order finds for a path are those that claim its extension. -/
theorem exists_perm_detect?_iff :
    (∃ entries : Registry, entries.Perm (ofList added) ∧ entries.detect? path = some tokenizer) ↔
      tokenizer ∈ claimants added path := by
  constructor
  · -- What is found claims the path, whatever the order.
    rintro ⟨entries, arranged, found⟩
    exact ((holds_ofList added).perm arranged).mem_claimants_of_detect? found
  · exact (holds_ofList added).exists_perm_detect?

/-- So are those that read the path in some order, unless none claims its extension. -/
theorem exists_perm_forPath_iff :
    (∃ entries : Registry, entries.Perm (ofList added) ∧ entries.forPath path = .ok tokenizer) ↔
      tokenizer ∈ claimants added path ∨
        claimants added path = ∅ ∧ lastAdded? added markdownName = some tokenizer := by
  have holds := holds_ofList added
  -- What is found was claimed, and each one that claims is found when it is gone through first.
  constructor
  · rintro ⟨entries, arranged, reads⟩
    have held := holds.perm arranged
    exact (held.forPath_eq_ok_iff.mp reads).imp held.mem_claimants_of_detect?
      (And.imp_left held.detect?_eq_none_iff.mp)
  · rintro (claims | ⟨unclaimed, last⟩)
    · obtain ⟨entries, arranged, found⟩ := holds.exists_perm_detect? claims
      exact ⟨entries, arranged, (holds.perm arranged).forPath_eq_ok_iff.mpr (.inl found)⟩
    · have missed := holds.detect?_eq_none_iff.mpr unclaimed
      exact ⟨_, .refl _, holds.forPath_eq_ok_iff.mpr (.inr ⟨missed, last⟩)⟩

/--
After any row of tokenizers was added, gone through in any order: the tokenizers that may be found
for a path are those that are there and claim its extension, and where there are none the one that
was last added for markdown reads it. So the order does not matter to a path just when no two
tokenizers of different names that are there claim its extension.
-/
theorem detection_settles (added : List Tokenizer) (path : Path) :
    (∀ tokenizer,
      (∃ entries : Registry, entries.Perm (ofList added) ∧
        entries.detect? path = some tokenizer) ↔ tokenizer ∈ claimants added path) ∧
    (∀ tokenizer,
      (∃ entries : Registry, entries.Perm (ofList added) ∧
        entries.forPath path = .ok tokenizer) ↔
      tokenizer ∈ claimants added path ∨
        claimants added path = ∅ ∧ lastAdded? added markdownName = some tokenizer) ∧
    ((∀ entries others : Registry, entries.Perm (ofList added) → others.Perm (ofList added) →
        entries.detect? path = others.detect? path ∧
          entries.forPath path = others.forPath path) ↔
      (claimants added path).Subsingleton) := by
  refine ⟨fun _ => exists_perm_detect?_iff, fun _ => exists_perm_forPath_iff, ?_, ?_⟩
  · -- Each of two claimants may be met first, and no order finds both of them.
    intro same first claims second rivals
    obtain ⟨entries, arranged, found⟩ := exists_perm_detect?_iff.mpr claims
    obtain ⟨others, rearranged, again⟩ := exists_perm_detect?_iff.mpr rivals
    exact Option.some.inj (found.symm.trans ((same _ _ arranged rearranged).1.trans again))
  · -- With one claimant at most, every order finds the same.
    intro alone entries others arranged rearranged
    have holds := (holds_ofList added).perm arranged
    have again := (holds_ofList added).perm rearranged
    have found := holds.detect?_eq again alone
    exact ⟨found, holds.forPath_eq again found⟩

/-- A tokenizer for plain text, by a name of its own. -/
def rival (name : String) : Tokenizer where
  name := name
  extensions := ["txt"]
  tokenize text := .ok [.ofText text]

/-- A text is read by another tokenizer when two that claim it are gone through the other way. -/
theorem detection_depends_on_order :
    ∃ entries others : Registry,
      entries.Perm (ofList [rival "lines", rival "words"]) ∧
      others.Perm (ofList [rival "lines", rival "words"]) ∧
      entries.detect? (.ofString "a.txt") ≠ others.detect? (.ofString "a.txt") ∧
      entries.forPath (.ofString "a.txt") ≠ others.forPath (.ofString "a.txt") := by
  -- Both claim the extension, so the first one is found.
  have claims : ∀ name, (rival name).Claims (.ofString "a.txt") := fun _ =>
    ⟨_, rfl, "txt", List.mem_singleton_self _, by decide⟩
  have differ : rival "lines" ≠ rival "words" := fun same =>
    absurd (congrArg Tokenizer.name same) (by decide)
  have added : ofList [rival "lines", rival "words"] = [rival "lines", rival "words"] := rfl
  refine ⟨[rival "lines", rival "words"], [rival "words", rival "lines"],
    added ▸ .refl _, added ▸ .swap .., ?_, ?_⟩
  · rw [detect?_cons (claims _), detect?_cons (claims _)]
    exact fun same => differ (Option.some.inj same)
  · rw [forPath, forPath, detect?_cons (claims _), detect?_cons (claims _)]
    exact fun same => differ (Except.ok.inj same)

/-- The tokenizers that there are without adding any are those for markdown and for JSON. -/
theorem holds_standard : Holds standard [.markdown, .json] := holds_ofList [.markdown, .json]

/-- No extension is claimed both for markdown and for JSON. -/
theorem not_claims_json (claims : Tokenizer.markdown.Claims path) :
    ¬ Tokenizer.json.Claims path := by
  -- The two know different extensions.
  have disjoint : ∀ text ∈ Tokenizer.markdown.extensions, text ∉ Tokenizer.json.extensions := by
    decide
  rintro ⟨_, again, other, member, same⟩
  obtain ⟨extension, written, claimed, known, spelled⟩ := claims
  obtain rfl := Option.some.inj (written.symm.trans again)
  obtain rfl : claimed = other := String.toList_inj.mp (spelled.trans same.symm)
  exact disjoint claimed known member

/-- The order of these two does not matter to any path. -/
theorem forPath_standard_perm (arranged : entries.Perm standard) (path : Path) :
    entries.forPath path = standard.forPath path := by
  -- These two are the only ones that are there, and no extension is claimed by both.
  have alone : (claimants [.markdown, .json] path).Subsingleton := by
    rintro first ⟨last, claims⟩ second ⟨last', claims'⟩
    have member := (holds_standard first).mpr last
    have member' := (holds_standard second).mpr last'
    simp only [standard, List.mem_cons, List.not_mem_nil, or_false] at member member'
    rcases member with rfl | rfl <;> rcases member' with rfl | rfl
    · rfl
    · exact absurd claims' (not_claims_json claims)
    · exact absurd claims (not_claims_json claims')
    · rfl
  have held := holds_standard.perm arranged
  exact held.forPath_eq holds_standard (held.detect?_eq holds_standard alone)

end Registry

end Manuscript

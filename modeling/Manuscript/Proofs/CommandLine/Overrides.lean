import Manuscript.Proofs.CommandLine.Items

/-!
What templates the constructs get from flags. Where a construct is always named by the same key, the
flag counts that names it last. Of several keys for one construct any may count, for the keys are
gone through in no order of their own.
-/

namespace Manuscript.CommandLine

/-- The template that is given last for a construct, whichever of its keys names it. -/
def lastNaming? (given : List (String × String)) (construct : Construct) : Option String :=
  (given.reverse.find? fun entry => constructOf? entry.1 = some construct).map Prod.snd

/-- All flags that name a construct name it by one key. -/
def NamedByOneKey (given : List (String × String)) (construct : Construct) : Prop :=
  ∀ first ∈ given, ∀ other ∈ given, constructOf? first.1 = some construct →
    constructOf? other.1 = some construct → first.1 = other.1

instance (given : List (String × String)) (construct : Construct) :
    Decidable (NamedByOneKey given construct) :=
  inferInstanceAs (Decidable (∀ first ∈ given, ∀ other ∈ given, _))

/-- All keys name constructs. -/
def AllKnown (templates : List (String × String)) : Prop :=
  ∀ entry ∈ templates, (constructOf? entry.1).isSome

instance (templates : List (String × String)) : Decidable (AllKnown templates) :=
  inferInstanceAs (Decidable (∀ entry ∈ templates, _))

variable {construct named : Construct} {given templates : List (String × String)}
  {key template : String}

/-- No two constructs have one key. -/
theorem key_injective : Function.Injective Construct.key := by
  -- Each construct is found by its key.
  intro first other same
  have found := Construct.ofKey?_key first
  rw [same, Construct.ofKey?_key other] at found
  exact (Option.some.inj found).symm

/-- An entry at the end gives its construct the template. -/
theorem lastNaming?_concat (names : constructOf? key = some named) :
    lastNaming? (given ++ [(key, template)]) construct =
      if construct = named then some template else lastNaming? given construct := by
  rw [lastNaming?, List.reverse_concat, List.find?_cons, names]
  -- The entry at the end is the last one that names its construct.
  by_cases same : named = construct
  · simp [same]
  · simp [same, Ne.symm same, lastNaming?]

/-- What is given last for a construct is given under a key that names it. -/
theorem exists_of_lastNaming? (last : lastNaming? given construct = some template) :
    ∃ key, constructOf? key = some construct ∧ (key, template) ∈ given := by
  obtain ⟨entry, found, rfl⟩ := Option.map_eq_some_iff.mp last
  have names := List.find?_some found
  exact ⟨entry.1, of_decide_eq_true names, List.mem_reverse.mp (List.mem_of_find?_eq_some found)⟩

/-- Nothing is given for a construct that no key names. -/
theorem lastNaming?_eq_none (unnamed : ∀ entry ∈ given, constructOf? entry.1 ≠ some construct) :
    lastNaming? given construct = none := by
  -- The entry that would be found names its construct.
  cases last : lastNaming? given construct with
  | none => rfl
  | some template =>
    obtain ⟨key, names, member⟩ := exists_of_lastNaming? last
    exact absurd names (unnamed (key, template) member)

/-- Where one key alone names a construct, what is given last for it is given last for the key. -/
theorem lastNaming?_eq_lastGiven? (names : constructOf? key = some construct)
    (alone : ∀ entry ∈ given, constructOf? entry.1 = some construct → entry.1 = key) :
    lastNaming? given construct = lastGiven? given key := by
  have alone : ∀ entry ∈ given.reverse, constructOf? entry.1 = some construct → entry.1 = key :=
    fun entry member => alone entry (List.mem_reverse.mp member)
  unfold lastNaming? lastGiven?
  generalize given.reverse = entries at alone ⊢
  -- Both look for the first entry from the end that has the key.
  induction entries with
  | nil => rfl
  | cons entry rest ih =>
    obtain ⟨here, behind⟩ := List.forall_mem_cons.mp alone
    obtain ⟨first, held⟩ := entry
    rw [List.find?_cons, lookup_cons_eq_ite]
    by_cases same : first = key
    · subst same
      simp [names]
    · have other : constructOf? first ≠ some construct := fun names => same (here names)
      simp only [other, decide_false, if_neg (Ne.symm same)]
      exact ih behind

/-- Keys that name constructs are gone through to the end, and the last one for a construct counts. -/
theorem overridesOf_eq_ok (known : AllKnown templates) :
    ∃ overrides, overridesOf templates = .ok overrides ∧
      ∀ construct, overrides.lookup construct.key = lastNaming? templates construct := by
  -- The last entry is set last, over what was set for its construct before.
  induction templates using List.reverseRecOn with
  | nil => exact ⟨[], rfl, fun _ => rfl⟩
  | append_singleton front entry ih =>
    obtain ⟨key, template⟩ := entry
    obtain ⟨before, found, holds⟩ := ih fun other member => known other (by simp [member])
    -- The last key names a construct, as all of them do.
    obtain ⟨named, names⟩ := Option.isSome_iff_exists.mp (known (key, template) (by simp))
    refine ⟨before.set named.key template, ?_, fun construct => ?_⟩
    · unfold overridesOf at found ⊢
      rw [List.foldlM_append, found]
      simp only [bind, Except.bind, List.foldlM_cons, names]
      rfl
    · rw [ConfigMap.lookup_set, holds, lastNaming?_concat names]
      simp only [key_injective.eq_iff]

/-- All keys name constructs in whatever order. -/
theorem AllKnown.perm {entries : List (String × String)} (known : AllKnown templates)
    (arranged : entries.Perm templates) : AllKnown entries :=
  fun entry member => known entry (arranged.mem_iff.mp member)

/-- What is given last for a key is given for it. -/
theorem mem_of_lastGiven? (last : lastGiven? given key = some template) :
    (key, template) ∈ given := by
  -- The look-up goes through the entries from behind.
  obtain ⟨before, behind, split, -⟩ := List.lookup_eq_some_iff.mp last
  refine List.mem_reverse.mp ?_
  rw [split]
  exact List.mem_append_right _ List.mem_cons_self

/-- Templates by their keys are as they are given: of those for one key the last is there. -/
structure Settles (templates : ConfigMap) (given : List (String × String)) : Prop where
  /-- Each key has one template. -/
  distinct : templates.Distinct
  /-- It is the one that is given last. -/
  lookup : ∀ key, templates.lookup key = lastGiven? given key

namespace Settles

variable {entries : List (String × String)}

/-- An entry is there when it is given last for its key. -/
theorem mem_iff (settled : Settles templates given) :
    (key, template) ∈ templates ↔ lastGiven? given key = some template := by
  rw [← settled.distinct.lookup_eq_some_iff, settled.lookup]

/-- Templates are as they are given whatever the order of their keys. -/
theorem perm (settled : Settles templates given) (arranged : entries.Perm templates) :
    Settles entries given where
  distinct := (arranged.map Prod.fst).nodup_iff.mpr settled.distinct
  lookup key := by rw [← settled.distinct.lookup_perm arranged.symm, settled.lookup]

/-- Where one key alone names a construct, the order of the keys does not matter to it. -/
theorem lastNaming?_eq (settled : Settles entries given) (one : NamedByOneKey given construct) :
    lastNaming? entries construct = lastNaming? given construct := by
  -- What was settled on was given.
  have known : ∀ entry ∈ entries, entry ∈ given := fun entry member =>
    mem_of_lastGiven? (settled.mem_iff.mp member)
  -- Either one key names the construct, and then it is the only one to do so, or none does.
  by_cases named : ∃ entry ∈ given, constructOf? entry.1 = some construct
  · obtain ⟨⟨key, template⟩, member, names⟩ := named
    have alone : ∀ entry ∈ given, constructOf? entry.1 = some construct → entry.1 = key :=
      fun entry other again => one entry other (key, template) member again names
    rw [lastNaming?_eq_lastGiven? names alone,
      lastNaming?_eq_lastGiven? names fun entry member => alone entry (known entry member),
      ← settled.lookup, lastGiven?]
    exact (settled.distinct.lookup_perm (List.reverse_perm entries).symm key).symm
  · have unnamed : ∀ entry ∈ given, constructOf? entry.1 ≠ some construct :=
      fun entry member names => named ⟨entry, member, names⟩
    rw [lastNaming?_eq_none unnamed,
      lastNaming?_eq_none fun entry member => unnamed entry (known entry member)]

/-- Any key that names a construct may come last. -/
theorem exists_perm_lastNaming? (settled : Settles templates given)
    (names : constructOf? key = some construct) (last : lastGiven? given key = some template) :
    ∃ entries, entries.Perm templates ∧ lastNaming? entries construct = some template := by
  have member := settled.mem_iff.mpr last
  -- The entry of the key is taken out and put behind all others.
  refine ⟨templates.erase (key, template) ++ [(key, template)], ?_, ?_⟩
  · exact List.perm_append_comm.trans (List.perm_cons_erase member).symm
  · rw [lastNaming?_concat names, if_pos rfl]

end Settles

/--
Arguments whose keys all name constructs, with the templates by key gone through in any order: there
are overrides, and a construct that is always named by one key has in them the template of the last
flag that names it. With several keys for one construct, the order decides which of them counts: it
may be any, and then it is the last flag with this key.
-/
theorem overridesOf_settles {arguments : List String} {extras : Extras}
    (taken : takeExtras arguments = .ok extras) (known : AllKnown extras.templates) :
    ∃ items, argumentsOf items = arguments ∧
      (∀ entries, entries.Perm extras.templates → ∃ overrides,
        overridesOf entries = .ok overrides ∧
        ∀ construct, NamedByOneKey (givenBy items) construct →
          overrides.lookup construct.key = lastNaming? (givenBy items) construct) ∧
      ∀ construct template,
        (∃ entries overrides, entries.Perm extras.templates ∧
          overridesOf entries = .ok overrides ∧
          overrides.lookup construct.key = some template) ↔
        ∃ key, constructOf? key = some construct ∧
          lastGiven? (givenBy items) key = some template := by
  -- What was taken apart are items, and for each key the template is there that was given last.
  obtain ⟨items, rfl⟩ := (takeExtras_isOk_iff arguments).mp (by rw [taken]; rfl)
  rw [takeExtras_argumentsOf] at taken
  obtain rfl := Except.ok.inj taken
  have settled : Settles _ (givenBy items) := ⟨distinct_foldl_addTo items, lookup_foldl_addTo items⟩
  refine ⟨items, rfl, fun entries arranged => ?_, fun construct template => ⟨?_, ?_⟩⟩
  · obtain ⟨overrides, found, holds⟩ := overridesOf_eq_ok (known.perm arranged)
    refine ⟨overrides, found, fun construct one => ?_⟩
    rw [holds, (settled.perm arranged).lastNaming?_eq one]
  · -- What counts under an order was given last for some key, which the order does not touch.
    rintro ⟨entries, overrides, arranged, found, stands⟩
    obtain ⟨again, found', holds⟩ := overridesOf_eq_ok (known.perm arranged)
    obtain rfl := Except.ok.inj (found.symm.trans found')
    rw [holds] at stands
    obtain ⟨key, names, member⟩ := exists_of_lastNaming? stands
    exact ⟨key, names, (settled.perm arranged).mem_iff.mp member⟩
  · -- The other way round, some order puts this key last.
    rintro ⟨key, names, last⟩
    obtain ⟨entries, arranged, stands⟩ := settled.exists_perm_lastNaming? names last
    obtain ⟨overrides, found, holds⟩ := overridesOf_eq_ok (known.perm arranged)
    exact ⟨entries, overrides, arranged, found, (holds construct).trans stands⟩

/-- An argument by itself, a construct that is named twice by one key, and a flag as a template. -/
def repeatedKey : List Item :=
  [.single "doc.md" (by decide +kernel),
    .pair "--extra-" (by decide) "block-quote" "first",
    .pair "--extra-" (by decide) "strong" "--extra-strong",
    .pair "--extras-" (by decide) "block-quote" "last"]

/-- A construct that is named twice by one key has the template of the second flag. -/
theorem overridesOf_settles_repeatedKey :
    ∃ extras, takeExtras (argumentsOf repeatedKey) = .ok extras ∧ AllKnown extras.templates ∧
      ∀ entries, entries.Perm extras.templates → ∃ overrides,
        overridesOf entries = .ok overrides ∧
        overrides.lookup Construct.blockQuote.key = some "last" := by
  have taken : takeExtras (argumentsOf repeatedKey) = .ok
      { others := ["doc.md"],
        templates := [("block-quote", "last"), ("strong", "--extra-strong")] } := rfl
  have known : AllKnown [("block-quote", "last"), ("strong", "--extra-strong")] := by
    decide +kernel
  refine ⟨_, taken, known, fun entries arranged => ?_⟩
  -- The items that the theorem finds are these, as there is one way to read the arguments only.
  obtain ⟨items, read, settles, -⟩ := overridesOf_settles taken known
  obtain rfl := argumentsOf_injective read
  obtain ⟨overrides, found, holds⟩ := settles entries arranged
  refine ⟨overrides, found, ?_⟩
  -- One key names the construct, and it was given twice.
  rw [holds .blockQuote (by decide +kernel)]
  decide +kernel

/-- Of two keys for one construct either may count, though the second flag is the last one. -/
theorem overridesOf_depends_on_order :
    ∃ extras,
      takeExtras ["--extra-block-quote", "first", "--extra-block_quote", "last"] = .ok extras ∧
      AllKnown extras.templates ∧
      ∃ entries, entries.Perm extras.templates ∧
        overridesOf entries = .ok [(Construct.blockQuote.key, "last")] ∧
        overridesOf entries.reverse = .ok [(Construct.blockQuote.key, "first")] :=
  -- Two spellings are two keys, and the one that comes last counts.
  ⟨{ templates := [("block-quote", "first"), ("block_quote", "last")] }, rfl, by decide +kernel,
    _, .refl _, by decide +kernel, by decide +kernel⟩

end Manuscript.CommandLine

import Manuscript.Proofs.Template.Entries
import Manuscript.Proofs.Template.Overlay

/-!
Which template a construct gets. The overrides come first, then what the name of the configuration
leads to, and the plain configuration last; the first of these with an entry for the construct
decides, even when its entry is no template.
-/

namespace Manuscript

namespace Construct

/-- A key is that of a construct just when the construct is found by it. -/
theorem ofKey?_eq_some_iff {key : String} {construct : Construct} :
    ofKey? key = some construct ↔ construct.key = key := by
  -- No two constructs share a key, so the search finds the only one that has it.
  constructor
  · intro found
    have same := List.find?_some found
    simpa using same
  · rintro rfl
    exact ofKey?_key construct

/-- The template of a construct for which a text may be given: a text that is none is not used. -/
def templateOf (construct : Construct) : Option String → Template
  | none => .builtin construct
  | some given => (Template.parse construct given).toOption.getD (.builtin construct)

end Construct

namespace TemplateSet

/-- The set after an entry of a configuration: the template of its construct if it is one. -/
def take (templates : TemplateSet) (entry : String × String) : TemplateSet :=
  match Construct.ofKey? entry.1 with
  -- A key without a meaning does not matter.
  | none => templates
  | some construct =>
    match Template.parse construct entry.2 with
    | .ok template => templates.set construct template
    | .error _ => templates

/-- Sets with the same templates are the same. -/
theorem ext_get {first second : TemplateSet}
    (same : ∀ construct, first.get construct = second.get construct) : first = second := by
  obtain ⟨get⟩ := first
  obtain ⟨get'⟩ := second
  exact congrArg TemplateSet.mk (funext same)

/-- The chosen template is that of the entry for the construct. -/
theorem chosen_eq_templateOf (map : ConfigMap) (construct : Construct) :
    chosen map construct = construct.templateOf (map.lookup construct.key) := by
  unfold chosen Construct.templateOf
  cases map.lookup construct.key with
  | none => rfl
  | some text => cases read : Template.parse construct text <;> simp [read, Except.toOption]

/-- An entry changes the template of the construct with its key, and only if it is a template. -/
theorem get_take (templates : TemplateSet) (entry : String × String) (construct : Construct) :
    (templates.take entry).get construct =
      if construct.key = entry.1 then
        (Template.parse construct entry.2).toOption.getD (templates.get construct)
      else templates.get construct := by
  unfold take
  cases found : Construct.ofKey? entry.1 with
  | none =>
    -- No construct has this key, and least of all this one.
    have other : construct.key ≠ entry.1 := fun same => by
      rw [Construct.ofKey?_eq_some_iff.mpr same] at found
      cases found
    rw [if_neg other]
  | some owner =>
    -- The entry belongs to one construct, and to all others it does nothing.
    have key := Construct.ofKey?_eq_some_iff.mp found
    by_cases same : construct = owner
    · subst same
      rw [if_pos key]
      cases read : Template.parse construct entry.2 <;> simp [read, set, Except.toOption]
    · have other : construct.key ≠ entry.1 := fun also => same <| by
        rw [← Construct.ofKey?_eq_some_iff, found] at also
        exact (Option.some.inj also).symm
      rw [if_neg other]
      cases read : Template.parse owner entry.2 <;> simp [read, set, same]

/-- After all entries of a configuration a construct has the template of its own, if it is one. -/
theorem get_foldl_take (templates : TemplateSet) {entries : ConfigMap} (distinct : entries.Distinct)
    (construct : Construct) :
    (entries.foldl take templates).get construct =
      match entries.lookup construct.key with
      | none => templates.get construct
      | some text => (Template.parse construct text).toOption.getD (templates.get construct) := by
  -- Behind the entry of the construct there is no other of its key, so that the rest keeps it.
  induction entries generalizing templates with
  | nil => rfl
  | cons entry rest ih =>
    obtain ⟨key, text⟩ := entry
    have ⟨fresh, tail⟩ := List.nodup_cons.mp distinct
    rw [List.foldl_cons, ih _ tail, lookup_cons_eq_ite, get_take]
    by_cases same : construct.key = key
    · -- None of the later entries has this key again.
      subst same
      simp only [ConfigMap.lookup_eq_none_iff.mpr fresh, if_true]
    · simp only [if_neg same]

/-- The entries of a configuration give its templates, one after another in whatever order. -/
theorem foldl_take_builtin {entries map : ConfigMap} (distinct : map.Distinct)
    (reordered : entries.Perm map) : entries.foldl take builtin = ofMap map := by
  -- A construct has the template of its own entry in both, and in both this is the same one.
  refine ext_get fun construct => ?_
  have distinct' : entries.Distinct := (reordered.map Prod.fst).nodup_iff.mpr distinct
  have chosen : (ofMap map).get construct = chosen map construct := rfl
  rw [get_foldl_take _ distinct', chosen, chosen_eq_templateOf,
    distinct'.lookup_perm reordered construct.key]
  cases map.lookup construct.key <;> rfl

end TemplateSet

namespace ConfigSource

open ConfigMap

variable {σ : Type} (programs : Programs σ) (world : World σ)

/-- The configuration of a source has one entry of each key; one in a file has this anyway. -/
def Distinct : ConfigSource → Prop
  | .named _ => True
  | .literal map => map.Distinct

/-- Where the entries of a construct are looked for, one after another, as the files say. -/
def layersIn (files : Files) (source : ConfigSource) (overrides : ConfigMap) : List ConfigMap :=
  overrides :: ((source.sought files).held?.toList ++ source.below)

/-- The configurations that need no file have one entry of each key. -/
theorem distinct_of_config? {name : String} {map : ConfigMap}
    (found : Library.config? name = some map) : map.Distinct := by
  -- There are three of them, and a look-up gives one of these.
  have all : ∀ config ∈ Library.configs, config.2.Distinct := by decide +kernel
  obtain ⟨before, behind, same, -⟩ := List.lookup_eq_some_iff.mp found
  have member : (name, map) ∈ Library.configs := by
    rw [same]
    exact List.mem_append_right before List.mem_cons_self
  exact all _ member

/-- The plain configuration is known by its name. -/
theorem config?_plainName : Library.config? Library.plainName = some Library.plain := rfl

/-- The plain configuration has one entry of each key. -/
theorem distinct_plain : Library.plain.Distinct := distinct_of_config? config?_plainName

/-- What is read from a file has one entry of each key. -/
theorem distinct_of_entriesIn {files : Files} {name : String} {map : ConfigMap}
    (found : entriesIn files name = .ok map) : map.Distinct := by
  unfold entriesIn at found
  -- Anything but a file of texts has led to nothing.
  split at found
  · cases found
  · -- The entries of the file are set one after another, from none on.
    split at found
    · obtain rfl := Except.ok.inj found
      exact (show ConfigMap.Distinct [] from List.nodup_nil).overlay _
    · cases found

/-- What a source asks for has one entry of each key. -/
theorem distinct_of_sought {files : Files} {source : ConfigSource} (given : source.Distinct)
    {map : ConfigMap} (held : source.sought files = .held map) : map.Distinct := by
  cases source with
  | literal entries =>
    cases held
    exact given
  | named name =>
    rw [sought, seek.eq_def] at held
    -- A name is known, or it names a file that can be read.
    split at held
    · rename_i known
      cases held
      exact distinct_of_config? known
    · cases held
    · rename_i read
      cases held
      exact distinct_of_entriesIn read
    · cases held

/-- Every layer has one entry of each key. -/
theorem distinct_of_mem_layersIn {files : Files} {source : ConfigSource} {overrides : ConfigMap}
    (given : source.Distinct) (distinct : overrides.Distinct) :
    ∀ layer ∈ source.layersIn files overrides, layer.Distinct := by
  -- The overrides are given to be so, and the layers behind them depend on the source.
  refine List.forall_mem_cons.mpr ⟨distinct, fun layer member => ?_⟩
  rcases List.mem_append.mp member with asked | below
  · -- What is asked for makes a layer only where it is there and can be used.
    cases sought : source.sought files with
    | held map =>
      rw [sought] at asked
      obtain rfl : layer = map := List.mem_singleton.mp asked
      exact distinct_of_sought given sought
    | missing =>
      rw [sought] at asked
      cases asked
    | faulty reason =>
      rw [sought] at asked
      cases asked
  · cases source with
    | named name =>
      rw [List.mem_singleton.mp below]
      exact distinct_plain
    | literal map => cases below

/-- What is read from a file is what the files say, whatever was done before. -/
theorem run_readMap (name : String) :
    ((readMap name).run programs world).1 = entriesIn world.files name := by
  have told : (readMap name).Tells programs world.files _ [] := tells_readMap name
  exact congrArg Prod.fst (told world.memory world.warnings)

/-- An entry of the configuration of a name is that of what it leads to, or else a plain one. -/
theorem lookup_load (name key : String) :
    ((load name).run programs world).1.lookup key =
      firstFound? (((named name).sought world.files).held?.toList ++ [Library.plain]) key := by
  -- Two shapes come up: the plain configuration alone, and another one laid over it.
  have plain : Library.plain.lookup key = firstFound? [Library.plain] key := by
    rw [firstFound?_cons]
    exact Option.or_none.symm
  have laid {map : ConfigMap} (distinct : map.Distinct) :
      (Library.plain.overlay map).lookup key = firstFound? [map, Library.plain] key :=
    lookup_overlay_eq_firstFound? distinct plain
  unfold load
  rw [sought]
  split
  · -- The plain configuration over itself changes nothing.
    rename_i isPlain
    subst isPlain
    rw [config?_plainName]
    change _ = firstFound? [Library.plain, Library.plain] key
    rw [firstFound?_cons, ← plain, Option.or_self]
    rfl
  · cases known : Library.config? name with
    | some map => exact laid (distinct_of_config? known)
    | none =>
      -- A name that nothing is known by is looked for among the files.
      change List.lookup key ((Task.bind (Task.isPresent _) _).run programs world).1 = _
      rw [Task.run_bind]
      have looked : (Task.isPresent (Path.ofString name)).run programs world =
          ((world.files.kind (Path.ofString name)).isOk, world) := rfl
      rw [looked]
      dsimp only
      cases there : world.files.kind (Path.ofString name) with
      | error fault => exact plain
      | ok kind =>
        change List.lookup key ((Task.bind (readMap name) _).run programs world).1 = _
        rw [Task.run_bind, run_readMap]
        -- What is read is laid over the plain configuration, if it can be used.
        cases read : entriesIn world.files name with
        | error reason => exact plain
        | ok map => exact laid (distinct_of_entriesIn read)

/-- An entry of the configuration of a source is that of the first layer that has one. -/
theorem lookup_resolve {source : ConfigSource} {overrides : ConfigMap}
    (distinct : overrides.Distinct) (key : String) :
    ((source.resolve overrides).run programs world).1.lookup key =
      firstFound? (source.layersIn world.files overrides) key := by
  -- Whatever the source is, the overrides are laid over its own configuration last.
  cases source with
  | literal map =>
    -- Nothing stands behind entries that are given as they are.
    have alone : map.lookup key = firstFound? [map] key := by
      rw [firstFound?_cons]
      exact Option.or_none.symm
    exact lookup_overlay_eq_firstFound? distinct alone
  | named name =>
    change List.lookup key ((Task.bind (load name) _).run programs world).1 = _
    rw [Task.run_bind]
    exact lookup_overlay_eq_firstFound? distinct (lookup_load programs world name key)

/-- The templates of a configuration do not depend on what is told about it. -/
theorem run_templatesOf (map : ConfigMap) :
    ((templatesOf map).run programs world).1 = TemplateSet.ofMap map := by
  -- Warnings about the entries that are not used come first, and give nothing to the rest.
  change ((Task.bind _ _).run programs world).1 = _
  rw [Task.run_bind]
  rfl

/-- The template of a construct is that of the first entry that the layers have for it. -/
theorem get_run_resolveTemplates {source : ConfigSource} {overrides : ConfigMap}
    (distinct : overrides.Distinct) (construct : Construct) :
    ((source.resolveTemplates overrides).run programs world).1.get construct =
      construct.templateOf
        (firstFound? (source.layersIn world.files overrides) construct.key) := by
  -- The layers are laid over one another first, and the templates are read from the outcome.
  change TemplateSet.get ((Task.bind _ templatesOf).run programs world).1 construct = _
  rw [Task.run_bind, run_templatesOf]
  change TemplateSet.chosen _ construct = _
  rw [TemplateSet.chosen_eq_templateOf, lookup_resolve programs world distinct]

/--
The template of a construct is that of the first layer with an entry for it, and the built-in one
when there is no entry or this cannot be read: no layer behind it is asked again. The order of the
entries does not matter, neither within the layers nor when templates are made of them, and nothing
but the entries of its own key has to do with a construct.
-/
theorem get_resolveTemplates {source : ConfigSource} {overrides : ConfigMap}
    (given : source.Distinct) (distinct : overrides.Distinct) :
    let templates := ((source.resolveTemplates overrides).run programs world).1
    let layers := source.layersIn world.files overrides
    (∀ construct, templates.get construct =
      construct.templateOf (firstFound? layers construct.key)) ∧
    (∀ (reordered : List ConfigMap) (entries : ConfigMap),
      List.Forall₂ List.Perm layers reordered → entries.Perm (stack reordered) →
        entries.foldl TemplateSet.take .builtin = templates) ∧
    ∀ (world' : World σ) (source' : ConfigSource) (overrides' : ConfigMap),
      overrides'.Distinct → ∀ construct : Construct,
        (source'.layersIn world'.files overrides').map (·.lookup construct.key) =
          layers.map (·.lookup construct.key) →
        ((source'.resolveTemplates overrides').run programs world').1.get construct =
          templates.get construct := by
  intro templates layers
  -- The first layer with an entry decides, and the other two statements follow from this one.
  have chosen : ∀ construct, templates.get construct = _ :=
    get_run_resolveTemplates programs world distinct
  have layered : ∀ layer ∈ layers, layer.Distinct := distinct_of_mem_layersIn given distinct
  refine ⟨chosen, fun reordered entries same stacked => ?_,
    fun world' source' overrides' distinct' construct agree => ?_⟩
  · -- However the entries come, in the end each construct has the template of its own entry.
    rw [TemplateSet.foldl_take_builtin (distinct_stack reordered) stacked]
    refine TemplateSet.ext_get fun construct => ?_
    change TemplateSet.chosen _ construct = _
    rw [TemplateSet.chosen_eq_templateOf, lookup_stack (distinct_of_perm same layered),
      ← firstFound?_perm same layered, ← chosen construct]
  · -- The first entry is a matter of what each layer has under the key.
    have entry (layers : List ConfigMap) : firstFound? layers construct.key =
        (layers.map (·.lookup construct.key)).findSome? id := by
      rw [List.findSome?_map]
      rfl
    rw [get_run_resolveTemplates programs world' distinct', entry, agree, ← entry]
    exact (chosen construct).symm

/-- A folder with a file of templates. -/
def templatesFolder : Files where
  entries :=
    [(["conf.toml".toList], .file (Utf8.encode
      "heading = '# <text>'\nemphasis = '*<text>*'\nnothing = '<a>'\n"))]

/--
An override that is no template leaves a construct with its built-in template although the file that
was asked for has another one. The rest of the file counts, and where it has no entry the plain
configuration does.
-/
theorem get_resolveTemplates_file :
    let overrides := [("other", "<text>"), ("heading", "<oops>")]
    let templates := (((ConfigSource.named "conf.toml").resolveTemplates overrides).run
      (fun _ files memory => (.unstarted .missing, files, memory)) ⟨templatesFolder, (), []⟩).1
    (ConfigSource.named "conf.toml").Distinct ∧ ConfigMap.Distinct overrides ∧
      templates.get .heading = .builtin .heading ∧
      templates.get .emphasis = ⟨[.literal ['*'], .slot .text, .literal ['*']]⟩ ∧
      templates.get .strong = .builtin .strong := by
  intro overrides templates
  have distinct : ConfigMap.Distinct overrides := by decide
  have given : (ConfigSource.named "conf.toml").Distinct := trivial
  have chosen := (get_resolveTemplates (fun _ files memory => (.unstarted .missing, files, memory))
    ⟨templatesFolder, (), []⟩ given distinct).1
  have entries : entriesIn templatesFolder "conf.toml" = .ok [("heading", "# <text>"),
      ("emphasis", "*<text>*"), ("nothing", "<a>")] := by decide +kernel
  -- The overrides come first, then the file, and the plain configuration behind every name.
  have layers : (named "conf.toml").layersIn templatesFolder overrides =
      [overrides, [("heading", "# <text>"), ("emphasis", "*<text>*"), ("nothing", "<a>")],
        Library.plain] := by
    rw [layersIn, sought, entries]
    rfl
  rw [layers] at chosen
  -- The heading of the file is behind the override and is not asked for.
  have refused : Template.parse .heading "<oops>" =
      .error (.unknownPlaceholder "heading" "oops") := by decide +kernel
  have read : Template.parse .emphasis "*<text>*" =
      .ok ⟨[.literal ['*'], .slot .text, .literal ['*']]⟩ := by decide +kernel
  refine ⟨given, distinct, (chosen .heading).trans ?_, (chosen .emphasis).trans ?_,
    (chosen .strong).trans ?_⟩
  · change (Template.parse .heading "<oops>").toOption.getD _ = _
    rw [refused]
    rfl
  · change (Template.parse .emphasis "*<text>*").toOption.getD _ = _
    rw [read]
    rfl
  · decide +kernel

end ConfigSource

end Manuscript

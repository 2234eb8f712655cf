import Manuscript.Proofs.Conversion.Document
import Manuscript.Proofs.Template.Entries
import Manuscript.Proofs.Template.Marker
import Manuscript.Proofs.Template.Precedence

/-!
What stands in for something that was asked for and cannot be used. Every such replacement is told
in a warning, so that a conversion without warnings is one with just the templates and the document
that were asked for.
-/

namespace Manuscript

open ConfigMap

/-- What was asked for and is replaced. -/
inductive Fallback where
  /-- No configuration is there by this name: the plain one stands in. -/
  | missingConfig (name : String)
  /-- The configuration cannot be used: the plain one stands in. -/
  | faultyConfig (name reason : String)
  /-- The entry of a construct is no template: the built-in one stands in. -/
  | rejectedTemplate (construct : Construct) (error : TemplateError)
  /-- No document is there by this name: the basic one stands in. -/
  | missingDocument (name : String)
  /-- The document cannot be read: the skeleton stands in. -/
  | unreadDocument (name reason : String)
  /-- The document has no place for the body: the skeleton stands in. -/
  | unmarkedDocument (origin : String) (error : TemplateError)

/-- What is said of a replacement. -/
def Fallback.warning : Fallback → String
  | .missingConfig name => ConfigSource.missingWarning name
  | .faultyConfig name reason => ConfigSource.faultyWarning name reason
  | .rejectedTemplate _ error => ConfigSource.rejectedWarning error
  | .missingDocument name => TemplateSource.missingWarning name
  | .unreadDocument name reason => TemplateSource.unreadWarning name reason
  | .unmarkedDocument origin error =>
    origin ++ ": " ++ error.message ++ ", using the built-in skeleton"

/-- What stands in for something that was asked for, with a reason that the files give for it. -/
inductive ConvertOptions.FallsBack (files : Files) (options : ConvertOptions) : Fallback → Prop
  /-- Neither a known configuration nor anything among the files has the name. -/
  | missingConfig (missing : options.config.sought files = .missing) :
    FallsBack files options (.missingConfig options.config.name)
  /-- What has the name is no flat configuration. -/
  | faultyConfig {reason : String} (faulty : options.config.sought files = .faulty reason) :
    FallsBack files options (.faultyConfig options.config.name reason)
  /-- The entry that counts for a construct is no template of it. -/
  | rejectedTemplate {construct : Construct} {entry : String} {error : TemplateError}
    (found : firstFound? (options.config.layersIn files options.overrides) construct.key =
      some entry)
    (refused : Template.parse construct entry = .error error) :
    FallsBack files options (.rejectedTemplate construct error)
  /-- Neither a known document nor anything among the files has the name. -/
  | missingDocument (missing : options.template.sought files = .missing) :
    FallsBack files options (.missingDocument options.template.name)
  /-- What has the name is no text. -/
  | unreadDocument {reason : String} (faulty : options.template.sought files = .faulty reason) :
    FallsBack files options (.unreadDocument options.template.name reason)
  /-- The text that was asked for does not mark the place of the body. -/
  | unmarkedDocument {text : String} {error : TemplateError}
    (held : options.template.sought files = .held text)
    (refused : DocumentTemplate.parse text = .error error) :
    FallsBack files options (.unmarkedDocument options.template.name error)

/-- Nothing that was asked for is replaced. -/
structure ConvertOptions.Honours (files : Files) (options : ConvertOptions) (map : ConfigMap)
    (templates : TemplateSet) (document : DocumentTemplate) : Prop where
  /-- The entries are those of the overrides, then those asked for, then those below a name. -/
  entries : ∃ own, options.config.sought files = .held own ∧ ∀ key, map.lookup key =
    firstFound? (options.overrides :: own :: options.config.below) key
  /-- A construct has the template that its entry is, and the built-in one without an entry. -/
  constructs : ∀ construct : Construct,
    match map.lookup construct.key with
    | some entry => Template.parse construct entry = .ok (templates.get construct)
    | none => templates.get construct = .builtin construct
  /-- The document is the text that was asked for. -/
  document : ∃ text, options.template.sought files = .held text ∧
    DocumentTemplate.parse text = .ok document

/-- What is replaced because a configuration is not there or cannot be used. -/
def ConfigSource.replaced (files : Files) (source : ConfigSource) : List Fallback :=
  (source.sought files).elim (fun _ => []) [.missingConfig source.name] fun reason =>
    [.faultyConfig source.name reason]

/-- What is replaced because entries are no templates, in the order of the keys. -/
def TemplateSet.replaced (map : ConfigMap) : List Fallback :=
  keyOrder.filterMap fun construct =>
    (rejection? map construct).map (Fallback.rejectedTemplate construct)

/-- What is replaced because a text has no place for the body. -/
def TemplateSource.unmarked (origin text : String) : List Fallback :=
  match DocumentTemplate.parse text with
  | .ok _ => []
  | .error error => [.unmarkedDocument origin error]

/-- What is replaced because a document is not there or cannot be used. -/
def TemplateSource.replaced (files : Files) (source : TemplateSource) : List Fallback :=
  (source.sought files).elim (unmarked source.name) [.missingDocument source.name] fun reason =>
    [.unreadDocument source.name reason]

/-- What is replaced in a conversion with a configuration, in the order in which it is told. -/
def ConvertOptions.replaced (files : Files) (options : ConvertOptions) (map : ConfigMap) :
    List Fallback :=
  options.config.replaced files ++ TemplateSet.replaced map ++ options.template.replaced files

variable {σ : Type} {programs : Programs σ} {files : Files}

namespace ConfigSource

/-- A configuration by its name is found as the files say, and what replaces it is told. -/
theorem tells_load (name : String) :
    ∃ map, (load name).Tells programs files map
      (((ConfigSource.named name).replaced files).map Fallback.warning) := by
  -- The plain configuration is what is fallen back on, and never tells anything.
  by_cases isPlain : name = Library.plainName
  · subst isPlain
    exact ⟨_, Task.tells_done Library.plain⟩
  let laid (map : ConfigMap) : Task ConfigMap := .done (Library.plain.overlay map)
  let absent : Task ConfigMap := .warn (missingWarning name) (.done Library.plain)
  let unusable (reason : String) : Task ConfigMap :=
    .warn (faultyWarning name reason) (.done Library.plain)
  -- The loader is a search by name whose three endings go on differently.
  have search : load name =
      Task.seeking (Library.config? name) (Path.ofString name) (readMap name) laid absent
        unusable := by
    rw [load, if_neg isPlain]
    cases Library.config? name with
    | some map => rfl
    | none => exact Task.bind_eq_seeking rfl rfl (fun _ => rfl) fun _ => rfl
  -- Whatever the search leads to, a warning is given just where something is replaced.
  have goesOn (sought : Sought ConfigMap) : ∃ map,
      (sought.elim laid absent unusable).Tells programs files map
        ((sought.elim (fun _ => []) [.missingConfig name] fun reason =>
          [Fallback.faultyConfig name reason]).map Fallback.warning) := by
    cases sought with
    | held map => exact ⟨_, Task.tells_done _⟩
    | missing => exact ⟨_, (Task.tells_done _).warn _⟩
    | faulty reason => exact ⟨_, (Task.tells_done _).warn _⟩
  obtain ⟨map, rest⟩ := goesOn ((ConfigSource.named name).sought files)
  rw [search]
  exact ⟨map, Task.tells_seeking (tells_readMap name) rest⟩

/-- The configuration of a source is found as the files say, and what replaces it is told. -/
theorem tells_resolve (source : ConfigSource) (overrides : ConfigMap) :
    ∃ map, (source.resolve overrides).Tells programs files map
      ((source.replaced files).map Fallback.warning) := by
  cases source with
  | named name =>
    obtain ⟨map, load⟩ : ∃ map, (load name).Tells programs files map _ := tells_load name
    exact ⟨_, load.map fun map => map.overlay overrides⟩
  -- A map that is given as it is tells nothing; a name may.
  | literal map => exact ⟨_, Task.tells_done _⟩

/-- A configuration is replaced just when it is missing or faulty. -/
theorem mem_replaced_iff {source : ConfigSource} {fallback : Fallback} :
    fallback ∈ source.replaced files ↔
      (source.sought files = .missing ∧ fallback = .missingConfig source.name) ∨
      ∃ reason, source.sought files = .faulty reason ∧
        fallback = .faultyConfig source.name reason := by
  -- Only what is missing or faulty is replaced.
  unfold replaced
  cases source.sought files <;> simp [Sought.elim, eq_comm]

/-- The templates of a configuration are those of its map, and what is rejected is told. -/
theorem tells_templatesOf (map : ConfigMap) :
    (templatesOf map).Tells programs files (TemplateSet.ofMap map)
      ((TemplateSet.replaced map).map Fallback.warning) := by
  -- Warnings are given for exactly what is replaced, in the order of the keys.
  have warnings : (TemplateSet.rejections map).map rejectedWarning =
      (TemplateSet.replaced map).map Fallback.warning := by
    rw [TemplateSet.rejections, TemplateSet.replaced, List.map_filterMap, List.map_filterMap]
    simp only [Option.map_map]
    rfl
  -- Telling them changes nothing in the templates.
  rw [← warnings]
  exact (Task.tells_each rejectedWarning (TemplateSet.rejections map)).map fun _ =>
    TemplateSet.ofMap map

end ConfigSource

namespace TemplateSource

/-- The document of a text is that text, and what replaces it is told. -/
theorem tells_parsed (origin text : String) :
    (parsed origin text).Tells programs files
      ((DocumentTemplate.parse text).toOption.getD .skeleton)
      ((unmarked origin text).map Fallback.warning) := by
  unfold parsed unmarked
  cases DocumentTemplate.parse text with
  | ok document => exact Task.tells_done document
  -- A text without the marker is replaced by the skeleton, and this is told.
  | error error => exact (Task.tells_done _).warn _

/-- The basic document has a place for the body, so that it is not replaced. -/
theorem unmarked_basic : unmarked Library.basicName Library.basic = [] := by
  have known : Library.document? Library.basicName = some Library.basic := rfl
  obtain ⟨document, marked⟩ := Library.exists_parse_of_document? known
  rw [unmarked, marked]

/-- The document of a source is found as the files say, and what replaces it is told. -/
theorem tells_resolve (source : TemplateSource) :
    ∃ document, source.resolve.Tells programs files document
        ((source.replaced files).map Fallback.warning) ∧
      ∀ text, source.sought files = .held text →
        document = (DocumentTemplate.parse text).toOption.getD .skeleton := by
  cases source with
  | literal text =>
    refine ⟨_, tells_parsed inlineName text, fun held same => ?_⟩
    cases same
    rfl
  | named name =>
    let absent : Task DocumentTemplate :=
      .warn (missingWarning name) (parsed Library.basicName Library.basic)
    let unread (reason : String) : Task DocumentTemplate :=
      .warn (unreadWarning name reason) (.done .skeleton)
    have search : (TemplateSource.named name).resolve =
        Task.seeking (Library.document? name) (Path.ofString name)
          (Task.readText (Path.ofString name)) (parsed name) absent unread := by
      rw [resolve]
      cases Library.document? name with
      | some text => rfl
      | none => exact Task.bind_eq_seeking rfl rfl (fun _ => rfl) fun _ => rfl
    -- Whatever the search leads to, a warning is given just where something is replaced.
    have goesOn (sought : Sought String) : ∃ document,
        (sought.elim (parsed name) absent unread).Tells programs files document
          ((sought.elim (unmarked name) [.missingDocument name] fun reason =>
            [Fallback.unreadDocument name reason]).map Fallback.warning) ∧
        ∀ text, sought = .held text →
          document = (DocumentTemplate.parse text).toOption.getD .skeleton := by
      cases sought with
      | held text =>
        refine ⟨_, tells_parsed name text, fun held same => ?_⟩
        cases same
        rfl
      -- The basic document has its marker, so that only the missing one is told.
      | missing =>
        have basic : (parsed Library.basicName Library.basic).Tells programs files _
            ((unmarked Library.basicName Library.basic).map Fallback.warning) := tells_parsed _ _
        rw [unmarked_basic] at basic
        exact ⟨_, basic.warn (missingWarning name), nofun⟩
      | faulty reason => exact ⟨_, (Task.tells_done _).warn _, nofun⟩
    obtain ⟨document, rest, isHeld⟩ := goesOn ((TemplateSource.named name).sought files)
    rw [search]
    exact ⟨document, Task.tells_seeking (Task.tells_readText _) rest, isHeld⟩

/-- A document is replaced just when it is missing, faulty, or has no place for the body. -/
theorem mem_replaced_iff {source : TemplateSource} {fallback : Fallback} :
    fallback ∈ source.replaced files ↔
      (source.sought files = .missing ∧ fallback = .missingDocument source.name) ∨
      (∃ reason, source.sought files = .faulty reason ∧
        fallback = .unreadDocument source.name reason) ∨
      ∃ text error, source.sought files = .held text ∧
        DocumentTemplate.parse text = .error error ∧
        fallback = .unmarkedDocument source.name error := by
  unfold replaced
  -- A text that is held is replaced only where it has no place for a body.
  cases source.sought files with
  | missing => simp [Sought.elim]
  | faulty reason => simp [Sought.elim, eq_comm]
  | held text => cases read : DocumentTemplate.parse text <;> simp [Sought.elim, unmarked, read]

end TemplateSource

/-- An entry is told to be rejected just when it is there and is no template. -/
theorem TemplateSet.mem_replaced_iff {map : ConfigMap} {fallback : Fallback} :
    fallback ∈ replaced map ↔ ∃ construct entry error, map.lookup construct.key = some entry ∧
      Template.parse construct entry = .error error ∧
      fallback = .rejectedTemplate construct error := by
  -- A single entry is rejected when it is there and does not parse.
  have rejected (construct : Construct) (error : TemplateError) :
      rejection? map construct = some error ↔ ∃ entry, map.lookup construct.key = some entry ∧
        Template.parse construct entry = .error error := by
    unfold rejection?
    cases map.lookup construct.key with
    | none => simp
    | some entry => cases read : Template.parse construct entry <;> simp [read]
  -- Every construct has its turn, so none of its entries can be passed over.
  have listed (construct : Construct) : construct ∈ keyOrder :=
    (List.mergeSort_perm Construct.all _).mem_iff.mpr construct.mem_all
  simp only [replaced, List.mem_filterMap, Option.map_eq_some_iff, rejected, listed, true_and]
  constructor
  · rintro ⟨construct, error, ⟨entry, found, refused⟩, rfl⟩
    exact ⟨construct, entry, error, found, refused, rfl⟩
  · rintro ⟨construct, entry, error, found, refused, rfl⟩
    exact ⟨construct, error, ⟨entry, found, refused⟩, rfl⟩

namespace ConvertOptions

section Laid

variable {options : ConvertOptions} {map : ConfigMap}
  (entries : ∀ key, map.lookup key =
    firstFound? (options.config.layersIn files options.overrides) key)

include entries

/-- What is replaced is just what there is a reason for, with the entries as they are laid. -/
theorem mem_replaced_iff {fallback : Fallback} :
    fallback ∈ options.replaced files map ↔ options.FallsBack files fallback := by
  rw [replaced, List.mem_append, List.mem_append, ConfigSource.mem_replaced_iff,
    TemplateSet.mem_replaced_iff, TemplateSource.mem_replaced_iff]
  -- The entry that counts is the first one in the layers, whatever the map that was made of them.
  simp only [entries]
  constructor
  · rintro (((⟨missing, rfl⟩ | ⟨reason, faulty, rfl⟩) |
      ⟨construct, entry, error, found, refused, rfl⟩) |
      (⟨missing, rfl⟩ | ⟨reason, faulty, rfl⟩ | ⟨text, error, held, refused, rfl⟩))
    · exact .missingConfig missing
    · exact .faultyConfig faulty
    · exact .rejectedTemplate found refused
    · exact .missingDocument missing
    · exact .unreadDocument faulty
    · exact .unmarkedDocument held refused
  · -- The other way round each reason has its place in one of the three lists.
    intro fallsBack
    cases fallsBack with
    | missingConfig missing => exact .inl (.inl (.inl ⟨missing, rfl⟩))
    | faultyConfig faulty => exact .inl (.inl (.inr ⟨_, faulty, rfl⟩))
    | rejectedTemplate found refused => exact .inl (.inr ⟨_, _, _, found, refused, rfl⟩)
    | missingDocument missing => exact .inr (.inl ⟨missing, rfl⟩)
    | unreadDocument faulty => exact .inr (.inr (.inl ⟨_, faulty, rfl⟩))
    | unmarkedDocument held refused => exact .inr (.inr (.inr ⟨_, _, held, refused, rfl⟩))

/-- Where there is no reason to replace anything, nothing that was asked for is replaced. -/
theorem honours_of_kept (kept : ∀ fallback, ¬ options.FallsBack files fallback) :
    ∃ text document, options.template.sought files = .held text ∧
      DocumentTemplate.parse text = .ok document ∧
      options.Honours files map (.ofMap map) document := by
  -- Each thing that would be replaced is named in a reason, and there is none.
  obtain ⟨own, given⟩ := Sought.exists_held (fun missing => kept _ (.missingConfig missing))
    fun reason faulty => kept _ (.faultyConfig faulty)
  obtain ⟨text, held⟩ := Sought.exists_held (fun missing => kept _ (.missingDocument missing))
    fun reason faulty => kept _ (.unreadDocument faulty)
  obtain ⟨document, read⟩ : ∃ document, DocumentTemplate.parse text = .ok document := by
    cases refused : DocumentTemplate.parse text with
    | error error => exact absurd (.unmarkedDocument held refused) (kept _)
    | ok document => exact ⟨document, rfl⟩
  refine ⟨text, document, held, read, ⟨own, given, fun key => ?_⟩, fun construct => ?_, text, held,
    read⟩
  · rw [entries, ConfigSource.layersIn, given]
    rfl
  · -- An entry that is no template would be replaced by the built-in one.
    have chosen : (TemplateSet.ofMap map).get construct = TemplateSet.chosen map construct := rfl
    rw [chosen, TemplateSet.chosen_eq_templateOf]
    cases found : map.lookup construct.key with
    | none => rfl
    | some entry =>
      cases refused : Template.parse construct entry with
      | error error => exact absurd (.rejectedTemplate (entries _ ▸ found) refused) (kept _)
      | ok template => simp [Construct.templateOf, refused, Except.toOption]

end Laid

end ConvertOptions

/--
Every replacement that the files give a reason for is told in a warning, and nothing else is. A
conversion without warnings has replaced nothing: it renders with the templates and the document
that were asked for.
-/
theorem convertTokens_tells_fallbacks (programs : Programs σ) (world : World σ)
    (tokens : List Token) (options : ConvertOptions) (distinct : options.overrides.Distinct) :
    let ended := (convertTokens tokens options).run programs world
    let map := ((options.config.resolve options.overrides).run programs world).1
    (∃ told : List Fallback,
      (∀ fallback, fallback ∈ told ↔ options.FallsBack world.files fallback) ∧
      ended.2 = { world with warnings := world.warnings ++ told.map Fallback.warning }) ∧
    (ended.2.warnings = world.warnings → ∃ templates document,
      options.Honours world.files map templates document ∧
      ended.1 =
        ((Renderer.ofTemplates templates options.render).document 0 tokens document).1) := by
  intro ended map
  obtain ⟨found, resolved⟩ : ∃ found, (options.config.resolve options.overrides).Tells programs
      world.files found _ := options.config.tells_resolve options.overrides
  obtain ⟨document, framed, isHeld⟩ : ∃ document, options.template.resolve.Tells programs
      world.files document _ ∧ _ := options.template.tells_resolve
  obtain rfl : found = map := (congrArg Prod.fst (resolved world.memory world.warnings)).symm
  have entries (key : String) : map.lookup key =
      firstFound? (options.config.layersIn world.files options.overrides) key :=
    ConfigSource.lookup_resolve programs world distinct key
  -- The templates come first, then the document around the body, and the rendering tells nothing.
  have templates : (options.config.resolveTemplates options.overrides).Tells programs world.files
      (.ofMap map) _ := resolved.bind (ConfigSource.tells_templatesOf map)
  have whole : (convertTokens tokens options).Tells programs world.files
      ((Renderer.ofTemplates (.ofMap map) options.render).document 0 tokens document).1 _ :=
    templates.bind (framed.map fun document =>
      ((Renderer.ofTemplates (.ofMap map) options.render).document 0 tokens document).1)
  rw [← List.map_append, ← List.map_append, ← ConvertOptions.replaced] at whole
  have ran : ended = _ := whole world.memory world.warnings
  have reasons (fallback : Fallback) : fallback ∈ options.replaced world.files map ↔
      options.FallsBack world.files fallback := ConvertOptions.mem_replaced_iff entries
  -- What was told is what was replaced, and each replacement has its reason.
  rw [ran]
  refine ⟨⟨_, reasons, rfl⟩, fun quiet => ?_⟩
  -- Without a new warning nothing was replaced, and so all was honoured.
  have silent : options.replaced world.files map = [] :=
    List.map_eq_nil_iff.mp (List.append_right_eq_self.mp quiet)
  obtain ⟨text, asked, held, read, honours⟩ := ConvertOptions.honours_of_kept entries
    fun fallback fallsBack => by
      have member := (reasons fallback).mpr fallsBack
      rw [silent] at member
      cases member
  obtain rfl : document = asked := by
    rw [isHeld text held, read]
    rfl
  exact ⟨.ofMap map, document, honours, rfl⟩

/-- With templates and a document that can be used, nothing is told and nothing is replaced. -/
theorem convertTokens_tells_fallbacks_given :
    let options : ConvertOptions :=
      { config := .literal [("strong", "**<text>**"), ("note", "<oops>")]
        template := .literal "<!-- INSERT_CONTENT -->"
        overrides := [("emphasis", "*<text>*")] }
    let ended := (convertTokens [.ofText "a"] options).run noPrograms ⟨{}, (), []⟩
    let map := ((options.config.resolve options.overrides).run noPrograms ⟨{}, (), []⟩).1
    options.overrides.Distinct ∧ ended.2.warnings = [] ∧ ∃ templates document,
      options.Honours {} map templates document ∧
      ended.1 = ((Renderer.ofTemplates templates options.render).document 0 [.ofText "a"]
        document).1 := by
  intro options ended map
  have distinct : options.overrides.Distinct := by decide
  obtain ⟨⟨told, reasons, left⟩, quiet⟩ :=
    convertTokens_tells_fallbacks noPrograms ⟨{}, (), []⟩ [.ofText "a"] options distinct
  -- Each entry and the document can be read as they are.
  have strong : (Template.parse .strong "**<text>**").isOk := by decide +kernel
  have emphasis : (Template.parse .emphasis "*<text>*").isOk := by decide +kernel
  have marked : (DocumentTemplate.parse "<!-- INSERT_CONTENT -->").isOk := by decide +kernel
  have kept : ∀ fallback, ¬ options.FallsBack {} fallback := by
    intro fallback fallsBack
    cases fallsBack with
    | missingConfig missing => cases missing
    | faultyConfig faulty => cases faulty
    | @rejectedTemplate construct entry error found refused =>
      -- Only two constructs have an entry; the third key is none of a construct.
      cases construct <;> cases found <;> simp [refused, Except.isOk, Except.toBool] at *
    | missingDocument missing => cases missing
    | unreadDocument faulty => cases faulty
    | unmarkedDocument held refused =>
      cases held
      simp [refused, Except.isOk, Except.toBool] at marked
  -- With nothing to fall back on there is nothing to tell.
  have silent : told = [] := List.eq_nil_iff_forall_not_mem.mpr fun fallback member =>
    kept fallback ((reasons fallback).mp member)
  have warnings : ended.2.warnings = [] := by
    rw [show ended.2 = _ from left, silent]
    rfl
  exact ⟨distinct, warnings, quiet warnings⟩

end Manuscript

import Manuscript.Proofs.Conversion.Document
import Manuscript.Proofs.Files.Errand
import Manuscript.Proofs.Task.Pool

/-!
Conversions at the same time. When none writes where another looks or writes, each ends as it would
alone, in whatever order they do their work, and what they leave is what each would leave alone.
-/

namespace Manuscript

/-- A path whose extension was set ends in the extension, or names no file at all. -/
theorem Path.setExtension_ends (path : Path) (front : List Char) {last : Char} (slash : last ≠ '/')
    (dot : last ≠ '.') :
    (path.setExtension (front ++ [last])).IsTrim ∨
      (path.setExtension (front ++ [last])).fileName? = none := by
  unfold Path.setExtension
  -- Either there is a name to hang the extension on, or there is none and the path stays.
  cases stem : path.stem? with
  | none => exact .inr (Option.map_eq_none_iff.mp stem)
  | some name =>
    refine .inl ?_
    dsimp only
    rw [← List.cons_append, ← List.append_assoc]
    exact Path.isTrim_of_last slash dot

/-- A path below a directory ends as the name does that it was made of. -/
theorem Path.join_trim (dir : Path) (front : List Char) {last : Char} (slash : last ≠ '/')
    (dot : last ≠ '.') : (dir.join ⟨front ++ [last]⟩).IsTrim := by
  unfold Path.join
  -- The three ways of joining differ in front of the name only.
  split
  · exact Path.isTrim_of_last slash dot
  split
  · rw [← List.append_assoc]
    exact Path.isTrim_of_last slash dot
  · rw [← List.cons_append, ← List.append_assoc]
    exact Path.isTrim_of_last slash dot

/-- Documents are written to files: nothing idle stands at the end of their paths. -/
theorem outputPath_ends (outputDir? : Option Path) (input : Path) :
    (outputPath outputDir? input).IsTrim ∨ (outputPath outputDir? input).fileName? = none := by
  -- The extension ends in a letter, which is neither a slash nor a dot.
  have extension : documentExtension.toList = ['t', 'e'] ++ ['x'] := by decide
  cases outputDir? with
  | none =>
    unfold outputPath Path.withExtension
    rw [extension]
    dsimp only
    split <;> exact Path.setExtension_ends _ _ (by decide) (by decide)
  | some dir =>
    -- In a folder the name is the stem with the extension behind it.
    refine .inl ?_
    unfold outputPath Path.withStemIn
    rw [extension]
    dsimp only
    rw [← List.cons_append, ← List.append_assoc]
    exact Path.join_trim _ _ (by decide) (by decide)

open Manuscript.Files Manuscript.Task

variable {σ : Type} (programs : Programs σ) (options : ConvertOptions) (outputDir? : Option Path)
  (world : World σ)

/-- The conversion of a file by itself: what it gives, and the world that it leaves. -/
def convertAlone (input : Path) : Except ConvertError Path × World σ :=
  (convertFile input (outputDir?.map fun dir => dir.withStemIn input documentExtension.toList)
    options).run programs world

/-- The document that a file is converted to by itself. -/
def documentAlone (input : Path) : Except ConvertError String :=
  ((documentFor options input (outputPath outputDir? input)).run programs world).1

/-- What the conversion of a file by itself puts where. -/
def errandAlone (input : Path) : Plan :=
  match documentAlone programs options outputDir? world input with
  | .error _ => fun _ => none
  | .ok document => world.files.errand (outputPath outputDir? input) (Utf8.encode document)

/--
Conversions that keep out of each other's way. Paths are compared by where they lead, and the paths
that are looked at are those that a conversion by itself asks for before it writes.
-/
structure IsApart (options : ConvertOptions) (outputDir? : Option Path) (files : Files)
    (inputs : List Path) : Prop where
  /-- Before the conversions there is a tree of folders and files. -/
  tree : files.IsTree
  /-- No output leads to another one, nor above or below it. -/
  outputs : inputs.Pairwise fun a b =>
    (files.place (outputPath outputDir? a)).Unrelated (files.place (outputPath outputDir? b))
  /-- Behind the first folder that is missing no step of an output leads back. -/
  onward : ∀ input ∈ inputs, files.LeadsOn (files.start (outputPath outputDir? input)).1
    (outputPath outputDir? input).steps
  /-- What is looked at is no output, nor above or below one, nor does it depend on new folders. -/
  sources : ∀ input ∈ inputs,
    ∀ path ∈ (documentFor options input (outputPath outputDir? input)).looks files,
      files.Spares (fun target => ∃ other ∈ inputs,
        files.place (outputPath outputDir? other) = target) path

/-- A path spared by some targets is spared by fewer of them. -/
theorem Files.Spares.fewer {files : Files} {targets fewer : Location → Prop} {path : Path}
    (spared : files.Spares targets path) (among : ∀ target, fewer target → targets target) :
    files.Spares fewer path where
  apart target chosen := spared.apart target (among target chosen)
  onward location rest stalls leads :=
    spared.onward location rest stalls (leads.imp fun target both => ⟨among target both.1, both.2⟩)

variable {programs options outputDir? world} {inputs : List Path} {input : Path}

/-- Each of some conversions by itself is out of the way. -/
theorem IsApart.alone {files : Files} (apart : IsApart options outputDir? files inputs)
    (member : input ∈ inputs) : IsApart options outputDir? files [input] where
  tree := apart.tree
  outputs := List.pairwise_singleton _ _
  onward other same := by
    rw [List.mem_singleton.mp same]
    exact apart.onward input member
  sources other same path looked := by
    rw [List.mem_singleton.mp same] at looked
    -- Fewer outputs are kept apart from than before.
    refine (apart.sources input member path looked).fewer ?_
    rintro target ⟨other, same, rfl⟩
    exact ⟨input, member, by rw [List.mem_singleton.mp same]⟩

/-- Nothing is put where a document is not written. -/
theorem errandAlone_cases {location : Location} {entry : Entry}
    (chosen : errandAlone programs options outputDir? world input location = some entry) :
    ∃ document, documentAlone programs options outputDir? world input = .ok document ∧
      world.files.errand (outputPath outputDir? input) (Utf8.encode document) location =
        some entry := by
  -- Nothing is put anywhere by a conversion that makes no document.
  unfold errandAlone at chosen
  cases made : documentAlone programs options outputDir? world input with
  | error error =>
    rw [made] at chosen
    cases chosen
  | ok document =>
    rw [made] at chosen
    exact ⟨document, rfl, chosen⟩

/-- What is put somewhere by a conversion leads to its output. -/
theorem prefix_of_errandAlone
    (onward : world.files.LeadsOn (world.files.start (outputPath outputDir? input)).1
      (outputPath outputDir? input).steps) {location : Location} {entry : Entry}
    (chosen : errandAlone programs options outputDir? world input location = some entry) :
    location <+: world.files.place (outputPath outputDir? input) ∧
      (entry ≠ .folder → location = world.files.place (outputPath outputDir? input)) := by
  -- The errand of an output goes no further than to the output, and only folders lie on the way.
  obtain ⟨document, -, chosen⟩ := errandAlone_cases chosen
  have planned := isPlan_errand onward (Utf8.encode document)
  obtain ⟨target, rfl, towards⟩ := planned.within chosen
  refine ⟨towards, fun file => ?_⟩
  cases entry with
  | folder => exact absurd rfl file
  | file content => exact (planned.file chosen).1

/-- What some conversions put where, each by itself. -/
def errandsAlone (programs : Programs σ) (options : ConvertOptions) (outputDir? : Option Path)
    (world : World σ) (inputs : List Path) : Plan := fun location =>
  inputs.findSome? fun input => errandAlone programs options outputDir? world input location

/-- Conversions that are apart put the same where they put anything to the same place. -/
theorem IsApart.errandAlone_agree (apart : IsApart options outputDir? world.files inputs)
    {other : Path} (member : input ∈ inputs) (inside : other ∈ inputs) {location : Location}
    {entry held : Entry}
    (chosen : errandAlone programs options outputDir? world input location = some entry)
    (again : errandAlone programs options outputDir? world other location = some held) :
    entry = held := by
  by_cases same : input = other
  · subst same
    exact Option.some.inj (chosen.symm.trans again)
  have mutual_ : Std.Symm fun a b => (world.files.place (outputPath outputDir? a)).Unrelated
      (world.files.place (outputPath outputDir? b)) := ⟨fun _ _ apart => ⟨apart.2, apart.1⟩⟩
  -- Of two outputs none lies behind the other one.
  have unrelated := apart.outputs.forall member inside same
  obtain ⟨towards, file⟩ := prefix_of_errandAlone (apart.onward _ member) chosen
  obtain ⟨leads, stands⟩ := prefix_of_errandAlone (apart.onward _ inside) again
  -- A file would stand on the way to the other output, so that both are folders.
  cases entry with
  | file content =>
    rw [file nofun] at leads
    exact absurd leads unrelated.1
  | folder =>
    cases held with
    | file content =>
      rw [stands nofun] at towards
      exact absurd towards unrelated.2
    | folder => rfl

/-- What one of the conversions puts somewhere is what all of them put there. -/
theorem IsApart.errandsAlone_eq (apart : IsApart options outputDir? world.files inputs)
    (member : input ∈ inputs) {location : Location} {entry : Entry}
    (chosen : errandAlone programs options outputDir? world input location = some entry) :
    errandsAlone programs options outputDir? world inputs location = some entry := by
  -- Another conversion that was asked first would have put the same there.
  cases found : errandsAlone programs options outputDir? world inputs location with
  | none =>
    rw [List.findSome?_eq_none_iff.mp found input member] at chosen
    cases chosen
  | some held =>
    obtain ⟨other, inside, again⟩ := List.exists_of_findSome?_eq_some found
    rw [apart.errandAlone_agree member inside chosen again]

variable (programs) in
/-- What conversions that are apart put is a plan on the files before them. -/
theorem IsApart.isPlan (apart : IsApart options outputDir? world.files inputs) :
    world.files.IsPlan (fun target => ∃ other ∈ inputs,
        world.files.place (outputPath outputDir? other) = target)
      (errandsAlone programs options outputDir? world inputs) := by
  -- Whatever is put was put by one of the conversions, whose own errand is a plan.
  have each : ∀ {location entry},
      errandsAlone programs options outputDir? world inputs location = some entry →
      ∃ other ∈ inputs, ∃ document,
        world.files.errand (outputPath outputDir? other) (Utf8.encode document) location =
          some entry := by
    intro location entry chosen
    obtain ⟨other, inside, own⟩ := List.exists_of_findSome?_eq_some chosen
    obtain ⟨document, -, put⟩ := errandAlone_cases own
    exact ⟨other, inside, document, put⟩
  refine ⟨fun chosen => ?_, fun chosen => ?_, fun chosen => ?_⟩ <;>
    obtain ⟨other, inside, document, put⟩ := each chosen
  · obtain ⟨target, rfl, towards⟩ := (isPlan_errand (apart.onward _ inside) _).within put
    exact ⟨_, ⟨other, inside, rfl⟩, towards⟩
  · -- What an errand puts as a folder was free, and what it puts as a file was no folder.
    exact (isPlan_errand (apart.onward _ inside) _).folder put
  · obtain ⟨rfl, free⟩ := (isPlan_errand (apart.onward _ inside) _).file put
    exact ⟨⟨other, inside, rfl⟩, free⟩

/-- What comes of the conversion of a file by itself, told by the files before it. -/
def resultAlone (programs : Programs σ) (options : ConvertOptions) (outputDir? : Option Path)
    (world : World σ) (input : Path) : Except ConvertError Path :=
  (documentAlone programs options outputDir? world input).bind fun _ =>
    (world.files.writes (outputPath outputDir? input)).map fun _ => outputPath outputDir? input

/-- What comes of a conversion among others: the files have grown, and all that it puts is there. -/
def HasConverted (programs : Programs σ) (options : ConvertOptions) (outputDir? : Option Path)
    (world : World σ) (plan : Plan) (input : Path) (result : Except ConvertError Path)
    (left : Files) : Prop :=
  Grows plan world.files left ∧
    result = resultAlone programs options outputDir? world input ∧
    ∀ location entry, errandAlone programs options outputDir? world input location = some entry →
      left.entry? location = some entry

/-- Making a document is steady while others put what they put, and it is the one made alone. -/
theorem IsApart.documentFor_steady (apart : IsApart options outputDir? world.files inputs)
    (member : input ∈ inputs) {plan : Plan}
    (planned : world.files.IsPlan (fun target => ∃ other ∈ inputs,
      world.files.place (outputPath outputDir? other) = target) plan) :
    (documentFor options input (outputPath outputDir? input)).Steady programs (Grows plan)
      (fun _ => Grows plan)
      (fun result left => Grows plan world.files left ∧
        result = documentAlone programs options outputDir? world input) world.files := by
  refine ((documentFor_asks options input _).steady_gives (fun _ => .refl)
    (fun first => first.trans) (.refl world.files)).weaken ?_
  -- All paths that are looked at are spared, so that each look finds what it found at first.
  intro result left ⟨grown, gives⟩
  refine ⟨grown, gives.eq_run (fun other saw => saw.current) (fun path looked other saw => ?_) world
    rfl⟩
  exact saw.find_eq planned apart.tree (apart.sources input member path looked)

/-- A conversion is steady while others put what they put, and ends as it would alone. -/
theorem IsApart.convert_steady (apart : IsApart options outputDir? world.files inputs)
    (member : input ∈ inputs) {plan : Plan}
    (planned : world.files.IsPlan (fun target => ∃ other ∈ inputs,
      world.files.place (outputPath outputDir? other) = target) plan)
    (chosen : ∀ location entry,
      errandAlone programs options outputDir? world input location = some entry →
        plan location = some entry) :
    (documentFor options input (outputPath outputDir? input) >>=
        writeDocument (outputPath outputDir? input)).Steady programs (Grows plan)
      (fun _ => Grows plan) (HasConverted programs options outputDir? world plan input)
      world.files := by
  -- The document is made of files that no other conversion writes.
  refine (apart.documentFor_steady member planned).bind ?_
  intro document left ⟨grown, made⟩
  subst made
  revert chosen
  unfold HasConverted resultAlone errandAlone
  -- Without a document nothing is written, and nothing was to be put.
  cases documentAlone programs options outputDir? world input with
  | error error => exact fun _ => .done ⟨grown, rfl, nofun⟩
  | ok document =>
    exact fun chosen => writeFile_steady planned apart.tree (outputPath_ends outputDir? input)
      (apart.onward input member) chosen grown

/-- What a conversion has put is still there when files have grown further. -/
theorem HasConverted.mono {plan : Plan} {result : Except ConvertError Path} {left later : Files}
    (converted : HasConverted programs options outputDir? world plan input result left)
    (chosen : ∀ location entry,
      errandAlone programs options outputDir? world input location = some entry →
        plan location = some entry)
    (further : Grows plan left later) :
    HasConverted programs options outputDir? world plan input result later :=
  -- What the plan has put stays, whoever goes on.
  ⟨converted.1.trans further, converted.2.1, fun location entry put =>
    further.planned (chosen location entry put) (converted.2.2 location entry put)⟩

/-- Conversions put what they put alone, and each ends as it would alone. -/
def conversionPact (programs : Programs σ) (options : ConvertOptions) (outputDir? : Option Path)
    (world : World σ) (inputs : List Path) : Pool.Pact Path BatchOutcome where
  rely _ := Grows (errandsAlone programs options outputDir? world inputs)
  does _ _ := Grows (errandsAlone programs options outputDir? world inputs)
  post input outcome left := outcome.input = input ∧
    HasConverted programs options outputDir? world
      (errandsAlone programs options outputDir? world inputs) input outcome.result left
  refl _ := .refl
  trans _ _ _ _ first := first.trans

/-- A conversion among others that are apart is steady; telling its outcome changes no file. -/
theorem IsApart.batchTask_steady (apart : IsApart options outputDir? world.files inputs)
    (member : input ∈ inputs) :
    (conversionPact programs options outputDir? world inputs).Steady programs input
      (batchTask outputDir? options input) world.files := by
  -- What this conversion puts anywhere is allowed to it by what all of them may put.
  have chosen : ∀ location entry,
      errandAlone programs options outputDir? world input location = some entry →
        errandsAlone programs options outputDir? world inputs location = some entry :=
    fun _ _ => apart.errandsAlone_eq member
  unfold Pool.Pact.Steady
  rw [batchTask_eq]
  -- The document is written as the pact says, and a failure behind it is told in a warning.
  refine (apart.convert_steady member (apart.isPlan programs) chosen).bind ?_
  intro result left converted
  cases result with
  | ok path => exact .done ⟨rfl, converted⟩
  | error error =>
    exact .warn (fun _ => .refl) fun later further => .done ⟨rfl, converted.mono chosen further⟩

/-- A conversion by itself gives what the files before it tell, and puts what they tell. -/
theorem IsApart.convertAlone_eq (apart : IsApart options outputDir? world.files inputs)
    (member : input ∈ inputs) :
    (convertAlone programs options outputDir? world input).1 =
        resultAlone programs options outputDir? world input ∧
      ∀ location, (convertAlone programs options outputDir? world input).2.files.entry? location =
        (errandAlone programs options outputDir? world input location).or
          (world.files.entry? location) := by
  have alone := apart.alone member
  -- With one input the plan of all is the errand of the one.
  have planned : world.files.IsPlan (fun target => ∃ other ∈ [input],
        world.files.place (outputPath outputDir? other) = target)
      (errandAlone programs options outputDir? world input) := by
    have all := alone.isPlan programs
    unfold errandsAlone at all
    simpa using all
  have task : convertFile input
      (outputDir?.map fun dir => dir.withStemIn input documentExtension.toList) options =
        documentFor options input (outputPath outputDir? input) >>=
          writeDocument (outputPath outputDir? input) := by
    rw [convertFile_eq]
    cases outputDir? <;> rfl
  -- A conversion by itself is one among others that do nothing.
  have steady := alone.convert_steady (List.mem_singleton_self input) planned fun _ _ => id
  obtain ⟨⟨grown, result, put⟩, -⟩ := steady.run .refl (fun _ => .refl) (fun first => first.trans)
    (fun _ _ _ held => held.mono fun _ _ => id) (.refl world.files)
  unfold convertAlone
  rw [task]
  refine ⟨result, fun location => ?_⟩
  cases chosen : errandAlone programs options outputDir? world input location with
  | some entry => exact put location entry chosen
  -- What was not to be put was left as it was.
  | none =>
    rcases grown.entry location with same | ⟨entry, again, -⟩
    · exact same
    · rw [chosen] at again
      cases again

/-- Conversions that are apart end as they would alone, in whatever order they do their work. -/
theorem IsApart.ends (apart : IsApart options outputDir? world.files inputs) {threads : Nat}
    (positive : 0 < threads) {pool : Pool σ BatchOutcome}
    (reached : Relation.ReflTransGen (Pool.Step programs threads)
      (.start (inputs.map (batchTask outputDir? options)) world) pool)
    (stuck : ∀ next, ¬ Pool.Step programs threads pool next) :
    Grows (errandsAlone programs options outputDir? world inputs) world.files pool.world.files ∧
      pool.jobs = inputs.map (fun input =>
        .finished ⟨input, resultAlone programs options outputDir? world input⟩) ∧
      ∀ input ∈ inputs, HasConverted programs options outputDir? world
        (errandsAlone programs options outputDir? world inputs) input
        (resultAlone programs options outputDir? world input) pool.world.files := by
  have chosen : ∀ input ∈ inputs, ∀ location entry,
      errandAlone programs options outputDir? world input location = some entry →
        errandsAlone programs options outputDir? world inputs location = some entry :=
    fun _ member _ _ => apart.errandsAlone_eq member
  obtain ⟨results, finished⟩ := Pool.finished_of_stuck positive stuck
  -- All jobs keep one pact: what is put is what each of them would put alone.
  obtain ⟨done, held⟩ := Pool.settles
    (conversionPact programs options outputDir? world inputs)
    (fun input member _ _ _ held further => ⟨held.1, held.2.mono (chosen input member) further⟩)
    (List.pairwise_of_forall fun _ _ => ⟨fun _ _ => id, fun _ _ => id⟩)
    (fun input member => apart.batchTask_steady member) reached finished.symm
  -- What the pool has done is a run of such changes.
  have grown : Grows (errandsAlone programs options outputDir? world inputs) world.files
      pool.world.files := by
    refine Relation.ReflTransGen.trans_induction_on done .refl ?_ fun _ _ first => first.trans
    rintro _ _ ⟨_, -, further⟩
    exact further
  -- The outcome of a file is that of its conversion by itself.
  obtain rfl : inputs.map (fun input =>
      (⟨input, resultAlone programs options outputDir? world input⟩ : BatchOutcome)) = results := by
    rw [← List.forall₂_eq_eq_eq, List.forall₂_map_left_iff]
    refine held.imp fun input outcome converted => ?_
    obtain ⟨rfl, -, result, -⟩ := converted
    exact congrArg (BatchOutcome.mk outcome.input) result.symm
  rw [List.forall₂_map_right_iff, List.forall₂_same] at held
  refine ⟨grown, ?_, fun input member => (held input member).2⟩
  rw [← finished, List.map_map]
  rfl

/--
Conversions that keep out of each other's way, worked on by some threads: their work comes to an end
in whatever order their requests are answered, and then there is one outcome for each file in the
order of the files, which is what its conversion by itself gives; every change that a conversion by
itself makes to the files was made, and no other.
-/
theorem convertBatch_isolated (apart : IsApart options outputDir? world.files inputs) (jobs : Nat) :
    (∀ pools : Nat → Pool σ BatchOutcome,
      ∃ n, ¬ Pool.Step programs (max jobs 1) (pools n) (pools (n + 1))) ∧
    ∀ pool, Relation.ReflTransGen (Pool.Step programs (max jobs 1))
        (.start (inputs.map (batchTask outputDir? options)) world) pool →
      (∀ next, ¬ Pool.Step programs (max jobs 1) pool next) →
      pool.jobs = inputs.map (fun input =>
        .finished ⟨input, (convertAlone programs options outputDir? world input).1⟩) ∧
      (∀ input ∈ inputs, ∀ location,
        (convertAlone programs options outputDir? world input).2.files.entry? location ≠
            world.files.entry? location →
          pool.world.files.entry? location =
            (convertAlone programs options outputDir? world input).2.files.entry? location) ∧
      ∀ location, (∀ input ∈ inputs,
          (convertAlone programs options outputDir? world input).2.files.entry? location =
            world.files.entry? location) →
        pool.world.files.entry? location = world.files.entry? location := by
  refine ⟨Pool.exists_not_step, fun pool reached stuck => ?_⟩
  have positive := Nat.lt_of_lt_of_le Nat.one_pos (le_max_right jobs 1)
  obtain ⟨grown, finished, converted⟩ := apart.ends positive reached stuck
  refine ⟨?_, fun input member location changed => ?_, fun location same => ?_⟩
  · -- The jobs are finished in the order of the inputs, whichever ended first.
    rw [finished]
    exact List.map_congr_left fun input member => by rw [(apart.convertAlone_eq member).1]
  · -- What was changed alone was put there, and so it was among the others.
    rw [(apart.convertAlone_eq member).2] at changed ⊢
    cases chosen : errandAlone programs options outputDir? world input location with
    | none => exact absurd (by rw [chosen]; rfl) changed
    | some entry => exact (converted input member).2.2 location entry chosen
  · rcases grown.entry location with kept | ⟨entry, chosen, stands⟩
    · exact kept
    · -- Whatever was put there was put there by one of the conversions alone.
      obtain ⟨input, member, own⟩ := List.exists_of_findSome?_eq_some chosen
      rw [stands, ← same input member, (apart.convertAlone_eq member).2, own]
      rfl

/-- The options that are not set otherwise take nothing from files. -/
theorem isBuiltIn_default : ConvertOptions.IsBuiltIn {} where
  config name same := by
    -- Both names stand for something that is built in, so that no file is read.
    obtain rfl := ConfigSource.named.inj same
    decide +kernel
  template name same := by
    obtain rfl := TemplateSource.named.inj same
    decide +kernel

/-- Two sources that are converted beside themselves are out of each other's way. -/
theorem isApart_twoSources :
    IsApart {} none twoSources.files [.ofString "a.md", .ofString "b.md"] where
  tree := .of_entries rfl (by decide +kernel)
  -- Two outputs beside each other, neither of them a source.
  outputs := by decide +kernel
  onward input member := by
    refine .of_notMem ?_
    revert input member
    decide +kernel
  sources input member path looked := by
    obtain rfl := isBuiltIn_default.looks_documentFor looked
    refine .of_steps ?_ ?_
    · rintro target ⟨other, inside, rfl⟩
      revert other inside path member
      decide +kernel
    · revert path member
      decide +kernel

/-- Two sources beside each other end as each would alone, on two threads. -/
theorem convertBatch_isolated_twoSources :
    ∃ pool, Relation.ReflTransGen (Pool.Step noPrograms (max 2 1))
        (.start ([.ofString "a.md", .ofString "b.md"].map (batchTask none {})) twoSources) pool ∧
      (∀ next, ¬ Pool.Step noPrograms (max 2 1) pool next) ∧
      pool.jobs = [.ofString "a.md", .ofString "b.md"].map fun input =>
        .finished ⟨input, (convertAlone noPrograms {} none twoSources input).1⟩ := by
  refine ⟨_, Pool.reaches_each _ _ _ (by decide), Pool.not_step_of_finished _ _, ?_⟩
  -- One job after the other is one of the ways the pool may go.
  exact ((convertBatch_isolated isApart_twoSources 2).2 _
    (Pool.reaches_each _ _ _ (by decide)) (Pool.not_step_of_finished _ _)).1

/-- Two sources of which one is spelled with a step back out of the folder for the documents. -/
def crossing : List Path := [.ofString "a.md", .ofString "out/../b.md"]

/-- A folder for documents. -/
def documents : Path := .ofString "out"

/-- The files behind the conversion of the first source: the folder was made for it. -/
def behindFirst (content : Bytes) : Files :=
  (twoSources.files.put ["out".toList] .folder).put ["out".toList, "a.tex".toList] (.file content)

/-- The conversion of the first source makes the folder for its document. -/
theorem run_first : ∃ content,
    ((batchTask (some documents) {} (.ofString "a.md")).run noPrograms twoSources).2.files =
      behindFirst content := by
  -- The first conversion makes the folder of the outputs and writes its document there.
  obtain ⟨document, memory, warnings, done⟩ := batchTask_run noPrograms {} (some documents)
    twoSources (.ofString "a.md") behindFirst rfl rfl rfl Utf8.decode?_nil (fun _ _ _ => rfl)
  exact ⟨document, by rw [done]⟩

/-- Behind the folder that was made for the first document the second source is found. -/
theorem run_second {world : World Unit} {content : Bytes}
    (same : world.files = behindFirst content) :
    ((batchTask (some documents) {} (.ofString "out/../b.md")).run noPrograms world).1.result =
      .ok (.ofString "out/b.tex") := by
  -- The world has no files but those behind the first conversion, so that all can be computed.
  obtain ⟨files, memory, warnings⟩ := world
  obtain rfl : files = behindFirst content := same
  obtain ⟨document, memory', warnings', done⟩ := batchTask_run noPrograms {} (some documents)
    ⟨behindFirst content, memory, warnings⟩ (.ofString "out/../b.md")
    (fun document => (behindFirst content).put ["out".toList, "b.tex".toList] (.file document))
    rfl rfl rfl Utf8.decode?_nil (fun _ _ _ => rfl)
  rw [done]
  rfl

/--
Conversions whose outputs lead elsewhere than all that is looked at can still be in each other's
way: a source behind a folder that only the other conversion makes is not found alone.
-/
theorem convertBatch_crossing :
    (crossing.Pairwise fun a b => (twoSources.files.place (outputPath (some documents) a)).Unrelated
      (twoSources.files.place (outputPath (some documents) b))) ∧
    (∀ input ∈ crossing,
      ∀ path ∈ (documentFor {} input (outputPath (some documents) input)).looks twoSources.files,
      ∀ other ∈ crossing, (twoSources.files.place (outputPath (some documents) other)).Unrelated
        (twoSources.files.place path)) ∧
    ∃ pool, Relation.ReflTransGen (Pool.Step noPrograms (max 1 1))
        (.start (crossing.map (batchTask (some documents) {})) twoSources) pool ∧
      (∀ next, ¬ Pool.Step noPrograms (max 1 1) pool next) ∧
      pool.jobs ≠ crossing.map fun input =>
        .finished ⟨input, (convertAlone noPrograms {} (some documents) twoSources input).1⟩ := by
  refine ⟨by decide +kernel, fun input member path looked => ?_, _,
    Pool.reaches_each _ _ _ (by decide), Pool.not_step_of_finished _ _, fun same => ?_⟩
  · -- Nothing but the sources is read, and none of them is an output.
    obtain rfl := isBuiltIn_default.looks_documentFor looked
    revert path member
    decide +kernel
  -- Alone, the conversion does not find the folder and so no source.
  · have alone :
        (convertAlone noPrograms {} (some documents) twoSources (.ofString "out/../b.md")).1 =
          .error (.io (.ofString "out/../b.md") FileFault.missing.message) := rfl
    obtain ⟨content, first⟩ := run_first
    -- Behind the first conversion it does, and the outcome is another one.
    have second := run_second first
    simp only [crossing, Task.each, run_bind, Task.run, List.map_cons, List.map_nil, alone,
      List.cons.injEq, Job.finished.injEq] at same
    rw [same.2.1] at second
    cases second

end Manuscript

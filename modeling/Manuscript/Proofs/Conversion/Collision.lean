import Manuscript.Proofs.Conversion.Document
import Manuscript.Proofs.Files.Alteration
import Manuscript.Proofs.Task.Pool

/-!
Conversions at the same time that may be in each other's way. A document that is reported as written
is there in the end, unless another one that is reported was written to the same place.
-/

namespace Manuscript

open Manuscript.Files Manuscript.Task

/-- The document of a source that files hold, when what else is looked at is as on files seen. -/
def IsConversion (options : ConvertOptions) (seen : Files → Prop) (files : Files) (input : Path)
    (document : String) : Prop :=
  ∃ tokenizer content source tokens, options.tokenizerFor input = .ok tokenizer ∧
    files.entry? (files.place input) = some (.file content) ∧
    Utf8.decode? content = some source ∧ tokenizer.tokenize source = .ok tokens ∧
    (convertTokens tokens options).Gives seen document

/-- A text that is given was read from a file. -/
theorem readText_gives {path : Path} {seen : Files → Prop} {source : String}
    (gives : (Task.readText path).Gives seen (.ok source)) :
    ∃ files content, seen files ∧ files.read path = .ok content ∧
      Utf8.decode? content = some source := by
  -- Only a look at a file that succeeds, and at bytes that are a text, gives one.
  cases gives with
  | @read _ _ _ files saw text =>
    dsimp only at text
    cases read : files.read path with
    -- A file that cannot be read gives a reason and no text.
    | error fault =>
      rw [read] at text
      cases text
    | ok content =>
      rw [read] at text
      dsimp only at text
      cases decoded : Utf8.decode? content with
      | none =>
        rw [decoded] at text
        cases text
      | some found =>
        rw [decoded] at text
        cases text
        exact ⟨files, content, saw, read, decoded⟩

/-- A document that is given was made of the tokens of its source. -/
theorem convertWith_gives {tokenizer : Tokenizer} {source : String} {options : ConvertOptions}
    {seen : Files → Prop} {document : String}
    (gives : (convertWith tokenizer source options).Gives seen (.ok document)) :
    ∃ tokens, tokenizer.tokenize source = .ok tokens ∧
      (convertTokens tokens options).Gives seen document := by
  -- Without tokens there is nothing to give a document.
  unfold convertWith at gives
  cases made : tokenizer.tokenize source with
  | error error =>
    rw [made] at gives
    cases gives
  | ok tokens =>
    rw [made] at gives
    obtain ⟨held, gives, last⟩ := gives_bind_iff.mp gives
    cases last
    exact ⟨tokens, rfl, gives⟩

/-- A document that is made was made of a source that was read, and does not take its place. -/
theorem documentFor_gives {options : ConvertOptions} {input output : Path} {seen : Files → Prop}
    {document : String}
    (gives : (documentFor options input output).Gives seen (.ok document)) :
    output.same input = false ∧
      ∃ files content, seen files ∧ files.read input = .ok content ∧
        ∃ tokenizer source tokens, options.tokenizerFor input = .ok tokenizer ∧
          Utf8.decode? content = some source ∧ tokenizer.tokenize source = .ok tokens ∧
          (convertTokens tokens options).Gives seen document := by
  unfold documentFor at gives
  cases chosen : options.tokenizerFor input with
  | error error =>
    rw [chosen] at gives
    cases gives
  | ok tokenizer =>
    rw [chosen] at gives
    dsimp only at gives
    split at gives
    · -- A source that would be written over is refused.
      cases gives
    case isFalse other =>
      -- The source is read, and what it holds is made into tokens and these into the document.
      obtain ⟨answer, text, gives⟩ := gives_bind_iff.mp gives
      cases answer with
      -- Without a source there is no document.
      | error reason => cases gives
      | ok source =>
        obtain ⟨files, content, saw, read, decoded⟩ := readText_gives text
        obtain ⟨tokens, made, gives⟩ := convertWith_gives gives
        exact ⟨Bool.eq_false_iff.mpr other, files, content, saw, read, tokenizer, source, tokens,
          rfl, decoded, made, gives⟩

variable {σ : Type} {programs : Programs σ} {options : ConvertOptions} {outputDir? : Option Path}
  {world : World σ} {results : List BatchOutcome} {input : Path}

/-- An outcome reports that a document was written at a location. -/
structure BatchOutcome.Claims (outputDir? : Option Path) (files : Files) (outcome : BatchOutcome)
    (location : Location) : Prop where
  /-- The conversion ended well. -/
  ok : outcome.result.isOk = true
  /-- The path of the source ends in its name. -/
  source : ∃ name, outcome.input.EndsIn name
  /-- The path of the document ends in its name. -/
  output : ∃ name, (outputPath outputDir? outcome.input).EndsIn name
  /-- The path of the document leads to the location. -/
  place : location = files.place (outputPath outputDir? outcome.input)

/-- The locations of documents that are reported for other sources. -/
def ClaimedByOthers (outputDir? : Option Path) (files : Files) (results : List BatchOutcome)
    (input : Path) (location : Location) : Prop :=
  ∃ other ∈ results, other.input ≠ input ∧ other.Claims outputDir? files location

/-- No document that is reported for another source was written where that of a source was. -/
def IsAlone (outputDir? : Option Path) (files : Files) (results : List BatchOutcome)
    (input : Path) : Prop :=
  ¬ ClaimedByOthers outputDir? files results input (files.place (outputPath outputDir? input))

/-- What holds of a document that is reported for a source. -/
structure HoldsDocument (options : ConvertOptions) (outputDir? : Option Path) (files : Files)
    (results : List BatchOutcome) (input path : Path) (left : Files) : Prop where
  /-- The path is that of the document. -/
  spelled : path = outputPath outputDir? input
  /-- The path of the source ends in its name. -/
  source : ∃ name, input.EndsIn name
  /-- The path of the document ends in its name. -/
  output : ∃ name, path.EndsIn name
  /-- Unless another document was written there, the path leads to the document of the source. -/
  content : IsAlone outputDir? files results input → ∃ document,
    IsConversion options (Alters (ClaimedByOthers outputDir? files results input) files) files input
      document ∧
    left.read path = .ok (Utf8.encode document)

/-- The extension of documents is something, with neither a dot nor a slash in it. -/
theorem documentExtension_plain : documentExtension.toList ≠ [] ∧ '.' ∉ documentExtension.toList ∧
    '/' ∉ documentExtension.toList := by decide

/-- A source that is named like the document of another one has the document of that, or itself. -/
theorem outputPath_of_endsIn {input other : Path} {name stem : Name} (ends : input.EndsIn name)
    (source : other.EndsIn stem) (output : (outputPath outputDir? other).EndsIn name) :
    outputPath outputDir? input = outputPath outputDir? other ∨
      outputPath outputDir? input = input := by
  obtain ⟨some, dotless, whole⟩ := documentExtension_plain
  cases outputDir? with
  | some dir =>
    -- Both stems are the same.
    have named := (source.withStemIn some dotless whole dir).named
    obtain rfl := Option.some.inj (output.named.symm.trans named)
    have stems : input.stem? = other.stem? := by
      rw [ends.stem?_eq, source.stem?_eq, Path.splitName_append source.stem_ne_nil dotless]
    refine .inl ?_
    simp only [outputPath, Path.withStemIn, stems, source.stem?_eq, Option.getD_some]
  | none =>
    -- The source has the extension of a document.
    exact .inr (ends.withExtension_of_endsIn some dotless whole source output)

/-- Documents of other sources are written elsewhere than to a source whose own stays alone. -/
theorem IsAlone.not_claimed {files : Files} (alone : IsAlone outputDir? files results input)
    {name : Name} (ends : input.EndsIn name)
    (other : (outputPath outputDir? input).same input = false) :
    ¬ ClaimedByOthers outputDir? files results input (files.place input) := by
  rintro ⟨outcome, member, different, claims⟩
  obtain ⟨stem, source⟩ := claims.source
  obtain ⟨made, output⟩ := claims.output
  have last := ends.getLast?_place files
  rw [claims.place, output.getLast?_place files] at last
  obtain rfl := Option.some.inj last
  -- The document of the source is written there as well, or it would be the source itself.
  rcases outputPath_of_endsIn ends source output with same | same
  · exact alone ⟨outcome, member, different, { claims with place := by rw [same] }⟩
  · rw [same, Path.same, decide_eq_false_iff_not] at other
    exact other rfl

/--
What conversions do when it is known which of them end well: these write their documents, and none
of the others writes anything.
-/
def documentPact (options : ConvertOptions) (outputDir? : Option Path) (files : Files)
    (results : List BatchOutcome) : Pool.Pact Path BatchOutcome where
  rely input := Alters (ClaimedByOthers outputDir? files results input)
  does input outcome := Alters fun location =>
    outcome.input = input ∧ outcome.Claims outputDir? files location
  post input outcome left := outcome.input = input ∧ left.current = files.current ∧
    ∀ path, outcome.result = .ok path →
      HoldsDocument options outputDir? files results input path left
  refl _ := .refl
  trans _ _ _ _ first := first.trans

/-- A conversion tells by its outcome what it wrote, and its document is there behind it. -/
theorem convert_steady (tree : world.files.IsTree) (input : Path) :
    (documentFor options input (outputPath outputDir? input) >>=
        writeDocument (outputPath outputDir? input)).Steady programs
      (Alters (ClaimedByOthers outputDir? world.files results input))
      (fun result => Alters (BatchOutcome.Claims outputDir? world.files ⟨input, result⟩))
      (fun result left => left.current = world.files.current ∧ ∀ path, result = .ok path →
        HoldsDocument options outputDir? world.files results input path left) world.files := by
  -- Making the document only looks, so that it gives what it was told.
  have looked : (documentFor options input (outputPath outputDir? input)).Steady programs
      (Alters (ClaimedByOthers outputDir? world.files results input)) (fun _ => Eq)
      (fun made left =>
        Alters (ClaimedByOthers outputDir? world.files results input) world.files left ∧
        (documentFor options input (outputPath outputDir? input)).Gives
          (Alters (ClaimedByOthers outputDir? world.files results input) world.files) made)
      world.files :=
    (documentFor_asks options input _).steady_gives (fun _ _ => rfl) (fun first => first.trans)
      (.refl _)
  refine looked.bind_of (fun _ _ _ _ _ same => same ▸ .refl _) ?_
  rintro (error | document) left ⟨altered, gives⟩
  · exact .done ⟨altered.current, nofun⟩
  obtain ⟨other, seen, content, saw, read, making⟩ := documentFor_gives gives
  obtain ⟨tokenizer, source, tokens, chosen, decoded, made, gives⟩ := making
  obtain ⟨name, ends⟩ := endsIn_of_read (saw.tree tree) read
  -- What is written is claimed by this conversion, as the pact asks.
  have written : (∃ name, (outputPath outputDir? input).EndsIn name) →
      BatchOutcome.Claims outputDir? world.files ⟨input, .ok (outputPath outputDir? input)⟩
        (world.files.place (outputPath outputDir? input)) :=
    fun output => ⟨rfl, ⟨name, ends⟩, output, rfl⟩
  refine (writeFile_alters written altered).weaken ?_
  rintro result left ⟨current, holds⟩
  refine ⟨current, fun path same => ?_⟩
  obtain ⟨rfl, output, there⟩ := holds path same
  refine ⟨rfl, ⟨name, ends⟩, output, fun alone => ⟨document, ?_, there⟩⟩
  -- What was read of the source stood there from the beginning.
  obtain ⟨-, file⟩ := read_eq_ok_iff.mp read
  rw [saw.place, saw.file (alone.not_claimed ends other)] at file
  exact ⟨tokenizer, content, source, tokens, chosen, file, decoded, made, gives⟩

/-- A conversion does what it does among others, and its document is there when it is over. -/
theorem batchTask_steady (tree : world.files.IsTree) (input : Path) :
    (documentPact options outputDir? world.files results).Steady programs input
      (batchTask outputDir? options input) world.files := by
  unfold Pool.Pact.Steady
  rw [batchTask_eq]
  refine (convert_steady tree input).bind_of ?_ ?_
  · intro result outcome gives files later does
    -- The outcome tells what the conversion gave.
    obtain rfl : (⟨input, result⟩ : BatchOutcome) = outcome := by
      cases result with
      | ok path => exact gives
      | error error => exact gives
    exact does.mono fun location claims => ⟨rfl, claims⟩
  · rintro (error | path) left ⟨current, holds⟩
    · -- A failed conversion is told in a warning, which changes no files.
      refine .warn (fun _ => .refl) fun later further => .done ⟨rfl, ?_, nofun⟩
      exact further.current.trans current
    · exact .done ⟨rfl, current, holds⟩

/-- A document that stays alone stays there while others are written. -/
theorem documentPact_lasts (input : Path) :
    (documentPact options outputDir? world.files results).Lasts input := by
  rintro outcome files later ⟨same, current, holds⟩ further
  refine ⟨same, further.current.trans current, fun path ok => ?_⟩
  obtain ⟨spelled, source, output, content⟩ := holds path ok
  refine ⟨spelled, source, output, fun alone => ?_⟩
  -- The others write nowhere but at places they claim, and this is none of those.
  obtain ⟨document, made, read⟩ := content alone
  refine ⟨document, made, further.read (fun claimed => alone ?_) read⟩
  have place : files.place path = world.files.place (outputPath outputDir? input) := by
    simp only [Files.place, Files.start, current, spelled]
  rwa [place] at claimed

/-- Conversions of different sources write only what the others rely on them to write. -/
theorem documentPact_compatible (files : Files) {inputs : List Path} (distinct : inputs.Nodup)
    (size : inputs.length = results.length) :
    (inputs.zip results).Pairwise (documentPact options outputDir? files results).Compatible := by
  have among : ∀ a b : Path × BatchOutcome, a.2 ∈ results → a.1 ≠ b.1 → ∀ before later,
      (documentPact options outputDir? files results).does a.1 a.2 before later →
      (documentPact options outputDir? files results).rely b.1 before later :=
    fun a b member different before later done =>
      done.mono fun location claims => ⟨a.2, member, claims.1 ▸ different, claims.2⟩
  -- Each of two sources is among the others for the other one.
  have different : (inputs.zip results).Pairwise fun a b => a.1 ≠ b.1 := by
    rw [← List.pairwise_map (f := Prod.fst), List.map_fst_zip size.le]
    exact distinct
  exact different.imp_of_mem fun first second apart =>
    ⟨among _ _ (List.of_mem_zip first).2 apart, among _ _ (List.of_mem_zip second).2 apart.symm⟩

/-- Documents of two sources have one path only if the sources have one stem, and one folder. -/
theorem stem_of_outputPath {input other : Path} {name stem made : Name} (ends : input.EndsIn name)
    (source : other.EndsIn stem) (output : (outputPath outputDir? input).EndsIn made)
    (same : outputPath outputDir? input = outputPath outputDir? other) :
    input.stem? = other.stem? ∧ (outputDir? = none → input.lastCut.1 = other.lastCut.1) := by
  obtain ⟨some, dotless, whole⟩ := documentExtension_plain
  -- Into one folder the stem alone is kept; beside the sources, the folder is kept with it.
  cases outputDir? with
  | some dir => exact ⟨ends.stem_of_withStemIn some dotless whole source same, nofun⟩
  | none =>
    have given : (outputPath none input).fileName? ≠ none := by simp [output.named]
    exact (ends.stem_of_withExtension some dotless whole source given same).imp_right fun same _ =>
      same

/--
Conversions of different sources, worked on in whatever order until all are over: there is one
outcome for each source in the order of the sources. Documents of two sources are reported at one
path only if the sources have one stem, and stand in one folder where the documents stand beside
them. At a path that is reported the document of its own source is read, as the source was in the
beginning, unless another document that is reported was written to where the path leads.
-/
theorem convertBatch_keeps (tree : world.files.IsTree) {inputs : List Path}
    (distinct : inputs.Nodup) (jobs : Nat) {pool : Pool σ BatchOutcome}
    (reached : Relation.ReflTransGen (Pool.Step programs (max jobs 1))
      (.start (inputs.map (batchTask outputDir? options)) world) pool)
    (stuck : ∀ next, ¬ Pool.Step programs (max jobs 1) pool next) :
    ∃ results : List BatchOutcome, pool.jobs = results.map .finished ∧
      results.map BatchOutcome.input = inputs ∧
      (∀ a ∈ results, ∀ b ∈ results, ∀ path, a.result = .ok path → b.result = .ok path →
        a.input.stem? = b.input.stem? ∧
          (outputDir? = none → a.input.lastCut.1 = b.input.lastCut.1)) ∧
      ∀ outcome ∈ results, ∀ path, outcome.result = .ok path →
        (∀ other ∈ results, ∀ written, other.result = .ok written →
          world.files.place written = world.files.place path → other.input = outcome.input) →
        ∃ document,
          IsConversion options
            (Alters (ClaimedByOthers outputDir? world.files results outcome.input) world.files)
            world.files outcome.input document ∧
          pool.world.files.read path = .ok (Utf8.encode document) := by
  have positive := Nat.lt_of_lt_of_le Nat.one_pos (le_max_right jobs 1)
  -- The pact is made up with the results in mind: who writes where is read off from them.
  obtain ⟨results, finished⟩ := Pool.finished_of_stuck positive stuck
  have size := Pool.length_of_reaches reached finished.symm
  obtain ⟨-, held⟩ := Pool.settles (documentPact options outputDir? world.files results)
    (fun input _ => documentPact_lasts input) (documentPact_compatible _ distinct size)
    (fun input _ => batchTask_steady tree input) reached finished.symm
  obtain rfl : results.map BatchOutcome.input = inputs := by
    rw [← List.forall₂_eq_eq_eq, List.forall₂_map_left_iff]
    exact (held.imp fun _ _ post => post.1).flip
  rw [List.forall₂_map_left_iff, List.forall₂_same] at held
  refine ⟨results, finished.symm, rfl, ?_, fun outcome member path ok alone => ?_⟩
  · -- Two outputs that are one path have their stems in common.
    intro a first b second path okA okB
    obtain ⟨spelled, ⟨name, ends⟩, ⟨made, output⟩, -⟩ := (held a first).2.2 path okA
    obtain ⟨again, ⟨last, source⟩, -⟩ := (held b second).2.2 path okB
    exact stem_of_outputPath ends source (spelled ▸ output) (spelled ▸ again)
  · -- No one else has written where this output is, so that it holds its document.
    obtain ⟨spelled, -, -, content⟩ := (held outcome member).2.2 path ok
    refine content ?_
    rintro ⟨other, inside, different, claims⟩
    cases again : other.result with
    | error error =>
      have ended := claims.ok
      rw [again] at ended
      cases ended
    | ok written =>
      refine different (alone other inside written again ?_)
      rw [((held other inside).2.2 written again).spelled, ← claims.place, spelled]

/-- Two sources beside each other are converted one after another. -/
theorem run_twoSources :
    ((Task.each (batchTask none {}) [.ofString "a.md", .ofString "b.md"]).run noPrograms
      twoSources).1 =
        [⟨.ofString "a.md", .ok (.ofString "a.tex")⟩,
          ⟨.ofString "b.md", .ok (.ofString "b.tex")⟩] := by
  -- Each of the two finds its source, and what the first left does not stand in its way.
  obtain ⟨first, memory, warnings, done⟩ := batchTask_run noPrograms {} none twoSources
    (.ofString "a.md") (fun document => twoSources.files.put ["a.tex".toList] (.file document))
    rfl rfl rfl Utf8.decode?_nil (fun _ _ _ => rfl)
  obtain ⟨second, memory', warnings', more⟩ := batchTask_run noPrograms {} none
    ⟨twoSources.files.put ["a.tex".toList] (.file first), memory, warnings⟩ (.ofString "b.md")
    (fun document => (twoSources.files.put ["a.tex".toList] (.file first)).put ["b.tex".toList]
      (.file document)) rfl rfl rfl Utf8.decode?_nil (fun _ _ _ => rfl)
  simp only [Task.each, run_bind, done, more]
  rfl

/-- The document of one of two sources beside each other is there in the end, on two threads. -/
theorem convertBatch_keeps_twoSources :
    ∃ pool, Relation.ReflTransGen (Pool.Step noPrograms (max 2 1))
        (.start ([.ofString "a.md", .ofString "b.md"].map (batchTask none {})) twoSources) pool ∧
      ∃ document seen, IsConversion {} seen twoSources.files (.ofString "a.md") document ∧
        pool.world.files.read (.ofString "a.tex") = .ok (Utf8.encode document) := by
  -- Two threads may take the conversions one after another.
  have reached : Relation.ReflTransGen (Pool.Step noPrograms (max 2 1)) _ _ :=
    Pool.reaches_each (batchTask none {}) [.ofString "a.md", .ofString "b.md"] twoSources
      (by decide)
  have tree : twoSources.files.IsTree := .of_entries rfl (by decide +kernel)
  obtain ⟨results, finished, -, -, holds⟩ := convertBatch_keeps tree (by decide +kernel) 2 reached
    (Pool.not_step_of_finished _ _)
  dsimp only at finished
  rw [run_twoSources] at finished
  obtain rfl := List.map_injective_iff.mpr (fun _ _ => Job.finished.inj) finished
  -- The second document lies elsewhere, so that the first is the last one at its place.
  have apart : twoSources.files.place (.ofString "b.tex") ≠
      twoSources.files.place (.ofString "a.tex") := by decide +kernel
  obtain ⟨document, made, read⟩ := holds _ List.mem_cons_self _ rfl (by
    rintro other member written ok place
    obtain rfl | same := List.mem_cons.mp member
    · rfl
    · obtain rfl := List.mem_singleton.mp same
      obtain rfl := Except.ok.inj ok
      exact absurd place apart)
  exact ⟨_, reached, document, _, made, read⟩

/-- Two sources of one name in two folders, and nothing else. -/
def sameNames : World Unit where
  files.entries := [(["a".toList], .folder), (["a".toList, "x.md".toList], .file []),
    (["b".toList], .folder), (["b".toList, "x.md".toList], .file [])]
  memory := ()

/-- The files behind a document in the folder for documents. -/
def behindDocument (content : Bytes) : Files :=
  (sameNames.files.put ["out".toList] .folder).put ["out".toList, "x.tex".toList] (.file content)

/-- The documents of two sources of one name are reported at one path of the folder for both. -/
theorem convertBatch_collides :
    [Path.ofString "a/x.md", .ofString "b/x.md"].Nodup ∧
    ∃ pool, Relation.ReflTransGen (Pool.Step noPrograms (max 1 1))
        (.start ([.ofString "a/x.md", .ofString "b/x.md"].map
          (batchTask (some (.ofString "out")) {})) sameNames) pool ∧
      (∀ next, ¬ Pool.Step noPrograms (max 1 1) pool next) ∧
      pool.jobs = [.finished ⟨.ofString "a/x.md", .ok (.ofString "out/x.tex")⟩,
        .finished ⟨.ofString "b/x.md", .ok (.ofString "out/x.tex")⟩] := by
  refine ⟨by decide +kernel, _, Pool.reaches_each _ _ _ (by decide),
    Pool.not_step_of_finished _ _, ?_⟩
  -- Both conversions succeed, the second one over what the first has written.
  obtain ⟨first, memory, warnings, done⟩ := batchTask_run noPrograms {} (some (.ofString "out"))
    sameNames (.ofString "a/x.md") behindDocument rfl rfl rfl Utf8.decode?_nil (fun _ _ _ => rfl)
  obtain ⟨second, memory', warnings', more⟩ := batchTask_run noPrograms {} (some (.ofString "out"))
    ⟨behindDocument first, memory, warnings⟩ (.ofString "b/x.md")
    (fun document => (behindDocument first).put ["out".toList, "x.tex".toList] (.file document))
    rfl rfl rfl Utf8.decode?_nil (fun _ _ _ => rfl)
  -- The two outcomes name the same path.
  simp only [Task.each, run_bind, done, more]
  rfl

end Manuscript

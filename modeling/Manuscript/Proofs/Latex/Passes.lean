import Manuscript.Latex.Compiler
import Manuscript.Proofs.Task.Starts

/-!
The passes of an engine over a source, whatever the engine and the program for bibliographies do:
how many there are, what is started between them, and what comes of the last one.
-/

namespace Manuscript

/-- Files, and what other programs remember. -/
abbrev Scene (σ : Type) := Files × σ

/-- The same warnings with other files and another memory. -/
def World.at {σ : Type} (world : World σ) (scene : Scene σ) : World σ :=
  { world with files := scene.1, memory := scene.2 }

/-- A source in a folder, with the programs that work on it, before the first pass over it. -/
structure Compilation (σ : Type) where
  /-- How programs behave. -/
  programs : Programs σ
  /-- How the PDF file is made. -/
  compiler : Compiler
  /-- Where programs are found. -/
  environment : Environment
  /-- The program of the engine. -/
  program : Path
  /-- The folder that the source stands in. -/
  folder : Path
  /-- The source. -/
  source : String
  /-- The files and the memory of the programs. -/
  start : Scene σ

namespace Compilation

variable {σ : Type} (c : Compilation σ)

/-- What a command does when it is started. -/
def runOn (command : Command) (scene : Scene σ) : Outcome × Scene σ :=
  Task.startOn c.programs command scene.1 scene.2

/-- The call of the engine. -/
def engine : Command := c.compiler.engineCommand c.program c.folder

/-- The call of the program for bibliographies, when there is one. -/
def bibtex (scene : Scene σ) : Except ConvertError Command :=
  (c.compiler.findBibtex c.environment).map fun program =>
    c.compiler.bibtexCommand program c.folder scene.1.current.path

/-- Setting the bibliography: how it went, and what is left. -/
def bibliography (scene : Scene σ) : Except ConvertError Unit × Scene σ :=
  match c.bibtex scene with
  | .error error => (.error error, scene)
  | .ok command =>
    let out := c.runOn command scene
    (match toolResult Compiler.bibtexName command out.1 with
      | .error error => .error error
      | .ok (.exited 0) => .ok ()
      | .ok status =>
        .error (.compile (Compiler.bibtexName ++ " failed (" ++ status.text ++ ")")), out.2)

/-- The bibliography is set behind the first pass over a source that calls for one. -/
def bibliographyDue (passes : Nat) : Bool := passes = 0 && Compiler.usesBibliography c.source

/-- What there is before a pass that comes behind a number of others. -/
def before : Nat → Scene σ
  | 0 => c.start
  | passes + 1 =>
    let after := (c.runOn c.engine (before passes)).2
    if c.bibliographyDue passes then (c.bibliography after).2 else after

/-- How the engine ends in a pass behind a number of others. -/
def outcome (passes : Nat) : Outcome := (c.runOn c.engine (c.before passes)).1

/-- What the engine leaves in a pass behind a number of others. -/
def after (passes : Nat) : Scene σ := (c.runOn c.engine (c.before passes)).2

/-- The log that is there behind a pass, empty when there is none. -/
def log (passes : Nat) : List Char :=
  match (c.after passes).1.read (Compiler.jobFile c.folder "log") with
  | .ok content => Log.charactersOf content
  | .error _ => []

/-- What comes of a pass: its log, or why it failed. -/
def result (passes : Nat) : Except ConvertError (List Char) :=
  match toolResult c.compiler.engine.name c.engine (c.outcome passes) with
  | .error error => .error error
  | .ok status =>
    if status = .exited 0 then .ok (c.log passes)
    else .error (.compile (Log.failureSummary c.compiler.engine (c.log passes)))

/-- A pass succeeds when the engine ends without an error. -/
def Succeeds (passes : Nat) : Prop := c.outcome passes = .ended 0

/-- A pass settles a source when there were enough of them and its log asks for no other one. -/
def Settles (passes : Nat) : Prop :=
  Compiler.leastRuns c.source ≤ passes + 1 ∧ Log.needsRerun (c.log passes) = false

/-- What is said behind a pass of a bibliography that went wrong. -/
def bibliographyWarnings (passes : Nat) : List String :=
  if c.bibliographyDue passes then
    match (c.bibliography (c.after passes)).1 with
    | .ok () => []
    | .error error => [Compiler.bibtexName ++ ": " ++ error.message]
  else []

/-- What is started for the bibliography behind a pass, if this succeeds. -/
def bibliographyCommands (passes : Nat) : List Command :=
  if c.outcome passes = .ended 0 ∧ c.bibliographyDue passes then
    (c.bibtex (c.after passes)).toOption.toList
  else []

/--
A pass is the last one, by the number of passes before it: from a first pass to it every pass but
the last succeeded without settling the source, and this one fails, settles it, or is as late as a
pass may be.
-/
structure IsLast (first bound last : Nat) : Prop where
  /-- The last pass does not come before the first. -/
  reached : first ≤ last
  /-- The last pass is no later than a pass may be. -/
  within : last ≤ bound
  /-- After each earlier pass another one was called for. -/
  earlier : ∀ passes, first ≤ passes → passes < last →
    c.Succeeds passes ∧ ¬ c.Settles passes
  /-- After this pass none is called for. -/
  ended : c.Succeeds last → c.Settles last ∨ last = bound

/-- What comes of a source when a pass is the last one. -/
def reportOf (last : Nat) : Except ConvertError CompileReport :=
  match c.result last with
  | .error error => .error error
  | .ok log =>
    match (c.before (last + 1)).1.read (Compiler.jobFile c.folder "pdf") with
    | .error _ => .error (.compile (c.compiler.engine.name ++ " finished without producing a PDF"))
    | .ok pdf => .ok ⟨pdf, last + 1, c.bibliographyWarnings 0 ++ Log.warnings log⟩

section Steps

variable {c} {world : World σ}

/-- A tool is started once. -/
theorem runTool_ends (programs : Programs σ) (tool : String) (command : Command) (world : World σ) :
    let out := Task.startOn programs command world.files world.memory
    (runTool tool command).Ends programs world [command] (toolResult tool command out.1)
      (world.at out.2) := by
  intro out
  refine ⟨rfl, ?_⟩
  -- The result is told from the outcome, and the world is where the tool left it.
  show (toolResult tool command out.1, world.at out.2) = _
  rfl

/-- Reading the log starts nothing, and gives what stands in it. -/
theorem readLog_ends (passes : Nat) (world : World σ) :
    (Compiler.readLog c.folder).Ends c.programs (world.at (c.after passes)) [] (c.log passes)
      (world.at (c.after passes)) := ⟨rfl, rfl⟩

/-- A pass starts the engine once. -/
theorem pass_ends (passes : Nat) (world : World σ) :
    (c.compiler.pass c.program c.folder).Ends c.programs (world.at (c.before passes)) [c.engine]
      (c.result passes) (world.at (c.after passes)) := by
  refine (runTool_ends c.programs c.compiler.engine.name c.engine
    (world.at (c.before passes))).then_nothing ?_
  -- The log is read unless the engine could not be started or ran too long.
  show Task.Ends c.programs
    (match toolResult c.compiler.engine.name c.engine (c.outcome passes) with
      | .error error => _
      | .ok status => _) _ _ _ _
  unfold result
  cases toolResult c.compiler.engine.name c.engine (c.outcome passes) with
  | error error => exact .done
  | ok status =>
    refine (c.readLog_ends passes world).nothing_then ?_
    -- An engine that ended with another code has failed, whatever the log says.
    by_cases ended : status = .exited 0
    · simp only [if_pos ended]
      exact .done
    · simp only [if_neg ended]
      exact .done

/-- Setting the bibliography starts its program when there is one. -/
theorem runBibtex_ends (scene : Scene σ) (world : World σ) :
    (c.compiler.runBibtex c.environment c.folder).Ends c.programs (world.at scene)
      (c.bibtex scene).toOption.toList (c.bibliography scene).1
      (world.at (c.bibliography scene).2) := by
  -- Without the program there is nothing to start.
  unfold Compiler.runBibtex bibliography bibtex
  cases c.compiler.findBibtex c.environment with
  | error error => exact .done
  | ok program =>
    let command := c.compiler.bibtexCommand program c.folder scene.1.current.path
    refine .current ((runTool_ends c.programs Compiler.bibtexName command
      (world.at scene)).then_nothing ?_)
    -- What the program left behind decides what is said of it.
    simp only [Except.map]
    show Task.Ends c.programs
      (match toolResult Compiler.bibtexName command (c.runOn command scene).1 with
        | .error error => _
        | .ok (.exited 0) => _
        | .ok status => _) _ _
      (match toolResult Compiler.bibtexName command (c.runOn command scene).1 with
        | .error error => _
        | .ok (.exited 0) => _
        | .ok status => _) _
    rcases toolResult Compiler.bibtexName command (c.runOn command scene).1 with
      error | (_ | code) | ⟨number, dumped⟩ <;> exact .done

/-- What goes wrong with the bibliography is told and kept as a warning. -/
theorem bibliographyWarnings_ends (scene : Scene σ) (world : World σ) :
    ∃ warnings,
      (c.compiler.bibliographyWarnings c.environment c.folder).Ends c.programs (world.at scene)
        (c.bibtex scene).toOption.toList
        (match (c.bibliography scene).1 with
          | .ok () => []
          | .error error => [Compiler.bibtexName ++ ": " ++ error.message])
        ({ world with warnings }.at (c.bibliography scene).2) := by
  -- Only a failure adds a warning to those of the world.
  cases went : (c.bibliography scene).1 with
  | ok nothing =>
    refine ⟨world.warnings, (c.runBibtex_ends scene world).then_nothing ?_⟩
    rw [went]
    exact .done
  | error error =>
    refine ⟨world.warnings ++ ["bibliography pass failed: " ++ error.message],
      (c.runBibtex_ends scene world).then_nothing ?_⟩
    rw [went]
    exact .warn .done

/-- A pass gives its log when it succeeds, and only then. -/
theorem result_eq_ok_iff (passes : Nat) (log : List Char) :
    c.result passes = .ok log ↔ c.Succeeds passes ∧ log = c.log passes := by
  unfold result Succeeds
  cases c.outcome passes with
  -- Only a tool that ended with code zero hands its log on.
  | ended code => cases code <;> simp [toolResult, eq_comm]
  | _ => simp [toolResult]

/-- What is done behind a pass that succeeded, before it is seen whether another one follows. -/
theorem bibliography_ends {passes : Nat} (succeeds : c.Succeeds passes) (world : World σ) :
    ∃ warnings,
      (if passes + 1 = 1 ∧ Compiler.usesBibliography c.source then
        c.compiler.bibliographyWarnings c.environment c.folder else pure []).Ends
        c.programs (world.at (c.after passes)) (c.bibliographyCommands passes)
        (c.bibliographyWarnings passes)
        ({ world with warnings }.at (c.before (passes + 1))) := by
  -- The pass before has ended well, as the bibliography demands.
  unfold bibliographyCommands bibliographyWarnings before
  rw [show c.outcome passes = .ended 0 from succeeds]
  -- It is due just behind the first pass, when the source asks for one.
  by_cases due : c.bibliographyDue passes = true
  · have called : passes + 1 = 1 ∧ Compiler.usesBibliography c.source = true := by
      simpa [bibliographyDue] using due
    simp only [due, if_pos called, and_self, if_true]
    exact c.bibliographyWarnings_ends (c.after passes) world
  · have notCalled : ¬ (passes + 1 = 1 ∧ Compiler.usesBibliography c.source = true) := by
      simpa [bibliographyDue] using due
    simp only [due, if_neg notCalled]
    exact ⟨world.warnings, .done⟩

/-- The passes from one on, when the pass fails: it is the last one. -/
theorem passesFrom_ends_of_error {passes : Nat} {error : ConvertError}
    (failed : c.result passes = .error error) (more : Nat) (warned : List String)
    (log : List Char) (world : World σ) :
    (c.compiler.passesFrom c.environment c.program c.folder c.source more
      ⟨passes, warned, log⟩).Ends c.programs (world.at (c.before passes)) [c.engine]
      (.error error) (world.at (c.after passes)) := by
  unfold Compiler.passesFrom
  -- The first pass is the last one.
  refine (c.pass_ends passes world).then_nothing ?_
  rw [failed]
  exact .done

/-- The passes from one on, when the pass succeeds and no other one is called for. -/
theorem passesFrom_ends_of_settled {passes : Nat} (succeeds : c.Succeeds passes) {more : Nat}
    (stops : c.Settles passes ∨ more = 0) (warned : List String) (log : List Char)
    (world : World σ) :
    ∃ warnings,
      (c.compiler.passesFrom c.environment c.program c.folder c.source more
        ⟨passes, warned, log⟩).Ends c.programs (world.at (c.before passes))
        (c.engine :: c.bibliographyCommands passes)
        (.ok ⟨passes + 1, warned ++ c.bibliographyWarnings passes, c.log passes⟩)
        ({ world with warnings }.at (c.before (passes + 1))) := by
  obtain ⟨warnings, bibliography⟩ := c.bibliography_ends succeeds world
  refine ⟨warnings, ?_⟩
  unfold Compiler.passesFrom
  refine (c.pass_ends passes world).bind ?_
  rw [(c.result_eq_ok_iff passes _).mpr ⟨succeeds, rfl⟩]
  -- The bibliography comes between the pass and the question whether there is another.
  refine .of_ite (bibliography.then_nothing ?_)
  -- Either no further pass is allowed, or none is called for.
  cases more with
  | zero => exact .done
  | succ more =>
    obtain ⟨enough, quiet⟩ := stops.resolve_right (Nat.succ_ne_zero more)
    have settled : Compiler.leastRuns c.source ≤ passes + 1 ∧
        (!Log.needsRerun (c.log passes)) = true := by simp [enough, quiet]
    simp only [if_pos settled]
    exact .done

/-- The passes from one on, when the pass succeeds and another one is called for. -/
theorem passesFrom_ends_of_unsettled {passes : Nat} (succeeds : c.Succeeds passes)
    (unsettled : ¬ c.Settles passes) (more : Nat) (warned : List String) (log : List Char)
    (world : World σ) :
    ∃ warnings, ∀ {commands result left},
      (c.compiler.passesFrom c.environment c.program c.folder c.source more
        ⟨passes + 1, warned ++ c.bibliographyWarnings passes, c.log passes⟩).Ends c.programs
        ({ world with warnings }.at (c.before (passes + 1))) commands result left →
      (c.compiler.passesFrom c.environment c.program c.folder c.source (more + 1)
        ⟨passes, warned, log⟩).Ends c.programs (world.at (c.before passes))
        (c.engine :: (c.bibliographyCommands passes ++ commands)) result left := by
  obtain ⟨warnings, bibliography⟩ := c.bibliography_ends succeeds world
  refine ⟨warnings, fun rest => ?_⟩
  rw [Compiler.passesFrom]
  refine (c.pass_ends passes world).bind ?_
  rw [(c.result_eq_ok_iff passes _).mpr ⟨succeeds, rfl⟩]
  -- The bibliography is asked for as in a pass that is the last one.
  refine .of_ite (bibliography.bind ?_)
  -- More passes are allowed, and the condition to stop does not hold.
  have open' : ¬ (Compiler.leastRuns c.source ≤ passes + 1 ∧
      (!Log.needsRerun (c.log passes)) = true) := by
    simpa [Settles] using unsettled
  simp only [if_neg open']
  exact rest

/-- What the passes from one on give when one of them is the last. -/
def passesResult (warned : List String) (first last : Nat) : Except ConvertError Compiler.Passes :=
  (c.result last).map fun log => ⟨last + 1, warned ++ c.bibliographyWarnings first, log⟩

/-- What the last pass leaves; a bibliography behind it counts when the pass succeeds. -/
def leftBy (last : Nat) : Scene σ :=
  match c.result last with
  | .ok _ => c.before (last + 1)
  | .error _ => c.after last

/-- Behind the first pass no bibliography is set. -/
theorem bibliographyWarnings_succ (passes : Nat) : c.bibliographyWarnings (passes + 1) = [] := by
  simp [bibliographyWarnings, bibliographyDue]

/-- Behind the first pass nothing is started for a bibliography. -/
theorem bibliographyCommands_succ (passes : Nat) : c.bibliographyCommands (passes + 1) = [] := by
  simp [bibliographyCommands, bibliographyDue]

/-- A pass that is the last one is the only one from it on. -/
theorem isLast_self {passes more : Nat}
    (ended : c.Succeeds passes → c.Settles passes ∨ more = 0) :
    c.IsLast passes (passes + more) passes where
  reached := Nat.le_refl _
  within := Nat.le_add_right ..
  -- No pass lies before the first one and from it on.
  earlier other reached earlier := absurd (Nat.lt_of_le_of_lt reached earlier) (Nat.lt_irrefl _)
  ended succeeds := (ended succeeds).imp_right fun none => by omega

/-- The last pass behind a pass that calls for another one is the last pass from it on. -/
theorem IsLast.of_succ {passes more last : Nat} (succeeds : c.Succeeds passes)
    (unsettled : ¬ c.Settles passes)
    (isLast : c.IsLast (passes + 1) (passes + 1 + more) last) :
    c.IsLast passes (passes + (more + 1)) last where
  reached := Nat.le_of_succ_le isLast.reached
  within := Nat.le_trans isLast.within (by omega)
  earlier other reached earlier := by
    -- The last pass tells of all earlier ones but the first, which called for another one.
    rcases Nat.eq_or_lt_of_le reached with rfl | later
    · exact ⟨succeeds, unsettled⟩
    · exact isLast.earlier other later earlier
  ended ok := (isLast.ended ok).imp_right fun bound => by omega

/-- The passes from one on, when no pass follows it. -/
theorem passesFrom_ends_here (more : Nat) {passes : Nat}
    (stops : c.Succeeds passes → c.Settles passes ∨ more = 0) (warned : List String)
    (log : List Char) (world : World σ) :
    ∃ warnings,
      (c.compiler.passesFrom c.environment c.program c.folder c.source more
        ⟨passes, warned, log⟩).Ends c.programs (world.at (c.before passes))
        (c.engine :: c.bibliographyCommands passes) (c.passesResult warned passes passes)
        ({ world with warnings }.at (c.leftBy passes)) := by
  unfold passesResult leftBy
  -- A pass that fails is the last one, and one that succeeds goes on to the bibliography.
  by_cases succeeds : c.Succeeds passes
  · rw [(c.result_eq_ok_iff passes _).mpr ⟨succeeds, rfl⟩]
    exact passesFrom_ends_of_settled succeeds (stops succeeds) warned log world
  · have nothing : c.bibliographyCommands passes = [] := if_neg fun due => succeeds due.1
    cases failed : c.result passes with
    | ok log => exact absurd ((c.result_eq_ok_iff passes log).mp failed).1 succeeds
    | error error =>
      rw [nothing]
      -- No bibliography is due behind a pass that failed.
      exact ⟨world.warnings, passesFrom_ends_of_error failed more warned log world⟩

/-- No pass comes behind one that is the last. -/
theorem IsLast.le {first bound last other : Nat} (isLast : c.IsLast first bound last)
    (also : c.IsLast first bound other) : other ≤ last := by
  refine Nat.le_of_not_lt fun later => ?_
  -- The pass calls for another one, so it is as late as a pass may be, and yet one follows.
  obtain ⟨succeeds, unsettled⟩ := also.earlier last isLast.reached later
  have bounded := (isLast.ended succeeds).resolve_left unsettled
  exact absurd also.within (by omega)

/-- Only one pass is the last. -/
theorem IsLast.unique {first bound last other : Nat} (isLast : c.IsLast first bound last)
    (also : c.IsLast first bound other) : last = other :=
  Nat.le_antisymm (also.le isLast) (isLast.le also)

/--
The passes from one on: the engine is started once for each of them, up to the last, with the
program for bibliographies behind the first pass over the source.
-/
theorem passesFrom_ends (more passes : Nat) (warned : List String) (log : List Char)
    (world : World σ) :
    ∃ last warnings, c.IsLast passes (passes + more) last ∧
      (c.compiler.passesFrom c.environment c.program c.folder c.source more
        ⟨passes, warned, log⟩).Ends c.programs (world.at (c.before passes))
        (c.engine :: (c.bibliographyCommands passes ++ List.replicate (last - passes) c.engine))
        (c.passesResult warned passes last)
        ({ world with warnings }.at (c.leftBy last)) := by
  -- The number of passes that may follow falls with every pass.
  induction more generalizing passes warned log world with
  -- With no pass left the one that is run is the last.
  | zero =>
    obtain ⟨warnings, ends⟩ := c.passesFrom_ends_here 0 (fun _ => .inr rfl) warned log world
    exact ⟨passes, warnings, isLast_self fun _ => .inr rfl, by simpa using ends⟩
  | succ more ih =>
    by_cases stops : c.Succeeds passes → c.Settles passes
    · obtain ⟨warnings, ends⟩ := c.passesFrom_ends_here (more + 1)
        (fun succeeds => .inl (stops succeeds)) warned log world
      exact ⟨passes, warnings, isLast_self fun succeeds => .inl (stops succeeds),
        by simpa using ends⟩
    · obtain ⟨succeeds, unsettled⟩ := Classical.not_imp.mp stops
      obtain ⟨warnings, goesOn⟩ :=
        passesFrom_ends_of_unsettled succeeds unsettled more warned log world
      obtain ⟨last, later, isLast, ends⟩ := ih (passes + 1)
        (warned ++ c.bibliographyWarnings passes) (c.log passes) { world with warnings }
      -- The engine is started once more in front of the passes that follow.
      have count : last - passes = last - (passes + 1) + 1 := by
        have reached := isLast.reached
        omega
      -- The bibliography was due before, if it was due at all.
      have result : c.passesResult (warned ++ c.bibliographyWarnings passes) (passes + 1) last =
          c.passesResult warned passes last := by
        simp [passesResult, bibliographyWarnings_succ]
      rw [bibliographyCommands_succ, List.nil_append, result, ← List.replicate_succ, ← count]
        at ends
      exact ⟨last, later, isLast.of_succ succeeds unsettled, goesOn ends⟩

/-- The PDF file is looked for behind a last pass that succeeded. -/
theorem readPdf_ends (last : Nat) (world : World σ) :
    (c.compiler.readPdf c.folder (c.passesResult [] 0 last)).Ends c.programs
      (world.at (c.leftBy last)) [] (c.reportOf last) (world.at (c.leftBy last)) := by
  unfold passesResult reportOf leftBy
  -- Only after passes that succeeded there is a PDF to be read.
  cases c.result last with
  | error error => exact .done
  | ok log => exact .read .done

/-- A source that is written to its folder is passed over up to the last pass. -/
theorem reportIn_ends (world : World σ) {files : Files}
    (written : world.files.write (Compiler.jobFile c.folder "tex") (Utf8.encode c.source) =
      .ok files) (start : c.start = (files, world.memory)) :
    ∃ last, c.IsLast 0 (max c.compiler.runs (Compiler.leastRuns c.source) - 1) last ∧
      ∃ left, (c.compiler.reportIn c.environment c.program c.source c.folder).Ends c.programs world
        (c.engine :: (c.bibliographyCommands 0 ++ List.replicate last c.engine))
        (c.reportOf last) left := by
  -- The world in which the passes start is the one with the source written to it.
  obtain ⟨last, warnings, isLast, passes⟩ := c.passesFrom_ends
    (max c.compiler.runs (Compiler.leastRuns c.source) - 1) 0 [] [] world
  rw [Nat.zero_add] at isLast
  rw [show world.at (c.before 0) = { world with files } by rw [before, start]; rfl] at passes
  exact ⟨last, isLast, _, .write written
    (passes.then_nothing (c.readPdf_ends last { world with warnings }))⟩

end Steps

end Compilation

/--
Making a PDF file, whatever the programs do. Without an engine, without a folder, or without the
source in its folder, nothing is started. Otherwise the engine is started once for each pass up to
the last one, with the program for bibliographies behind the first, and the last pass decides what
comes of the source.
-/
theorem Compiler.report_ends {σ : Type} (programs : Programs σ) (compiler : Compiler)
    (environment : Environment) (source : String) (world : World σ) :
    match compiler.findEngine environment with
    | .error error =>
      (compiler.report environment source).Ends programs world [] (.error error) world
    | .ok program =>
      match world.files.newTemporary with
      | .error fault =>
        (compiler.report environment source).Ends programs world []
          (.error (.compile (temporaryReason fault))) world
      | .ok (location, opened) =>
        let folder := location.path
        let file := jobFile folder "tex"
        match opened.write file (Utf8.encode source) with
        | .error fault =>
          ∃ left, (compiler.report environment source).Ends programs world []
            (.error (.io file fault.message)) left
        | .ok files =>
          let c : Compilation σ :=
            { programs, compiler, environment, program, folder, source,
              start := (files, world.memory) }
          ∃ last, c.IsLast 0 (max compiler.runs (leastRuns source) - 1) last ∧
            ∃ left, (compiler.report environment source).Ends programs world
              (c.engine :: (c.bibliographyCommands 0 ++ List.replicate last c.engine))
              (c.reportOf last) left := by
  unfold report
  -- Without an engine, a folder, and the source in it, the work ends before the first pass.
  cases compiler.findEngine environment with
  | error error => exact .done
  | ok program =>
    dsimp only
    cases made : world.files.newTemporary with
    | error fault => exact Task.Ends.inTemporary_fault made .done
    | ok folder =>
      obtain ⟨location, opened⟩ := folder
      dsimp only
      cases written : opened.write (jobFile location.path "tex") (Utf8.encode source) with
      | error fault => exact Task.Ends.inTemporary made (.write_fault written .done)
      | ok files =>
        let c : Compilation σ :=
          { programs, compiler, environment, program, folder := location.path, source,
            start := (files, world.memory) }
        -- With the source written, all that is left is the work in the folder.
        obtain ⟨last, isLast, left, ends⟩ := c.reportIn_ends { world with files := opened } written rfl
        exact ⟨last, isLast, Task.Ends.inTemporary made ends⟩

/-- An engine that counts its passes: the log of the third one asks for another, and that of the
fourth holds a warning. Any other program ends with the code 2. -/
def countingPrograms : Programs Nat := fun command files passes =>
  if command.program = .ofString "engine" then
    let log := if passes = 2 then "Rerun LaTeX" else "LaTeX Warning: a"
    let job := Compiler.jobFile (.ofString "/tmp/.tmp0")
    let logged := (files.write (job "log") (Utf8.encode log)).toOption.getD files
    (.ended 0, (logged.write (job "pdf") [passes.toUInt8]).toOption.getD logged, passes + 1)
  else (.ended 2, files, passes)

/-- A source with a bibliography in its folder, before the first pass over it. -/
def countingCompilation : Compilation Nat where
  programs := countingPrograms
  compiler :=
    { runs := 7, binary? := some (.ofString "engine"), bibtex? := some (.ofString "bibtex") }
  environment := { valueOf := fun _ => none, programAt := fun _ => none }
  program := .ofString "engine"
  folder := Location.path ["tmp".toList, ".tmp0".toList]
  source := "\\bibliography\x7brefs\x7d"
  start :=
    ({ entries :=
        [(["tmp".toList], .folder), (["tmp".toList, ".tmp0".toList], .folder),
         (["tmp".toList, ".tmp0".toList, "document.tex".toList],
            .file (Utf8.encode "\\bibliography\x7brefs\x7d"))] }, 0)

/-- A source with a bibliography is passed over until its log asks for no further pass, and what went
wrong with the bibliography comes before the warnings of the last log. -/
theorem Compiler.report_ends_counting :
    let c := countingCompilation
    let bibtex := c.compiler.bibtexCommand (.ofString "bibtex") c.folder ⟨['/']⟩
    let warnings := ["bibtex: Compile error: bibtex failed (exit status: 2)", "LaTeX Warning: a"]
    ∃ left, (c.compiler.report c.environment c.source).Ends c.programs ⟨{}, 0, []⟩
      [c.engine, bibtex, c.engine, c.engine, c.engine] (.ok ⟨[3], 4, warnings⟩) left := by
  intro c bibtex warnings
  -- The engine is found, and folder and source can be made.
  have found : c.compiler.findEngine c.environment = .ok c.program := rfl
  have made : Files.newTemporary {} = .ok (["tmp".toList, ".tmp0".toList],
      { entries := [(["tmp".toList], .folder), (["tmp".toList, ".tmp0".toList], .folder)] }) := rfl
  have written : Files.write
      { entries := [(["tmp".toList], .folder), (["tmp".toList, ".tmp0".toList], .folder)] }
      (jobFile (Location.path ["tmp".toList, ".tmp0".toList]) "tex") (Utf8.encode c.source) =
        .ok c.start.1 := rfl
  -- A world that is given by an equation is not computed with before it has to be.
  obtain ⟨world, start⟩ : ∃ world : World Nat, world = ⟨{}, 0, []⟩ := ⟨_, rfl⟩
  have ended := report_ends c.programs c.compiler c.environment c.source world
  simp only [start, found, made, written] at ended
  obtain ⟨last, isLast, left, ends⟩ := ended
  -- The third pass would have been enough for the bibliography, but its log asks for another one.
  have fourth : c.IsLast 0 (max c.compiler.runs (leastRuns c.source) - 1) 3 :=
    { reached := by decide
      within := by decide +kernel
      earlier := fun passes _ before => by
        have each : ∀ passes < 3, c.outcome passes = .ended 0 ∧
            (leastRuns c.source ≤ passes + 1 → Log.needsRerun (c.log passes) = true) := by
          decide +kernel
        obtain ⟨succeeds, more⟩ := each passes before
        exact ⟨succeeds, fun settles => Bool.false_ne_true (settles.2.symm.trans (more settles.1))⟩
      ended := fun _ => .inl ⟨by decide +kernel, by decide +kernel⟩ }
  obtain rfl : last = 3 := Compilation.IsLast.unique isLast fourth
  have called : c.bibliographyCommands 0 = [bibtex] := by decide +kernel
  -- The report is that of the last pass, with the warnings of the bibliography in it.
  have reported : (c.reportOf 3).toOption = some ⟨[3], 4, warnings⟩ := by decide +kernel
  cases result : c.reportOf 3 with
  | error error =>
    rw [result] at reported
    cases reported
  | ok report =>
    rw [result] at reported
    obtain rfl : report = _ := Option.some.inj reported
    change Task.Ends _ _ _ (c.engine :: (c.bibliographyCommands 0 ++ List.replicate 3 c.engine))
      (c.reportOf 3) left at ends
    rw [called, result] at ends
    exact ⟨left, ends⟩

end Manuscript

import Manuscript.Latex.Log
import Manuscript.Tools

/-!
Making a PDF file of a LaTeX source. The engine passes over the source until its log asks for no
further pass, or until a bound is reached; a bibliography is set behind the first pass.
-/

namespace Manuscript

/-- How PDF files are made. -/
structure Compiler where
  /-- The engine. -/
  engine : LatexEngine := .standard
  /-- How many passes there may be. -/
  runs : Nat := 2
  /-- How long a pass may take. -/
  limit : Duration := .ofSeconds 120
  /-- The program of the engine, when it is not to be looked for. -/
  binary? : Option Path := none
  /-- The program for bibliographies, when it is not to be looked for. -/
  bibtex? : Option Path := none
  /-- The folder that the engine works in, when it is not the current one. -/
  workingFolder? : Option Path := none
  deriving DecidableEq

/-- What a pass over a source left. -/
structure CompileReport where
  /-- The PDF file. -/
  pdf : Bytes
  /-- How many passes there were. -/
  runs : Nat
  /-- The warnings of the last log, behind what went wrong with the bibliography. -/
  warnings : List String
  deriving DecidableEq

namespace Compiler

/-- The compiler with a bound on its passes; there is one at least. -/
def withRuns (compiler : Compiler) (runs : Nat) : Compiler := { compiler with runs := max runs 1 }

/-- The variable that names the program of the engine. -/
def engineVariable : String := "MDTEX_LATEX_BIN"

/-- The variable that names the program for bibliographies. -/
def bibtexVariable : String := "MDTEX_BIBTEX_BIN"

/-- The name of the program for bibliographies. -/
def bibtexName : String := "bibtex"

/-- What the files of a source are called. -/
def jobName : String := "document"

/-- A file of the source in a folder. -/
def jobFile (folder : Path) (extension : String) : Path :=
  folder.join (.ofString (jobName ++ "." ++ extension))

/-- A source calls for a bibliography. -/
def usesBibliography (source : String) : Bool := occursIn "\\bibliography\x7b".toList source.toList

/-- How many passes a bibliography takes: before it, behind it, and one for references. -/
def bibliographyRuns : Nat := 3

/-- How many passes a source takes at least. -/
def leastRuns (source : String) : Nat := if usesBibliography source then bibliographyRuns else 1

/-- A source calls for a bibliography when the command for one stands somewhere in it. -/
theorem usesBibliography_iff {source : String} :
    usesBibliography source = true ↔ "\\bibliography\x7b".toList <:+: source.toList :=
  occursIn_iff ..

/-- A source takes three passes at least when the command for a bibliography stands in it, and
otherwise one. -/
theorem leastRuns_cases (source : String) :
    ("\\bibliography\x7b".toList <:+: source.toList ∧ leastRuns source = 3) ∨
      (¬"\\bibliography\x7b".toList <:+: source.toList ∧ leastRuns source = 1) := by
  rw [← usesBibliography_iff]
  unfold leastRuns
  by_cases uses : usesBibliography source = true
  · exact .inl ⟨uses, if_pos uses⟩
  · exact .inr ⟨uses, if_neg uses⟩

/-- The program of the engine. -/
def findEngine (compiler : Compiler) (environment : Environment) : Except ConvertError Path :=
  -- What was chosen counts before what is set, and that before what is found.
  match (compiler.binary?.or (environment.path? engineVariable)).or
      (environment.programAt compiler.engine.name) with
  | some path => .ok path
  | none =>
    .error (.compile (compiler.engine.name ++
      " not found on PATH; install a TeX distribution or set " ++ engineVariable))

/-- The program for bibliographies. -/
def findBibtex (compiler : Compiler) (environment : Environment) : Except ConvertError Path :=
  match (compiler.bibtex?.or (environment.path? bibtexVariable)).or
      (environment.programAt bibtexName) with
  | some path => .ok path
  | none => .error (.compile (bibtexName ++ " not found on PATH; set " ++ bibtexVariable))

/-- The call of the engine for one pass. -/
def engineCommand (compiler : Compiler) (program folder : Path) : Command where
  program := program
  arguments :=
    ["-interaction=nonstopmode", "-halt-on-error", "-output-directory=" ++ folder.text,
     (jobFile folder "tex").text]
  folder? := compiler.workingFolder?
  limit := compiler.limit

/-- The folders that bibliographies are looked for in, if a list of folders can name them. -/
def bibliographyFolders (folder : Path) : List (String × String) :=
  -- Colons set the folders apart; behind the last one follow those that are searched anyway.
  if folder.chars.contains ':' then [] else [("BIBINPUTS", folder.text ++ ":")]

/-- The call of the program for bibliographies. -/
def bibtexCommand (compiler : Compiler) (program folder current : Path) : Command where
  program := program
  arguments := [jobName]
  folder? := some folder
  -- The program starts in the folder of the source, so that the other one is named from the root.
  environment := bibliographyFolders ((compiler.workingFolder?.map current.join).getD current)
  limit := compiler.limit

/-- Sets the bibliography. -/
def runBibtex (compiler : Compiler) (environment : Environment) (folder : Path) :
    Task (Except ConvertError Unit) :=
  match compiler.findBibtex environment with
  | .error error => .done (.error error)
  | .ok program =>
    .current fun current => do
      match ← runTool bibtexName (compiler.bibtexCommand program folder current) with
      | .error error => return .error error
      | .ok (.exited 0) => return .ok ()
      | .ok status => return .error (.compile (bibtexName ++ " failed (" ++ status.text ++ ")"))

/-- The log of a pass; there is none if the engine wrote none. -/
def readLog (folder : Path) : Task (List Char) :=
  .read (jobFile folder "log") fun answer =>
    .done <|
      match answer with
      | .ok content => Log.charactersOf content
      | .error _ => []

/-- One pass of the engine, and its log. -/
def pass (compiler : Compiler) (program folder : Path) :
    Task (Except ConvertError (List Char)) := do
  match ← runTool compiler.engine.name (compiler.engineCommand program folder) with
  | .error error => return .error error
  | .ok status =>
    let log ← readLog folder
    -- The log is read in any case, as it tells why a pass failed.
    if status = .exited 0 then return .ok log
    else return .error (.compile (Log.failureSummary compiler.engine log))

/-- The bibliography behind the first pass; what goes wrong with it is a warning. -/
def bibliographyWarnings (compiler : Compiler) (environment : Environment) (folder : Path) :
    Task (List String) := do
  match ← compiler.runBibtex environment folder with
  | .ok () => return []
  | .error error =>
    -- The warning is given at once, and is kept for the report.
    .warn ("bibliography pass failed: " ++ error.message)
      (.done [bibtexName ++ ": " ++ error.message])

/-- What is left of the passes over a source: their number, warnings so far, and the last log. -/
structure Passes where
  runs : Nat
  warnings : List String
  log : List Char

/-- The passes from one on. As many more as given may follow it. -/
def passesFrom (compiler : Compiler) (environment : Environment) (program folder : Path)
    (source : String) : Nat → Passes → Task (Except ConvertError Passes)
  | more, before => do
    match ← compiler.pass program folder with
    | .error error => return .error error
    | .ok log =>
      let runs := before.runs + 1
      let added ←
        -- The first pass writes what the bibliography is made of.
        if runs = 1 ∧ usesBibliography source then compiler.bibliographyWarnings environment folder
        else pure []
      let after : Passes := ⟨runs, before.warnings ++ added, log⟩
      match more with
      | 0 => return .ok after
      | more + 1 =>
        -- Once there were enough passes, the log decides about a further one.
        if leastRuns source ≤ runs ∧ !Log.needsRerun log then return .ok after
        else passesFrom compiler environment program folder source more after

/-- What the passes over a source made, if they came to an end. -/
def readPdf (compiler : Compiler) (folder : Path) :
    Except ConvertError Passes → Task (Except ConvertError CompileReport)
  | .error error => .done (.error error)
  | .ok passes =>
    .read (jobFile folder "pdf") fun answer =>
      .done <|
        match answer with
        | .error _ =>
          .error (.compile (compiler.engine.name ++ " finished without producing a PDF"))
        | .ok pdf => .ok ⟨pdf, passes.runs, passes.warnings ++ Log.warnings passes.log⟩

/-- The PDF file of a source that is written to a folder first. -/
def reportIn (compiler : Compiler) (environment : Environment) (program : Path) (source : String)
    (folder : Path) : Task (Except ConvertError CompileReport) :=
  let file := jobFile folder "tex"
  .write file (Utf8.encode source) fun written =>
    match written with
    | .error fault => .done (.error (.io file fault.message))
    | .ok () => do
      -- A bibliography takes its passes even where fewer are allowed.
      let most := max compiler.runs (leastRuns source)
      -- The first pass is not among those that may follow it.
      readPdf compiler folder
        (← compiler.passesFrom environment program folder source (most - 1) ⟨0, [], []⟩)

/-- What is said when no temporary folder can be made. -/
def temporaryReason (fault : FileFault) : String := "Temp dir error: " ++ fault.message

/-- The PDF file of a source, and how it was made. -/
def report (compiler : Compiler) (environment : Environment) (source : String) :
    Task (Except ConvertError CompileReport) :=
  match compiler.findEngine environment with
  | .error error => .done (.error error)
  | .ok program =>
    Task.inTemporary (fun fault => .done (.error (.compile (temporaryReason fault))))
      (compiler.reportIn environment program source)

/-- Makes the PDF file of a source and writes it to a path. -/
def reportTo (compiler : Compiler) (environment : Environment) (source : String) (path : Path) :
    Task (Except ConvertError CompileReport) := do
  match ← compiler.report environment source with
  | .error error => return .error error
  | .ok report =>
    match ← Task.writeFile path report.pdf with
    | .error error => return .error error
    | .ok _ => return .ok report

end Compiler

end Manuscript

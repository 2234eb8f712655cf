import Manuscript.CommandLine.Response

/-! The program: it runs the answer to its arguments on the files that there are. -/

namespace Manuscript.Outside

/-- The code of an error about a folder where a file is wanted. -/
def isFolderCode : UInt32 := 21

/-- The fault behind an error. -/
def faultOf : IO.Error → FileFault
  | .noFileOrDirectory .. => .missing
  | .alreadyExists .. => .present
  | .permissionDenied .. => .denied
  | .inappropriateType _ code _ =>
    if code = isFolderCode then .isFolder else .notFolder
  | error => .unknown (toString error)

/-- Does something, and answers with its result or the fault. -/
def attempt {α : Type} (action : IO α) : IO (Except FileFault α) := do
  try return .ok (← action)
  catch error => return .error (faultOf error)

/-- What is said of programs, none of which can be started from here. -/
def unstartedReason : String := "programs cannot be started"

/-- Runs a task; each request is answered by what there is. -/
def run {α : Type} : Manuscript.Task α → IO α
  | .done result => return result
  | .warn text next => do
    IO.eprintln ("WARN " ++ text)
    run next
  | .find path next => do
    let here ← IO.currentDir
    -- A file that cannot be opened is told from one that is not there.
    let target := here / path.text
    let answer ← attempt do
      if ← target.isDir then return EntryKind.folder
      else
        let _ ← IO.FS.withFile target .read fun _ => return ()
        return EntryKind.file
    run (next answer)
  | .read path next => do
    run (next ((← attempt (IO.FS.readBinFile path.text)).map (·.toList)))
  | .write path content next => do
    run (next (← attempt (IO.FS.writeBinFile path.text ⟨content.toArray⟩)))
  | .makeFolder path next => do run (next (← attempt (IO.FS.createDir path.text)))
  | .list path next => do
    let here ← IO.currentDir
    let answer ← attempt (here / path.text).readDir
    run (next (answer.map fun found => found.toList.map fun entry => entry.fileName.toList))
  | .current next => do run (next (Path.ofString (← IO.currentDir).toString))
  | .makeTemporary next => do
    run (next ((← attempt IO.FS.createTempDir).map fun folder => Path.ofString folder.toString))
  | .removeTemporary path next => do
    let _ ← attempt (IO.FS.removeDirAll path.text)
    run next
  | .start _ next => run (next (.unstarted (.unknown unstartedReason)))

end Manuscript.Outside

open Manuscript in
/-- Answers the arguments, and prints what there is to print. -/
def main (arguments : List String) : IO UInt32 := do
  let engine ← IO.getEnv Compiler.engineVariable
  let bibtex ← IO.getEnv Compiler.bibtexVariable
  let environment : Environment :=
    { valueOf := fun key =>
        if key = Compiler.engineVariable then engine
        else if key = Compiler.bibtexVariable then bibtex else none
      programAt := fun _ => none }
  let response ← Outside.run (CommandLine.respond environment arguments)
  IO.print response.output
  IO.eprint response.errors
  return response.code.toUInt32

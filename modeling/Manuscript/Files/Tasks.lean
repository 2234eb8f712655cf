import Manuscript.Error
import Manuscript.Task

/-! Work on files that takes several requests: texts, and folders that are made where needed. -/

namespace Manuscript

namespace Task

/-- Something is there. -/
def isPresent (path : Path) : Task Bool := .find path fun answer => .done answer.isOk

/-- A file is there. -/
def isFile (path : Path) : Task Bool :=
  .find path fun answer => .done (answer.toOption = some .file)

/-- A folder is there. -/
def isFolder (path : Path) : Task Bool :=
  .find path fun answer => .done (answer.toOption = some .folder)

/-- What is said of bytes that are no text. -/
def notText : String := "stream did not contain valid UTF-8"

/-- The text of a file, or why there is none. -/
def readText (path : Path) : Task (Except String String) :=
  .read path fun answer =>
    .done <|
      match answer with
      | .error fault => .error fault.message
      | .ok content =>
        match Utf8.decode? content with
        | some text => .ok text
        | none => .error notText

/-- Makes a folder and the folders around it; the bound limits how many there may be. -/
def makeFoldersWithin : Nat → Path → Task (Except FileFault Unit)
  | 0, _ => .done (.ok ())
  | bound + 1, path =>
    if path.chars = [] then .done (.ok ())
    else
      -- A folder that is there already is as good as a new one.
      let orPresent (fault : FileFault) : Task (Except FileFault Unit) := do
        if ← isFolder path then return .ok () else return .error fault
      .makeFolder path fun answer =>
        match answer with
        | .ok () => .done (.ok ())
        -- The folder around it is made first, and then this one is tried again.
        | .error .missing =>
          match path.parent? with
          -- Nothing is around the root.
          | none => .done (.error (.unknown "failed to create whole tree"))
          | some parent => do
            match ← makeFoldersWithin bound parent with
            | .error fault => return .error fault
            | .ok () =>
              .makeFolder path fun again =>
                match again with
                | .ok () => .done (.ok ())
                | .error fault => orPresent fault
        | .error fault => orPresent fault

/-- Makes a folder and the folders around it, where they are not there. -/
def makeFolders (path : Path) : Task (Except FileFault Unit) :=
  makeFoldersWithin (path.chars.length + 1) path

/-- Makes the folder that a file is to stand in. -/
def makeRoomFor (path : Path) : Task (Except ConvertError Unit) :=
  match path.folder? with
  | none => .done (.ok ())
  | some folder => do
    return (← makeFolders folder).mapError fun fault => .io folder fault.message

/-- Writes a file, in folders that are made where needed. -/
def writeFile (path : Path) (content : Bytes) : Task (Except ConvertError Path) := do
  match ← makeRoomFor path with
  | .error error => return .error error
  | .ok () =>
    .write path content fun answer =>
      .done ((answer.map fun () => path).mapError fun fault => .io path fault.message)

end Task

end Manuscript

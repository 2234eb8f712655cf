import Manuscript.Proofs.Task.Tells
import Manuscript.Settings.Loader

/-!
Files of settings laid over each other: which file a name stands for, what it sets, and what all of
them set together, in whatever order their tables are gone through. Looking at them tells no warning.
-/

namespace Manuscript

open Config

/-- The assignments that members make: what spells no key is a name as it is. -/
def assignmentsOf (members : Members) : List (Key × Value) :=
  members.map fun member => ((Key.ofText? member.1).getD (.name member.1), member.2)

/-- Assignments made one after another. -/
def assignAll (assignments : List (Key × Value)) (root : Value) : Value :=
  assignments.foldl (fun acc entry => entry.1.set acc entry.2) root

/-- Members that are set make their assignments. -/
theorem setAll_eq_assignAll (root : Value) (members : Members) :
    setAll root members = assignAll (assignmentsOf members) root := by
  rw [setAll, assignAll, assignmentsOf, List.foldl_map]

/-- Assignments are made behind others. -/
theorem assignAll_append (first second : List (Key × Value)) (root : Value) :
    assignAll (first ++ second) root = assignAll second (assignAll first root) :=
  List.foldl_append

/-- No members are in any order. -/
theorem arranged_nil (order : EntryOrder String Value) : Members.arranged order [] = [] :=
  (order.perm _).eq_nil

namespace Files

variable (order : EntryOrder String Value)

/-- A file is at a path. -/
def isFileAt (files : Files) (path : Path) : Bool :=
  (files.kind path).toOption = some .file

/-- The file of settings that a name stands for; the extension may be left out. -/
def settingsFile? (files : Files) (name : Path) : Option Path :=
  if files.isFileAt (files.current.path.join name) then some (files.current.path.join name)
  else if files.isFileAt (withMore (files.current.path.join name) "toml") then
    some (withMore (files.current.path.join name) "toml")
  else none

/-- The members that a file of some bytes sets; a file that is no text counts as missing. -/
def membersOf : Except FileFault Bytes → Except SourceFault Members
  | .error _ => .error .missing
  | .ok content =>
    match Utf8.decode? content with
    | none => .error .missing
    | some text =>
      match Toml.read? text.toList with
      | some members => .ok members
      | none => .error .malformed

/-- The members that the file of a name sets. -/
@[irreducible]
def membersAt (files : Files) (name : Path) : Except SourceFault Members :=
  match files.settingsFile? name with
  | none => .error .missing
  | some path => membersOf (files.read path)

/-- The members that a layer sets; a file that may be missing then sets none. -/
def layerAt (files : Files) (layer : Layer) : Except SettingsFault Members :=
  match files.membersAt layer.path with
  | .ok members => .ok members
  | .error .malformed => .error (.malformed layer.path.text)
  | .error .missing => if layer.required then .error (.missing layer.path.text) else .ok []

/-- Layers laid over a value one after another. -/
def laid (files : Files) : List Layer → Value → Except SettingsFault Value
  | [], root => .ok root
  | layer :: rest, root =>
    match files.layerAt layer with
    | .error fault => .error fault
    | .ok members => files.laid rest (setAll root (members.arranged order))

/-- The first layer is laid before the others. -/
theorem laid_cons (files : Files) (layer : Layer) (rest : List Layer) (root : Value) :
    files.laid order (layer :: rest) root =
      match files.layerAt layer with
      | .error fault => .error fault
      | .ok members => files.laid order rest (setAll root (members.arranged order)) := rfl

/-- The members of the file of a name, none if there is no such file. -/
def setAt (files : Files) (name : Path) : Members := (files.membersAt name).toOption.getD []

variable {files : Files} {order}

/-- When layers are laid over a value, their assignments are made one after another. -/
theorem laid_eq_ok {layers : List Layer} {root top : Value}
    (done : files.laid order layers root = .ok top) :
    top = assignAll
      (layers.map fun layer => assignmentsOf ((files.setAt layer.path).arranged order)).flatten
        root := by
  -- Each layer is laid over what the ones before it left.
  induction layers generalizing root with
  | nil => exact (Except.ok.inj done).symm
  | cons layer rest ih =>
    rw [laid_cons] at done
    split at done
    · -- A layer that cannot be read ends the laying.
      cases done
    · rename_i members read
      -- A layer has the members of its file, or none when the file may be missing and is.
      have set : files.setAt layer.path = members := by
        unfold layerAt at read
        unfold setAt
        split at read
        · rename_i held found
          cases read
          rw [found]
          rfl
        · cases read
        · rename_i found
          split at read
          · cases read
          · cases read
            rw [found]
            rfl
      -- What one layer assigns comes before what all others do.
      rw [ih done, List.map_cons, List.flatten_cons, assignAll_append, set, setAll_eq_assignAll]

/-- A file that has to be there and is missing is a fault. -/
theorem laid_of_missing {path : Path} (missing : files.membersAt path = .error .missing)
    {layers : List Layer} (member : ⟨path, true⟩ ∈ layers) (root : Value) :
    ∃ fault, files.laid order layers root = .error fault := by
  induction layers generalizing root with
  | nil => cases member
  | cons first rest ih =>
    rw [laid_cons]
    -- The layers before it may fail for reasons of their own, and otherwise this one does.
    cases read : files.layerAt first with
    | error fault => exact ⟨fault, rfl⟩
    | ok members =>
      rcases List.mem_cons.mp member with rfl | later
      · simp [layerAt, missing] at read
      · exact ih later _

/-- A file that may be missing and is missing changes nothing. -/
theorem laid_of_absent {path : Path} (missing : files.membersAt path = .error .missing)
    (before after : List Layer) (root : Value) :
    files.laid order (before ++ ⟨path, false⟩ :: after) root =
      files.laid order (before ++ after) root := by
  induction before generalizing root with
  | nil =>
    have none : files.layerAt ⟨path, false⟩ = .ok [] := by simp [layerAt, missing]
    rw [List.nil_append, laid_cons, none]
    dsimp only
    rw [arranged_nil]
    rfl
  | cons first before ih =>
    -- What is laid in front comes to the same value or to the same fault.
    rw [List.cons_append, List.cons_append, laid_cons, laid_cons]
    simp only [ih]

end Files

section Layers

variable {σ : Type} {programs : Programs σ} {files : Files}

/-- The file of a name is looked for without a warning. -/
theorem tells_find? (name : Path) :
    (find? (some .toml) name).Tells programs files
      ((files.settingsFile? name).map fun path => (path, .toml)) [] := by
  -- The name is looked for as it is, and then with the extension behind it.
  refine Task.Tells.bind_silent (.current (Task.tells_done _)) ?_
  refine Task.Tells.bind_silent (Task.tells_isFile _) ?_
  change (if files.isFileAt _ = true then _ else _ : Task _).Tells _ _ _ _
  unfold Files.settingsFile?
  by_cases here : files.isFileAt (files.current.path.join name) = true
  · rw [if_pos here, if_pos here]
    exact Task.tells_done _
  rw [if_neg here, if_neg here]
  -- Only one extension is tried.
  refine Task.Tells.bind_silent (Task.tells_isFile _) ?_
  change (if files.isFileAt _ = true then _ else _ : Task _).Tells _ _ _ _
  by_cases more : files.isFileAt (withMore (files.current.path.join name) "toml") = true
  · rw [if_pos more, if_pos more]
    exact Task.tells_done _
  · rw [if_neg more, if_neg more]
    exact Task.tells_done _

/-- A file is read without a warning. -/
theorem tells_readFile (name : Path) :
    (readFile (some .toml) name).Tells programs files (files.membersAt name) [] := by
  -- Only answers are passed on here, however the search and the reading end.
  refine Task.Tells.bind_silent (tells_find? name) ?_
  unfold Files.membersAt
  -- A name that is not found is no reading at all.
  cases files.settingsFile? name with
  | none => exact Task.tells_done _
  | some path =>
    refine Task.Tells.bind_silent (.read (Task.tells_done _)) ?_
    dsimp only
    generalize files.read path = held
    -- What is read has to be text, and the text has to be a table.
    cases held with
    | error fault => exact Task.tells_done _
    | ok content =>
      simp only [Files.membersOf]
      cases Utf8.decode? content with
      | none => exact Task.tells_done _
      | some text =>
        simp only [Format.read?]
        cases Toml.read? text.toList with
        | none => exact Task.tells_done _
        | some members => exact Task.tells_done _

/-- A layer is read without a warning. -/
theorem tells_readLayer (layer : Layer) :
    (Loader.readLayer layer).Tells programs files (files.layerAt layer) [] := by
  -- Reading the file tells nothing, and nor does what is made of it.
  refine Task.Tells.bind_silent (tells_readFile layer.path) ?_
  unfold Files.layerAt
  generalize files.membersAt layer.path = held
  rcases held with (_ | _) | members
  · exact Task.tells_done _
  · exact Task.tells_done _
  · exact Task.tells_done _

/-- Layers are laid over a value without a warning. -/
theorem tells_layLayers (order : EntryOrder String Value) (layers : List Layer) (root : Value) :
    (Loader.layLayers order layers root).Tells programs files (files.laid order layers root) [] := by
  -- Layer by layer, until one of them fails.
  induction layers generalizing root with
  | nil => exact Task.tells_done _
  | cons layer rest ih =>
    refine Task.Tells.bind_silent (tells_readLayer layer) ?_
    rw [Files.laid_cons]
    cases files.layerAt layer with
    | error fault => exact Task.tells_done _
    | ok members => exact ih _

/-- The assignments that a loader makes over all files, in an order. -/
def Loader.assignments (loader : Loader) (order : LayingOrder) : List (Key × Value) :=
  (order.overrides.arrange loader.overrides.entries).map fun entry =>
    (entry.1, entry.2.arranged order.tables)

/-- The settings that a loader puts together on some files. -/
def Loader.settingsOn (loader : Loader) (order : LayingOrder) (files : Files) :
    Except SettingsFault Settings :=
  let start := setAll (.table []) (Loader.standardMembers.arranged order.tables)
  (files.laid order.tables loader.layers start).bind fun root =>
    Settings.ofValue (assignAll (loader.assignments order) root)

/-- Settings are put together without a warning. -/
theorem tells_build (loader : Loader) (order : LayingOrder) :
    (loader.build order).Tells programs files (loader.settingsOn order files) [] := by
  refine Task.Tells.bind_silent (tells_layLayers _ _ _) ?_
  unfold Loader.settingsOn Loader.assignments assignAll
  simp only [List.foldl_map]
  -- A fault in a layer is the outcome; otherwise the overrides come on top.
  cases files.laid order.tables loader.layers _ with
  | error fault => exact Task.tells_done _
  | ok root => exact Task.tells_done _

end Layers

end Manuscript

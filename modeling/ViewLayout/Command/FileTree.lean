import ViewLayout.Command.Run

/-!
# File trees

Folders and files in memory, on which the command can run. A path is followed part by part, each of
which has to be in a folder; `read` gives the text of a file and `write` puts one into the tree,
together with the folders that are missing. `read_write` says that what was written is read.
-/

namespace ViewLayout.Command

/-- A tree of folders and files, each at the place that the names from the root lead to. -/
structure FileTree where
  folders : List (List String) := []
  files : List (List String × String) := []
  /-- The folder from which paths that do not start with a slash are followed. -/
  workingFolder : List String := []

namespace FileTree

/-- The text of the file at a place. -/
def textAt? (tree : FileTree) (place : List String) : Option String :=
  tree.files.lookup place

/-- Whether there is a folder at a place; the root always is one. -/
def isFolder (tree : FileTree) (place : List String) : Bool :=
  place.isEmpty || tree.folders.contains place

/-- Goes from a folder into a part of a path. -/
def enter (tree : FileTree) (path : String) (place : List String) (part : List Char) :
    Except FileError (List String) :=
  if (tree.textAt? place).isSome then .error (.notDirectory path)
  else if !tree.isFolder place then .error (.missing path)
  else if part = [] ∨ part = ['.'] then .ok place
  else if part = ['.', '.'] then .ok place.dropLast
  else if nameSizeLimit < pathSize part then .error (.nameTooLong path)
  else .ok (place ++ [String.ofList part])

/-- The place that a path leads to, whether there is something or not. -/
def resolve (tree : FileTree) (path : String) : Except FileError (List String) :=
  match pathFault? path with
  | some fault => .error fault
  | none =>
    (pathParts path.toList).foldlM (tree.enter path)
      (if "/".isPrefixOf path then [] else tree.workingFolder)

/-- The text of the file at a path. -/
def read (tree : FileTree) (path : String) : Except FileError String := do
  let place ← tree.resolve path
  match tree.textAt? place with
  | some text => .ok text
  | none => .error (if tree.isFolder place then .isDirectory path else .missing path)

/-- Makes the folder at a path where there is nothing yet. -/
def makeFolder (tree : FileTree) (path : String) : Except FileError FileTree := do
  let place ← tree.resolve path
  if (tree.textAt? place).isSome || tree.isFolder place then .error (.occupied path)
  else .ok { tree with folders := place :: tree.folders }

/-- Whether a path leads to a folder. -/
def hasFolder (tree : FileTree) (path : String) : Bool :=
  match tree.resolve path with
  | .ok place => tree.isFolder place
  | .error _ => false

/-- The tree with a folder at a path, where it may be already. -/
def ensureFolder (tree : FileTree) (path : String) : Except FileError FileTree :=
  match tree.makeFolder path with
  | .ok grown => .ok grown
  | .error fault => if tree.hasFolder path then .ok tree else .error fault

/-- The tree with a folder at the first of several paths. The others lead to the folders above it,
which are made if they are missing. -/
def ensureFolders (tree : FileTree) : List String → Except FileError FileTree
  | [] => .ok tree
  | path :: above =>
    match tree.ensureFolder path with
    | .error (.missing _) => do (← tree.ensureFolders above).ensureFolder path
    | settled => settled

/-- The tree with a text in the file at a path, and with the folders that it needs. -/
def write (tree : FileTree) (path text : String) : Except FileError FileTree := do
  let grown ← tree.ensureFolders (foldersAbove path)
  let place ← grown.resolve path
  if grown.isFolder place then .error (.isDirectory path)
  else .ok { grown with files := (place, text) :: grown.files }

/-- A part that leads on from a folder does so beside a new file, which is at no folder's place. -/
theorem enter_of_file {tree : FileTree} {path : String} {place goal target : List String}
    {part : List Char} (text : String) (free : tree.isFolder target = false)
    (found : tree.enter path place part = .ok goal) :
    ({ tree with files := (target, text) :: tree.files } : FileTree).enter path place part =
      .ok goal := by
  unfold enter at found ⊢
  by_cases folder : tree.isFolder place = true
  · have other : place ≠ target := by
      rintro rfl
      exact absurd folder (by simp [free])
    have unchanged :
        ({ tree with files := (target, text) :: tree.files } : FileTree).textAt? place =
          tree.textAt? place := by
      simp [textAt?, List.lookup_cons, beq_eq_false_iff_ne.2 other]
    rw [unchanged]
    exact found
  · split at found
    · exact absurd found nofun
    · rw [if_pos (by simpa using folder)] at found
      exact absurd found nofun

/-- Parts that lead to a place do so beside a new file, which is at no folder's place. -/
theorem foldlM_enter_of_file {tree : FileTree} {path : String} {target : List String}
    (text : String) (free : tree.isFolder target = false) (parts : List (List Char))
    {place goal : List String} (found : parts.foldlM (tree.enter path) place = .ok goal) :
    parts.foldlM
        (({ tree with files := (target, text) :: tree.files } : FileTree).enter path) place =
      .ok goal := by
  induction parts generalizing place with
  | nil => simpa using found
  | cons part rest inner =>
    rw [List.foldlM_cons] at found ⊢
    match step : tree.enter path place part with
    | .error fault =>
      rw [step] at found
      exact absurd found nofun
    | .ok next =>
      rw [step] at found
      rw [enter_of_file text free step]
      exact inner found

/-- **What was written at a path is read there.** -/
theorem read_write {tree grown : FileTree} {path text : String}
    (written : tree.write path text = .ok grown) : grown.read path = .ok text := by
  unfold write at written
  match folders : tree.ensureFolders (foldersAbove path) with
  | .error fault =>
    rw [folders] at written
    exact absurd written nofun
  | .ok base =>
    rw [folders] at written
    change (base.resolve path >>= fun _ => _) = _ at written
    match resolved : base.resolve path with
    | .error fault =>
      rw [resolved] at written
      exact absurd written nofun
    | .ok place =>
      rw [resolved] at written
      change (if base.isFolder place = true then _ else _) = _ at written
      split at written
      · exact absurd written nofun
      · next free =>
        cases written
        have free : base.isFolder place = false := by simpa using free
        have found :
            ({ base with files := (place, text) :: base.files } : FileTree).resolve path =
              .ok place := by
          unfold resolve at resolved ⊢
          split
          · next fault found =>
            rw [found] at resolved
            exact absurd resolved nofun
          · next found =>
            rw [found] at resolved
            exact foldlM_enter_of_file text free _ resolved
        unfold read
        rw [found]
        change (match textAt? _ place with | some text => _ | none => _) = _
        simp [textAt?]

/-- A tree as the files that a run reads and may write. -/
def toFiles (tree : FileTree) : Files where
  read := tree.read
  refuse path :=
    match tree.write path "" with
    | .ok _ => none
    | .error fault => some fault

/-- The tree after a run, with the file that it wrote. -/
def after (tree : FileTree) (run : Run) : FileTree :=
  match run.written with
  | none => tree
  | some (path, text) => (tree.write path text).toOption.getD tree

end FileTree

end ViewLayout.Command

import Std.Time.Format
import ViewLayout.Command.Run

/-!
# The command

Compiles a layout description: reads the files that the options name, runs the command on their
contents, and writes what it gives. Paths and texts are plain outside the library and keep
surrogates inside it.
-/

namespace ViewLayout.Command

/-- Why a file cannot be used, by what using it failed with. -/
def faultOf (path : String) (failure : IO.Error) : FileError :=
  match failure with
  | .inappropriateType _ code _ =>
    if code = 20 ∨ code = 0 - 20 then .notDirectory path else .isDirectory path
  | .alreadyExists .. => .occupied path
  | .invalidArgument .. => .nameTooLong path
  | _ => .missing path

/-- Uses the file at a path, unless there is something wrong with the path already. -/
def useFile {α : Type} (path : String) (use : String → IO α) : IO (Except FileError α) := do
  match pathFault? path with
  | some fault => return .error fault
  | none =>
    try
      return .ok (← use (Text.toPlain path))
    catch failure => return .error (faultOf path failure)

/-- The text of a file, or why it cannot be read. -/
def readFile (path : String) : IO (Except FileError String) := do
  return (← useFile path fun plain => IO.FS.readFile plain).map Text.ofPlain

/-- The contents of the files that options name, by path. -/
def readFiles (options : Options) : IO (List (String × Except FileError String)) :=
  (plainPath options.layout :: options.config.toList).mapM fun path => do
    return (path, ← readFile path)

/-- Files that hold texts which have been read before, where anything can be written. -/
def filesOf (contents : List (String × Except FileError String)) : Files where
  read path := (contents.lookup path).getD (.error (.missing path))
  refuse _ := none

/-- Whether a path leads to a folder: only then there is something at the point behind it. -/
def hasFolder (path : String) : IO Bool := do
  match ← useFile (path ++ "/.") fun plain => IO.FS.createDir plain with
  | .error (.occupied _) => return true
  | _ => return false

/-- Makes a folder, which may be there already. -/
def ensureFolder (path : String) : IO (Except FileError Unit) := do
  match ← useFile path fun plain => IO.FS.createDir plain with
  | .ok () => return .ok ()
  | .error fault => return if ← hasFolder path then .ok () else .error fault

/-- Makes the folder at the first of several paths, and those above it that are missing. -/
def ensureFolders : List String → IO (Except FileError Unit)
  | [] => return .ok ()
  | path :: above => do
    match ← ensureFolder path with
    | .error (.missing _) =>
      match ← ensureFolders above with
      | .ok () => ensureFolder path
      | .error fault => return .error fault
    | settled => return settled

/-- Writes a text to a path and makes the folders above it. -/
def writeFile (path text : String) : IO (Except FileError Unit) := do
  match ← ensureFolders (foldersAbove path) with
  | .error fault => return .error fault
  | .ok () => useFile path fun plain => IO.FS.writeFile plain (Text.toPlain text)

/-- Writes the file of a run, if it has one, and gives the run as it ends then. -/
def keepWritten (run : Run) : IO Run := do
  match run.written with
  | none => return run
  | some (path, text) =>
    match ← writeFile path text with
    | .ok () => return run
    | .error fault => return { run with ending := .stopped (.file fault), output := "" }

/-- Writes what a run tells and says with which code to end. -/
def tellRun (run : Run) : IO UInt32 := do
  for line in run.log do
    IO.eprintln (Text.toPlain line)
  IO.print (Text.toPlain run.output)
  match run.ending with
  | .exit code => return code.toUInt32
  | .stopped fault =>
    IO.eprintln (Text.toPlain fault.message)
    return 1

end ViewLayout.Command

/-- Reads what the options name, runs the command and writes what comes of it. -/
def main (arguments : List String) : IO UInt32 := do
  let now ← Std.Time.PlainDateTime.now
  let given := arguments.map ViewLayout.Text.ofPlain
  let contents ←
    match ViewLayout.Command.Options.parse given with
    | .ok (some options) => ViewLayout.Command.readFiles options
    | _ => pure []
  let files := ViewLayout.Command.filesOf contents
  let run ← ViewLayout.Command.keepWritten (ViewLayout.Command.execute files (toString now) given)
  ViewLayout.Command.tellRun run

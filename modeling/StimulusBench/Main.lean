import Std.Time.Format
import StimulusBench.Command.Run

/-!
# `StimulusBench.Main` — the program

Looks up the places that a run can touch, runs the program on them, and then writes what it has
changed, printed and complained about. All decisions are made by `runCommand`.
-/

namespace StimulusBench.Command

/-- The paths in a command line. -/
def Invocation.paths (invocation : Invocation) : List String :=
  let inTask := match invocation.task with
    | .generate output _ testbench _ => output.toList ++ testbench.toList
    | .testbench input output _ => input :: output.toList
    | .check input _ _ => [input]
    | .mutate .. => []
  invocation.config.toList ++ invocation.logFile.toList ++ inTask

/-- The paths in a configuration. -/
def configPaths (config : Config) : List String := config.outputPath :: config.log.file.toList

/-- The number of the refusal to read a directory as a file. -/
def directoryRefusal : UInt32 := 21

variable [WorkingDirectory]

/-- Adds what a place holds on disk. -/
def observePlace (files : FileTree) (place : Place) : IO FileTree := do
  if (files.get? place).isSome then return files
  try
    let contents ← IO.FS.readFile (place.text)
    return files.set place (.file contents)
  catch
    | .inappropriateType _ code _ =>
      return if code = directoryRefusal then files.set place .directory else files
    | _ => return files

/-- Adds what some paths lead through on disk. -/
def observe (files : FileTree) (paths : List String) : IO FileTree :=
  (paths.flatMap fun path => (FilePath.ofText path).places).foldlM observePlace files

/-- The files that a command line and its configuration name. -/
def observeAll (surroundings : Surroundings) (arguments : List String) : IO FileTree := do
  match Invocation.ofArguments surroundings.configPath arguments with
  | .error _ => return .empty
  | .ok invocation =>
    let files ← observe .empty invocation.paths
    let config := match invocation.config with
      | none => .default
      | some path => (Config.load files path).toOption.getD .default
    observe files (configPaths config)

/-- Brings the disk from the files before a run to those after it. -/
def writeChanges (before after : FileTree) : IO Unit :=
  after.entries.forM fun (place, entry) => do
    if before.get? place != some entry then
      match entry with
      | .directory => IO.FS.createDirAll (place.text)
      | .file contents => IO.FS.writeFile (place.text) contents

/-- What the log shows as the present time. -/
def timeText : IO String := do
  let now ← Std.Time.Timestamp.now
  return (Std.Time.DateTime.ofTimestamp now .UTC).format "uuuu-MM-dd'T'HH:mm:ss.SSSSSS'Z'"

/-- A key that differs from run to run. -/
def freshKey : IO KeyStream.Key := do
  let bytes ← IO.getRandomBytes 32
  return Vector.ofFn fun i =>
    (List.range 4).foldl (fun word j => word ||| bytes[4 * i.val + j]!.toUInt32 <<< (8 * j).toUInt32) 0

/-- The directory that a text leads to from the root, without a detour. -/
@[reducible]
def directoryOf (text : String) : WorkingDirectory where
  names := (FilePath.ofText text).names.reverse.filter (!leadsAnywhere ·)
  proper := by simp

end StimulusBench.Command

open StimulusBench StimulusBench.Command in
/-- The program: runs the command that the arguments describe in the working directory. -/
def main (arguments : List String) : IO UInt32 := do
  let surroundings : Surroundings :=
    ⟨← IO.getEnv "SEQVEC_CONFIG", ← IO.getEnv "RUST_LOG", ← freshKey⟩
  let _ := directoryOf (← IO.currentDir).toString
  let files ← observeAll surroundings arguments
  let (session, status) := runCommand surroundings arguments (.start files (← timeText))
  writeChanges files session.files
  (← IO.getStdout).putStr session.stdout
  (← IO.getStderr).putStr session.stderr
  return UInt32.ofNat status.code

import Promptsmith.Command.Run
import Std.Time.Format

/-!
# The program

Takes the files that the arguments name from the file system, runs the command on them, prints its
events and carries out the changes it made.
-/
namespace Promptsmith.Program

/-- What stands at a path from the top of the file system. -/
def entryAt (parts : List String) : IO (Option Files.Entry) := do
  let path := (← IO.currentDir) / ("/" ++ String.intercalate "/" parts)
  if ← path.isDir then return some .directory
  if ← path.pathExists then
    return some (.file (.raw (← IO.FS.readBinFile path).toList))
  return none

/-- Takes some paths and what stands above them into a tree. -/
def survey (paths : List String) : IO Files.Tree := do
  let here := Files.Path.components (← IO.currentDir).toString
  let mut tree := Files.Tree.empty here
  for path in paths do
    for parts in Files.Tree.prefixes (Files.Tree.down here (.ofText path)) do
      if let some entry ← entryAt parts then
        tree := tree.put parts entry
  return tree

def carryOut (changes : List (List String × Files.Entry)) : IO Unit := do
  for (parts, entry) in changes do
    let path := "/" ++ String.intercalate "/" parts
    match entry with
    | .directory => IO.FS.createDirAll path
    | .file (.text s) => IO.FS.writeFile path s
    | .file (.raw _) => pure ()

def environmentNames : List String :=
  ["TEMPLATES_DIR", "TOOL_VERSION", "PREVIEW_LENGTH", "EXPERIENCE", "PHASE"].map
    ("PROMPTGEN_" ++ ·)

def environment : IO (List (String × String)) :=
  environmentNames.filterMapM fun name => do
    return (← IO.getEnv name).map fun value => (name, value)

def clock : IO Clock := do
  let now := Std.Time.DateTime.ofTimestamp (← Std.Time.Timestamp.now) .UTC
  return ⟨now.format "uuuu-MM-dd", now.format "uuuu-MM-dd'T'HH:mm:ss.SSSSSSxxx"⟩

/-- What the command finds: the files that the arguments name, and the bodies that their
configuration leads to. -/
def scene (arguments : List String) : IO Command.Scene := do
  let settings ← environment
  let now ← clock
  match Command.Invocation.ofArguments arguments with
  | .error _ => return ⟨settings, .empty [], now⟩
  | .ok i =>
    let first : Command.Scene := ⟨settings, ← survey i.paths, now⟩
    match Command.loadConfig first i.config with
    | .error _ => return first
    | .ok c => return { first with files := ← survey (i.paths ++ Command.bodyPaths c) }

def explain (e : Command.Ending) : IO Unit :=
  match e with
  | .refused (.usage error) => IO.eprintln error.message
  | .broken failure => IO.eprintln failure.message
  | _ => pure ()

end Promptsmith.Program

open Promptsmith in
def main (arguments : List String) : IO UInt32 := do
  let before ← Program.scene arguments
  let report := @Command.run .quiet .plain before arguments
  for event in report.events do
    IO.println event.text
  Program.carryOut (report.files.changes before.files)
  Program.explain report.ending
  return UInt32.ofNat report.ending.code

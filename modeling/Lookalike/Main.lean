import Lookalike.Program

/-!
# The program on a real disk

This is all that meets the world. It gathers the part of the disk that a run looks at, runs the
program on it, and writes what comes out.

## Main definitions

* `Gather.disk` — the part of the disk that a run looks at.
* `main` — the program.
-/

namespace Lookalike.Gather

/-- What lies at names: a file with its bytes, or a directory, still empty. -/
def part? (names : List String) : IO (Option FileTree) := do
  let place := (← IO.currentDir) / Path.ofNames names
  if ← place.isDir then return some .empty
  else if ← place.pathExists then
    try return some (.file (← IO.FS.readBinFile place).toList)
    catch _ => return none
  else return none

/-- The names in a directory. Links to other directories are left out. -/
def entryNames (names : List String) : IO (List String) := do
  let place := (← IO.currentDir) / Path.ofNames names
  try
    let entries ← (← place.readDir).toList.filterM fun entry => do
      let isLink := (← entry.path.symlinkMetadata).type == .symlink
      return !(isLink && (← entry.path.isDir))
    return entries.map (·.fileName)
  catch _ => return []

/-- The tree with a part of the disk added at names. -/
def add (t : FileTree) (names : List String) (part : FileTree) : FileTree :=
  if part.isDirectory then t.makeDirectory names else FileTree.put part names t

/-- Adds what lies along steps from names. The second result is where they end. -/
def along (t : FileTree) (names : List String) :
    List Path.Step → IO (FileTree × Option (List String))
  | [] => return (t, some names)
  | .stay :: steps => along t names steps
  | .back :: steps => along t names.dropLast steps
  | .enter name :: steps => do
    let names := names ++ [name]
    match ← part? names with
    | none => return (t, none)
    | some part => along (add t names part) names steps

partial def below (t : FileTree) (names : List String) : IO FileTree := do
  (← entryNames names).foldlM (fun t name => do
    let names := names ++ [name]
    match ← part? names with
    | none => return t
    | some part => below (add t names part) names) t

def path (t : FileTree) (working : List String) (path : String) :
    IO (FileTree × Option (List String)) :=
  along t (if Path.isAbsolute path then [] else working) (Path.steps path)

def around (t : FileTree) (directory : List String) (paths : List String) : IO FileTree :=
  (List.range (directory.length + 1)).foldlM (fun t n =>
    paths.foldlM (fun t p => return (← path t (directory.take n) p).1) t) t

/-- The part of the disk that a run looks at. Where the excludes of the user lie shows only when
the configurations are there. -/
def disk (c : CommandLine) (u : User) : IO Disk := do
  let working := Path.names (← IO.currentDir).toString
  let paths := Program.surroundings c
  let t ← around (FileTree.empty.makeDirectory working) working paths
  let t ← u.configurationFiles.foldlM (fun t file => return (← path t working file).1) t
  let t ← (u.excludesPath? ⟨t, working⟩).toList.foldlM
    (fun t file => return (← path t working file).1) t
  let t ← (Program.places c).foldlM (fun t place => do
    let (t, found) ← path t working place
    match found with
    | none => return t
    | some names => around (← below t names) names paths) t
  return ⟨t, working⟩

/-- A variable as the system keeps it, with its name before the first `=`. -/
def assignment? (bytes : List UInt8) : Option (String × String) := do
  let text ← Utf8.decode? bytes
  match text.toList.span (· != '=') with
  | (name, _ :: value) => some (String.ofList name, String.ofList value)
  | (_, []) => none

def accountHome? : IO (Option String) := do
  try
    let status ← IO.FS.lines "/proc/self/status"
    let accounts ← IO.FS.lines "/etc/passwd"
    return do
      let line ← status.toList.find? (·.startsWith "Uid:")
      let number ← (splitOn '\t' line.toList)[1]?
      accounts.toList.findSome? fun account =>
        match splitOn ':' account.toList with
        | [_, _, n, _, _, home, _] => if n == number then some (String.ofList home) else none
        | _ => none
  catch _ => return none

/-- The variables of the environment, with a home directory where the account has one. -/
def environment : IO Environment := do
  let bytes ← try pure (← IO.FS.readBinFile "/proc/self/environ").toList catch _ => pure []
  let env := (splitOn 0 bytes).filterMap assignment?
  if (env.lookup "HOME").isSome then return env
  else return env ++ (← accountHome?).toList.map ("HOME", ·)

end Lookalike.Gather

open Lookalike

/-- Runs the program with the given arguments. -/
def main (args : List String) : IO UInt32 := do
  let started ← IO.monoMsNow
  let environment ← Gather.environment
  let disk : Disk ←
    match CommandLine.parse args with
    | .error _ => pure ⟨.empty, []⟩
    | .ok c => Gather.disk c (.ofVariables environment)
  let outcome : Program.Outcome := Program.run disk environment args
  IO.print outcome.output
  for remark in outcome.remarks (toString ((← IO.monoMsNow) - started) ++ "ms") do
    IO.eprintln remark
  return outcome.status.toUInt32

import PageComposer.Command

/-!
# The program

Reads the files of the working directory into a workspace, runs a command there, and writes back what has
changed. Records go to the error output.
-/

namespace PageComposer.Program

def pathOf (l : Location) : String := String.ofList (Path.ofLocation l).toText

/-- Adds what lies in a directory that the tree has. -/
partial def readBelow (l : Location) (tree : FileTree) : IO FileTree := do
  let mut tree := tree
  for entry in ← (System.mkFilePath [pathOf l]).readDir do
    let inner := l ++ [entry.fileName.toList]
    let information ← entry.path.metadata
    match information.type with
    | .dir => tree ← readBelow inner (tree.put inner .directory)
    | _ =>
      let content ← IO.FS.readBinFile entry.path
      let changed := information.modified.sec * 1000000000 + information.modified.nsec.toNat
      tree := tree.put inner (.file content.toList changed)
  return tree

def wayTo (l : Location) : List Location := (List.range l.length).map fun n => l.take (n + 1)

def readTree (l : Location) : IO FileTree := do
  readBelow l ((wayTo l).foldl (fun tree up => tree.put up .directory) .empty)

def writeChanges (before after : FileTree) : IO Unit := do
  for (l, entry) in after.entries do
    if before.find? l ≠ some entry then
      match entry with
      | .directory => IO.FS.createDirAll (pathOf l)
      | .file content _ => IO.FS.writeBinFile (pathOf l) ⟨content.toArray⟩

def workspace (here : Location) : IO Workspace := do
  return ⟨← readTree here, here, 0, .info, []⟩

def perform {α : Type} (here : Location) (threshold : Level) (x : Action α) :
    IO (Except Failure α × Level) := do
  let before ← workspace here
  let (outcome, after) : Except Failure α × Workspace :=
    match x.run { before with threshold := threshold } with
    | .ok a w => (.ok a, w)
    | .error e w => (.error e, w)
  writeChanges before.tree after.tree
  for r in after.journal do
    IO.eprintln (String.ofList (r.level.label ++ ' ' :: r.message))
  return (outcome, after.threshold)

def finish (report : Report) : IO UInt32 := do
  IO.print (String.ofList report.output)
  IO.eprint (String.ofList report.errors)
  return UInt32.ofNat report.exitCode.toNat

def pauseOf (interval : Binary64) : UInt32 := UInt32.ofNat (interval.scale 1000).truncate.toNat

partial def keepWatching (here : Location) (threshold : Level) (project : Project) (watcher : Watcher) :
    IO UInt32 := do
  match ← perform here threshold (watcher.round project.rebuild) with
  | (.ok (watcher, _), threshold) =>
    IO.sleep (pauseOf project.settings.interval)
    keepWatching here threshold project watcher
  | (.error e, _) => finish (.ofFailure e)

def watchProject (here : Location) (threshold : Level) (project : Project) : IO UInt32 := do
  let started ← perform here threshold do
    let watcher ← project.watcher
    watcher.announce
    return watcher
  match started with
  | (.ok watcher, threshold) => keepWatching here threshold project watcher
  | (.error e, _) => finish (.ofFailure e)

def runInvocation (here : Location) (debugging : Bool) (i : Invocation) : IO UInt32 := do
  match ← perform here .info (i.start debugging) with
  | (.ok (.done report), _) => finish report
  | (.ok (.watching output project), threshold) =>
    IO.print (String.ofList output)
    watchProject here threshold project
  | (.error e, _) => finish (.ofFailure e)

def usage : String :=
  "Usage: tessel [-V] [-v] [-q] (build [-c PATH] [-w] | watch [-c PATH] | compile [-c PATH] PAGE | " ++
    "list [-c PATH] | init [-f])"

end PageComposer.Program

open PageComposer Program in
def main (arguments : List String) : IO UInt32 := do
  let here := (Path.ofText (← IO.currentDir).toString.toList).parts
  let debugging := ((← IO.getEnv "TESSEL_DEBUG").getD "") ≠ ""
  match Request.ofArguments (arguments.map String.toList) with
  | none =>
    IO.eprintln usage
    return 2
  | some .help =>
    IO.println usage
    return 0
  | some .version =>
    IO.print (String.ofList versionText)
    return 0
  | some (.run i) => runInvocation here debugging i

import PageComposer.Files

/-!
# Watching

A watcher polls directories. Changes are pending until a poll finds nothing new; then they are ready, each
path once, with its last change. So a burst of changes leads to one reaction.
-/

namespace PageComposer

inductive ChangeKind where
  | added
  | changed
  | removed
  deriving DecidableEq

def ChangeKind.label : ChangeKind → Text
  | added => "added".toList
  | changed => "changed".toList
  | removed => "removed".toList

structure Change where
  kind : ChangeKind
  path : Path
  deriving DecidableEq

abbrev Snapshot := List (Path × Int)

namespace Snapshot

/-- Sets the time of a path; a known path keeps its place. -/
def assign (path : Path) (changed : Int) : Snapshot → Snapshot
  | [] => [(path, changed)]
  | (p, t) :: rest => if p = path then (path, changed) :: rest else (p, t) :: assign path changed rest

/-- What is new in the second of two snapshots, then what has another time, then what is gone. -/
def changes (before after : Snapshot) : List Change :=
  (after.filter fun e => (before.lookup e.1).isNone).map (fun e => ⟨.added, e.1⟩) ++
  (after.filter fun e => (before.lookup e.1).any (· != e.2)).map (fun e => ⟨.changed, e.1⟩) ++
  (before.filter fun e => (after.lookup e.1).isNone).map (fun e => ⟨.removed, e.1⟩)

def noted (p : Path) (state : Snapshot) : Option Entry → Snapshot
  | some (.file _ changed) => assign p changed state
  | _ => state

def note (state : Snapshot) (p : Path) : Action Snapshot := do
  return noted p state (← Action.storage (Action.plainFailure p) (Storage.probe p))

def enter (deeper : Path → Snapshot → Action Snapshot) (state : Snapshot) (entry : Path) : Action Snapshot := do
  if ← Action.isDirectory entry then deeper entry state else pure state

/-- Notes the files below a directory: those that lie right in it, then those below each directory in it. -/
def walk : Nat → Path → Snapshot → Action Snapshot
  | 0, _, _ => Action.abort .nestedTooDeep
  | room + 1, p, state => do
    let names ← Action.storage (Action.plainFailure p) (Storage.readDirectory p)
    let state ← (names.map p.child).foldlM note state
    (names.map p.child).foldlM (enter (walk room)) state

def take : List Path → Snapshot → Action Snapshot
  | [], state => pure state
  | p :: rest, state => do
    if ← Action.isDirectory p then take rest (← walk Files.walkLimit p state) else take rest state

end Snapshot

/-- The changes that wait for a poll without new ones, every path once. -/
abbrev Pending := List Change

/-- Notes a change; a later change of a path replaces the one before in its place. -/
def Pending.note (change : Change) : Pending → Pending
  | [] => [change]
  | c :: rest => if c.path = change.path then change :: rest else c :: Pending.note change rest

structure Watcher where
  paths : List Path
  state : Snapshot
  pending : Pending
  deriving DecidableEq

namespace Watcher

/-- What a poll makes of a new snapshot, and the changes that are ready. -/
def observe (watcher : Watcher) (current : Snapshot) : Watcher × List Change :=
  match watcher.state.changes current with
  | [] => ({ watcher with state := current, pending := [] }, watcher.pending)
  | changes =>
    ({ watcher with
        state := current
        pending := changes.foldl (fun pending c => Pending.note c pending) watcher.pending }, [])

def start (paths : List Path) : Action Watcher := do
  return ⟨paths, ← Snapshot.take paths [], []⟩

def poll (watcher : Watcher) : Action (Watcher × List Change) := do
  return watcher.observe (← Snapshot.take watcher.paths [])

/-! ## Reacting -/

def changeRecord (c : Change) : Record :=
  ⟨.info, "File ".toList ++ c.kind.label ++ ": ".toList ++ c.path.toText⟩

def outcomeRecord : Except Failure Unit → Record
  | .ok () => ⟨.info, "Build completed successfully".toList⟩
  | .error (.fault f) => ⟨.error, "Build failed: ".toList ++ f.message⟩
  | .error (.defect d) => ⟨.error, "Build failed: ".toList ++ d.message⟩

/-- Reacts to changes. A reaction that fails does not end the watching. -/
def dispatch (react : List Change → Action Unit) (changes : List Change) : Action Unit := do
  (changes.map changeRecord).forM Action.record
  let outcome ← Action.attempt (react changes)
  Action.record (outcomeRecord outcome)

def round (watcher : Watcher) (react : List Change → Action Unit) : Action (Watcher × List Change) := do
  let (watcher, ready) ← watcher.poll
  if ready ≠ [] then dispatch react ready
  return (watcher, ready)

def announce (watcher : Watcher) : Action Unit := do
  watcher.paths.forM fun p => Action.log .info ("Watching: ".toList ++ p.toText)
  Action.log .info "Watch mode active. Press Ctrl-C to stop.".toList

/-- Rounds with a pause after each. What happens in a pause is an action of the script; at the end of the
script the last pause ends the watching. Gives the batches that were ready. -/
def rounds (react : List Change → Action Unit) :
    List (Action Unit) → Watcher → Action (Watcher × List (List Change))
  | script, watcher => do
    let (watcher, ready) ← watcher.round react
    let batch := if ready = [] then [] else [ready]
    match script with
    | [] => return (watcher, batch)
    | pause :: rest =>
      pause
      let (watcher, batches) ← rounds react rest watcher
      return (watcher, batch ++ batches)

def run (watcher : Watcher) (react : List Change → Action Unit) (script : List (Action Unit)) :
    Action (Watcher × List (List Change)) := do
  watcher.announce
  let result ← rounds react script watcher
  Action.log .info "Watch mode stopped".toList
  return result

end Watcher
end PageComposer

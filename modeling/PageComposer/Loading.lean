import PageComposer.Composer
import PageComposer.Files

/-!
# Loading

Components and pages come from template files, the files whose name is a stem and `.html`. A component is
named by the way to its file below the components directory, without the suffix; pages are the templates
right in the pages directory, named by their stems.
-/

namespace PageComposer.Loading

def templateSuffix : Text := ".html".toList

def isTemplate (p : Path) : Bool := p.suffix == templateSuffix

def componentName? (base p : Path) : Option Text :=
  match base.below? p with
  | none | some [] => none
  | some (first :: rest) =>
    let names := first :: rest
    some (Text.join ['/'] (names.dropLast ++ [(Path.splitName (names.getLast?.getD [])).1]))

/-- The templates in a directory, and those in the directories in it, in the order of their names. -/
def templates (recursive : Bool) : Nat → Path → Action (List Path)
  | 0, _ => Action.abort .nestedTooDeep
  | room + 1, directory => do
    inEntries recursive (templates recursive room) (← Files.list directory)
where
  /-- The templates at an entry or below it. -/
  atEntry (recursive : Bool) (deeper : Path → Action (List Path)) (entry : Path) : Action (List Path) := do
    if ← Action.isDirectory entry then if recursive then deeper entry else pure []
    else pure (if isTemplate entry then [entry] else [])
  inEntries (recursive : Bool) (deeper : Path → Action (List Path)) : List Path → Action (List Path)
    | [] => pure []
    | entry :: rest => do
      let found ← atEntry recursive deeper entry
      return found ++ (← inEntries recursive deeper rest)

/-- Loads files one after the other, up to the first that fails: what has been loaded as far as that, and the
names of all or the failure. -/
def loadEach {α : Type} (load : α → Path → Action (α × Text)) (loaded : α) :
    List Path → Action (α × Except Failure (List Text))
  | [] => pure (loaded, .ok [])
  | p :: rest => do
    match ← Action.attempt (load loaded p) with
    | .error e => return (loaded, .error e)
    | .ok (loaded, name) =>
      let (loaded, names) ← loadEach load loaded rest
      return (loaded, names.map (name :: ·))

def loadFound {α : Type} (load : α → Path → Action (α × Text)) (loaded : α) (summary : Nat → Text) :
    Except Failure (List Path) → Action (α × Except Failure (List Text))
  | .error e => return (loaded, .error e)
  | .ok paths => do
    let (loaded, names) ← loadEach load loaded paths
    if let .ok names := names then
      Action.log .debug (summary names.length)
    return (loaded, names)

def loadComponent (base : Path) (registry : Registry) (p : Path) : Action (Registry × Text) := do
  match componentName? base p with
  | none => Action.abort .notBelow
  | some name =>
    let content ← Files.readText p
    let (registry, records) ← Action.ofExcept ((registry.register (.text name) content).mapError .fault)
    records.forM Action.record
    return (registry, name)

def componentsSummary (base : Path) (count : Nat) : Text :=
  "Registered ".toList ++ Text.ofNat count ++ " components from ".toList ++ base.toText

/-- Registers the components below a directory: the registry, and the names in the order of loading or
the failure that ended it. -/
def loadComponents (registry : Registry) (base : Path) :
    Action (Registry × Except Failure (List Text)) := do
  let found ← Action.attempt (templates true Files.walkLimit base)
  loadFound (loadComponent base) registry (componentsSummary base) found

def loadPage (composer : Composer) (p : Path) : Action (Composer × Text) := do
  let body ← Files.readText p
  Action.record (Composer.pageRecord p.stem)
  return (composer.addPage p.stem body, p.stem)

def pagesSummary (directory : Path) (count : Nat) : Text :=
  "Loaded ".toList ++ Text.ofNat count ++ " pages from ".toList ++ directory.toText

/-- Adds the pages in a directory: the composer, and the names in the order of loading or the failure
that ended it. -/
def loadPages (composer : Composer) (directory : Path) :
    Action (Composer × Except Failure (List Text)) := do
  let found ← Action.attempt (templates false Files.walkLimit directory)
  loadFound loadPage composer (pagesSummary directory) found

end PageComposer.Loading

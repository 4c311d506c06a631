import PageComposer.Fault
import PageComposer.Journal

/-!
# Workspace

The state of the world that the program works in: the file tree, the working directory, a clock that
moves with every write, and the journal. `Storage` is the type of file operations, which the system may
refuse; `Action` is the type of everything built on them, which may fail. A failure keeps the state as it
was when the failure arose.
-/

namespace PageComposer

structure Workspace where
  tree : FileTree
  here : Location
  clock : Int
  threshold : Level
  journal : List Record

abbrev Storage := EStateM Refusal Workspace

abbrev Action := EStateM Failure Workspace

namespace Storage

def query {α : Type} (ask : FileTree → Location → Except Refusal α) : Storage α := do
  let w ← get
  match ask w.tree w.here with
  | .ok a => pure a
  | .error e => throw e

def stat (p : Path) : Storage (Location × Entry) := query fun tree here => tree.stat here p

def locate (p : Path) : Storage Location := query fun tree here => tree.locate here p

def probe (p : Path) : Storage (Option Entry) := query fun tree here => tree.probe here p

def isPresent (p : Path) : Storage Bool := do return (← probe p).isSome

def isDirectory (p : Path) : Storage Bool := do return (← probe p).any Entry.isDirectory

def isFile (p : Path) : Storage Bool := do return (← probe p).any (!·.isDirectory)

def put (l : Location) (e : Entry) : Storage Unit :=
  modify fun w => { w with tree := w.tree.put l e }

def tick : Storage Int := do
  let w ← get
  set { w with clock := w.clock + 1 }
  pure w.clock

/-! ## Files -/

def readFile (p : Path) : Storage (List UInt8 × Int) := do
  match ← stat p with
  | (_, .file content changed) => pure (content, changed)
  | (_, .directory) => throw (.system .isDirectory)

def writable (p : Path) : Storage Location := do
  let l ← locate p
  let w ← get
  match w.tree.find? l with
  | some .directory => throw (.system .isDirectory)
  | _ => pure l

def writeFile (p : Path) (content : List UInt8) : Storage Unit := do
  let l ← writable p
  put l (.file content (← tick))

def readDirectory (p : Path) : Storage (List Text) := do
  match ← stat p with
  | (l, .directory) => return (← get).tree.names l
  | (_, .file ..) => throw (.system .notDirectory)

/-! ## Directories -/

def makeDirectory (p : Path) : Storage Unit := do
  let l ← locate p
  let w ← get
  match w.tree.find? l with
  | some _ => throw (.system .alreadyExists)
  | none => put l .directory

def unlessDirectory (p : Path) (e : Refusal) : Storage Unit := do
  if ← isDirectory p then pure () else throw e

/-- Makes a directory and those above it that are missing; `parts` are the names of the path, last one
first. -/
def makeDirectories (anchor : Text) : List Text → Storage Unit
  | [] => tryCatch (makeDirectory ⟨anchor, []⟩) (unlessDirectory ⟨anchor, []⟩)
  | name :: above =>
    let p : Path := ⟨anchor, (name :: above).reverse⟩
    tryCatch (makeDirectory p) fun e =>
      if e = .system .noSuchFile then do
        makeDirectories anchor above
        tryCatch (makeDirectory p) (unlessDirectory p)
      else unlessDirectory p e

def ensureDirectory (p : Path) : Storage Unit := makeDirectories p.anchor p.parts.reverse

end Storage

namespace Action

def fail {α : Type} (f : Fault) : Action α := throw (.fault f)

def abort {α : Type} (d : Defect) : Action α := throw (.defect d)

def record (r : Record) : Action Unit :=
  modify fun w => if r.passes w.threshold then { w with journal := w.journal ++ [r] } else w

def log (level : Level) (message : Text) : Action Unit := record ⟨level, message⟩

def ofExcept {α : Type} (x : Except Failure α) : Action α :=
  match x with
  | .ok a => pure a
  | .error e => throw e

def attempt {α : Type} (x : Action α) : Action (Except Failure α) := fun w =>
  match x.run w with
  | .ok a w => .ok (.ok a) w
  | .error e w => .ok (.error e) w

def storage {α : Type} (explain : Refusal → Failure) (x : Storage α) : Action α := fun w =>
  match x.run w with
  | .ok a w => .ok a w
  | .error e w => .error (explain e) w

/-- A refused file operation is a fault of what was being done to the path. -/
def fileFailure (action : FileAction) (p : Path) : Refusal → Failure
  | .system e => .fault (.file action p.toText (.system e))
  | .embeddedNull => .defect .embeddedNull

def plainFailure (p : Path) : Refusal → Failure
  | .system e => .defect (.system e p.toText)
  | .embeddedNull => .defect .embeddedNull

def isPresent (p : Path) : Action Bool := storage (plainFailure p) (Storage.isPresent p)

def isDirectory (p : Path) : Action Bool := storage (plainFailure p) (Storage.isDirectory p)

def isFile (p : Path) : Action Bool := storage (plainFailure p) (Storage.isFile p)

def here : Action Path := do return Path.ofLocation (← get).here

end Action
end PageComposer

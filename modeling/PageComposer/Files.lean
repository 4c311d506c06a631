import PageComposer.Confinement
import PageComposer.Name

/-!
# Files

Reading, writing and copying with faults that name the path. Texts are UTF-8; line ends are unified when
a text is read and written as they are.
-/

namespace PageComposer.Files

def readText (p : Path) : Action Text := do
  let (content, _) ← Action.storage (Action.fileFailure .read p) (Storage.readFile p)
  match Utf8.read content with
  | .ok s => pure s
  | .error fault => Action.fail (.file .read p.toText (.undecodable fault))

def writeText (p : Path) (s : Text) : Action Unit :=
  Action.storage (Action.fileFailure .write p) (Storage.writeFile p (Utf8.encode s))

def list (p : Path) : Action (List Path) := do
  let names ← Action.storage (Action.fileFailure .list p) (Storage.readDirectory p)
  return names.map p.child

def ensureDirectory (p : Path) : Action Unit :=
  Action.storage (Action.fileFailure .make p) (Storage.ensureDirectory p)

/-! ## Copying -/

def shownPath (p : Path) : Text := "PosixPath(".toList ++ Text.quoted p.toText ++ [')']

/-- The destination of a copy, and how it is shown: a directory receives the file under its own name. A
path without a name leads to the directory itself. -/
def destination (source target : Path) : Storage (Path × Text) := do
  match ← (Storage.query fun tree here =>
      match tree.stat here target with
      | .ok (_, e) => .ok (some e)
      | .error _ => .ok none) with
  | some .directory =>
    let lead := target.toText
    let slash := if lead.getLast? = some '/' then [] else ['/']
    let inner := if source.name = [] then target else target.child source.name
    pure (inner, Text.quoted (lead ++ slash ++ source.lastText))
  | _ => pure (target, shownPath target)

def sameEntry (p q : Path) : Storage Bool :=
  Storage.query fun tree here =>
    match tree.stat here p, tree.stat here q with
    | .error .embeddedNull, _ => .error .embeddedNull
    | .ok _, .error .embeddedNull => .error .embeddedNull
    | .ok (l, _), .ok (l', _) => .ok (l == l')
    | _, _ => .ok false

/-- Copies a file's content and time of change; tells how the two ends are shown if they are the same. -/
def copyOrSame (source target : Path) : Storage (Option (Text × Text)) := do
  let (target, shown) ← destination source target
  if ← sameEntry source target then return some (shownPath source, shown)
  let (content, changed) ← Storage.readFile source
  Storage.put (← Storage.writable target) (.file content changed)
  return none

def copy (source target : Path) : Action Unit := do
  match ← Action.storage (Action.fileFailure .write target) (copyOrSame source target) with
  | none => pure ()
  | some (a, b) => Action.fail (.file .write target.toText (.sameFile a b))

/-- How deep a walk through a tree may go. It is an approximation, since the stack of the caller counts as well. -/
def walkLimit : Nat := 960

/-- Copies what lies in a directory into another one, which is made if it is missing. Gives the copied
files by the names on the way, in the order of copying. -/
def copyInto (source target : Path) : Nat → List Text → Action (List (List Text))
  | 0, _ => Action.abort .nestedTooDeep
  | room + 1, names => do
    ensureDirectory ⟨target.anchor, target.parts ++ names⟩
    let entries ← list ⟨source.anchor, source.parts ++ names⟩
    copyEntries target (copyInto source target room) names entries
where
  /-- Copies an entry that has been reached by the names; `deeper` copies a directory. -/
  copyEntry (target : Path) (deeper : List Text → Action (List (List Text))) (names : List Text)
      (entry : Path) : Action (List (List Text)) := do
    if ← Action.isDirectory entry then deeper names
    else do
      copy entry ⟨target.anchor, target.parts ++ names⟩
      pure [names]
  copyEntries (target : Path) (deeper : List Text → Action (List (List Text))) (names : List Text) :
      List Path → Action (List (List Text))
    | [] => pure []
    | entry :: rest => do
      let copied ← copyEntry target deeper (names ++ [entry.name]) entry
      return copied ++ (← copyEntries target deeper names rest)

def copyTree (source target : Path) : Action (List (List Text)) := do
  if ← Action.isDirectory source then copyInto source target walkLimit [] else pure []

structure CopyResult where
  copied : Nat
  files : List Text
  deriving DecidableEq

namespace CopyResult

def empty : CopyResult := ⟨0, []⟩

def add (result : CopyResult) (names : List Text) : CopyResult :=
  ⟨result.copied + 1, result.files ++ [Text.join ['/'] names]⟩

end CopyResult

def copyAssets (source target : Path) : Action CopyResult := do
  return (← copyTree source target).foldl .add .empty

def readNamed (name : Text) (base : Path) : Action Text := do
  if !FileName.isValid name then Action.fail (.invalidPath name)
  let location ← Action.ofExcept (confine (← get).here base name)
  readText (Path.ofLocation location)

/-! ## Assets -/

def assetExtensions : List Text :=
  ["css", "scss", "sass", "less", "js", "mjs", "cjs", "png", "jpg", "jpeg", "gif", "svg", "webp",
   "ico", "avif", "woff", "woff2", "ttf", "otf", "eot", "json", "xml", "txt", "pdf", "map"].map
    String.toList

def isAsset (p : Path) : Bool := assetExtensions.contains p.extension

end PageComposer.Files

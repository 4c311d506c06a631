import PageComposer.Files
import PageComposer.Settings.Printer
import PageComposer.Yaml.Document

/-!
# Settings in files

The settings of a project lie in a file of one of four names. `Settings.load` reads them; where there is
no such file, or an empty one, the defaults hold. `Settings.save` writes them.
-/

namespace PageComposer.Settings

def fileNames : List Text :=
  ["tessel.yaml", "tessel.yml", ".tesselrc.json", ".tesselrc"].map String.toList

def findAmong (directory : Path) : List Text → Action (Option Path)
  | [] => pure none
  | name :: rest => do
    if ← Action.isFile (directory.child name) then return some (directory.child name)
    else findAmong directory rest

def find? (directory : Path) : Action (Option Path) := findAmong directory fileNames

/-! ## Reading -/

/-- Does a value say nothing? Then it counts as no settings at all. -/
def isVoid : Value → Bool
  | .nothing => true
  | .flag b => !b
  | .integer n => n == 0
  | .number x => x.code == 0
  | .text s => s.isEmpty
  | .illFormed => false
  | .bytes octets => octets.isEmpty
  | .moment _ => false
  | .list items => items.isEmpty
  | .map entries => entries.isEmpty

def isText : Value → Bool
  | .text _ => true
  | .illFormed => true
  | _ => false

def ofValue (path : Text) (v : Value) : Except Failure Settings :=
  if isVoid v then .ok default
  else match v with
    | .map entries =>
      if entries.all (isText ·.1) then
        (ofEntries entries).mapError fun issues => .fault (.settings (.rejected path issues))
      else .error (.defect .unnamedSetting)
    | _ => .error (.fault (.settings (.notMapping path)))

def failureOf (path : Text) : Yaml.Trouble → Failure
  | .malformed => .fault (.settings (.malformed path))
  | .undecodable fault => .defect (.undecodable fault)
  | .tooDeep => .defect .nestedTooDeep
  | .scalar e => .defect (.scalar e)

def levels : Nat := 2

def ofContent (path : Text) (content : List UInt8) : Except Failure Settings :=
  match Yaml.Document.read levels (.ofBytes content) with
  | .error trouble => .error (failureOf path trouble)
  | .ok v => ofValue path v

def unreadable (p : Path) : Refusal → Failure
  | .system e => .fault (.settings (.unreadable p.toText e))
  | .embeddedNull => .defect .embeddedNull

def read (p : Path) : Action Settings := do
  let (content, _) ← Action.storage (unreadable p) (Storage.readFile p)
  Action.ofExcept (ofContent p.toText content)

/-- Reads settings from a stated file, which must be there, or else from one found in a directory. -/
def load (stated : Option Path) (directory : Path) : Action Settings := do
  match stated with
  | some p =>
    if ← Action.isPresent p then read p else Action.fail (.settings (.missing p.toText))
  | none =>
    match ← find? directory with
    | some p => read p
    | none => return default

/-! ## Writing -/

def save (s : Settings) (p : Path) : Action Unit := do
  Action.storage (Action.plainFailure p.parent) (Storage.ensureDirectory p.parent)
  Action.storage (Action.plainFailure p) (Storage.writeFile p (Utf8.encode s.write))

end PageComposer.Settings

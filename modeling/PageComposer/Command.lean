import PageComposer.CommandLine
import PageComposer.Listing
import PageComposer.Scaffold
import PageComposer.Site
import PageComposer.Text.ControlSequence
import PageComposer.Watch

/-!
# Commands

What the commands do. A command is done with a report, or it goes on watching its project; `Invocation.run`
carries both out, with a script in place of what happens meanwhile. A fault ends a command with its message
and exit code, except that watching goes on after a build that failed.
-/

namespace PageComposer

structure Project where
  settings : Settings
  root : Path

structure Report where
  exitCode : Int
  output : Text
  errors : Text
  deriving DecidableEq

inductive Outcome where
  | done (report : Report)
  /-- The command has written its output and goes on watching. -/
  | watching (output : Text) (project : Project)

/-! ## Projects -/

namespace Project

/-- Settings that ask for a verbose journal are heard where the command line says nothing. -/
def heed (settings : Settings) : Action Unit :=
  modify fun w =>
    if settings.verbose ∧ w.threshold = .info then { w with threshold := .debug } else w

def load (stated : Option Path) : Action Project := do
  let here ← Action.here
  let found ← match stated with
    | some p => pure (some p)
    | none => Settings.find? here
  let settings ← Settings.load found here
  heed settings
  match found with
  | some p => return ⟨settings, Path.ofLocation (p.resolve (← get).here).dropLast⟩
  | none => return ⟨settings, here⟩

def prepare (p : Project) : Action Composer := Site.prepare p.settings p.root

def build (p : Project) : Action BuildResult := Site.build p.settings p.root

/-- The build before the watching, which begins even if the build fails with a fault. -/
def buildFirst (p : Project) : Action Unit := do
  match ← Action.attempt p.build with
  | .ok _ => pure ()
  | .error (.fault f) => Action.log .error ("Build failed: ".toList ++ f.message)
  | .error (.defect d) => Action.abort d

def watcher (p : Project) : Action Watcher :=
  Watcher.start [p.settings.componentsIn p.root, p.settings.pagesIn p.root]

def rebuild (p : Project) (_ : List Change) : Action Unit := do
  let _ ← p.build

def watch (p : Project) (script : List (Action Unit)) : Action (Watcher × List (List Change)) := do
  let watcher ← p.watcher
  watcher.run p.rebuild script

end Project

/-! ## Reports -/

namespace Report

def success (output : Text) : Report := ⟨0, output, []⟩

def failure (message : Text) (exitCode : Int) : Report :=
  ⟨exitCode, [], Text.withoutSequences ("Error: ".toList ++ message ++ ['\n'])⟩

def ofFault (f : Fault) : Report := failure f.message f.exitCode

def ofDefect (d : Defect) : Report :=
  ⟨1, [], Text.withoutSequences ("Unexpected error: ".toList ++ d.message ++ ['\n'])⟩

def ofFailure : Failure → Report
  | .fault f => ofFault f
  | .defect d => ofDefect d

end Report

def reporting (x : Action Outcome) : Action Outcome := do
  match ← Action.attempt x with
  | .ok outcome => return outcome
  | .error (.fault f) => return .done (.ofFault f)
  | .error (.defect d) => Action.abort d

/-! ## The commands -/

namespace Command

def builtText (result : BuildResult) : Text :=
  "✓ Built ".toList ++ Text.ofNat result.written.length ++ " pages from ".toList ++
    Text.ofNat result.components.length ++ " components\n".toList

def startBuild (settings : Option Path) (goOn : Bool) : Action Outcome :=
  reporting do
    let project ← Project.load settings
    let output := builtText (← project.build)
    if goOn || project.settings.watch then return .watching output project
    else return .done (.success output)

def startWatch (settings : Option Path) : Action Outcome :=
  reporting do
    let project ← Project.load settings
    project.buildFirst
    return .watching [] project

def startCompose (page : Text) (settings : Option Path) : Action Outcome :=
  reporting do
    let project ← Project.load settings
    let composer ← project.prepare
    return .done (.success (Text.withoutSequences (← Site.compose composer (some page) none)))

def startList (settings : Option Path) : Action Outcome :=
  reporting do
    let project ← Project.load settings
    let composer ← project.prepare
    match Listing.text composer with
    | .ok s => return .done (.success s)
    | .error e => Action.abort (.numeral e)

def startInit (force : Bool) : Action Outcome :=
  reporting do
    let root ← Action.here
    let settings := Scaffold.settingsPath root
    if (← Action.isPresent settings) && !force then
      let message := settings.name ++ " already exists (use --force to overwrite)".toList
      return .done (.failure message 1)
    else
      Scaffold.make root
      return .done (.success "Initialized tessel in current directory\n".toList)

def start : Command → Action Outcome
  | build settings goOn => startBuild settings goOn
  | watch settings => startWatch settings
  | compose page settings => startCompose page settings
  | list settings => startList settings
  | init force => startInit force

end Command

/-! ## Invocations -/

namespace Invocation

def threshold (i : Invocation) (debugging : Bool) : Level :=
  if debugging || i.verbose then .debug else if i.quiet then .error else .info

def start (i : Invocation) (debugging : Bool) : Action Outcome := do
  modify fun w => { w with threshold := i.threshold debugging }
  i.command.start

def run (i : Invocation) (debugging : Bool) (script : List (Action Unit)) :
    Action (Report × List Binary64) := do
  match ← i.start debugging with
  | .done report => return (report, [])
  | .watching output project =>
    let _ ← project.watch script
    return (.success output, List.replicate (script.length + 1) project.settings.interval)

end Invocation

def versionText : Text := "tessel 0.4.0\n".toList

end PageComposer

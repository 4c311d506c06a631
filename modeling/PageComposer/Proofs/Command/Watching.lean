import PageComposer.Proofs.Site.ExitCode
import PageComposer.Proofs.Site.Output
import PageComposer.Proofs.Watch.Edits

/-!
# Two commands that watch

`build -w` and `watch` both build a project and go on to watch it. Their runs are alike, but for what they print,
exactly if the first build does not end with a fault (`watching_alike_iff`): a fault ends `build -w`, and `watch`
notes it and goes on.
-/

namespace PageComposer

open Workspace

structure Course where
  report : Report
  pauses : List Binary64
  rebuilt : List (List Change)

def Course.conduct (c : Course) : Int × List Binary64 × List (List Change) := (c.report.exitCode, c.pauses, c.rebuilt)

/-- The two runs leave the same workspace and go the same way, but for what they print. -/
structure Alike (w : Workspace) (x y : Action Course) : Prop where
  after : w.after x = w.after y
  outcome : (w.outcome x).map Course.conduct = (w.outcome y).map Course.conduct

namespace Project
variable {p : Project} {w : Workspace} {output output' : Text} {script : List (Action Unit)}

def course (p : Project) (output : Text) (script : List (Action Unit)) : Action Course := do
  let (_, batches) ← p.watch script
  return ⟨.success output, List.replicate (script.length + 1) p.settings.interval, batches⟩

theorem alike_course : Alike w (p.course output script) (p.course output' script) := by
  constructor
  · unfold course
    rw [after_bind, after_bind]
    rfl
  · unfold course
    rw [outcome_bind, outcome_bind]
    cases w.outcome (p.watch script) <;> rfl

theorem exitCode_course {c : Course} (done : w.outcome (p.course output script) = .ok c) : c.report.exitCode = 0 := by
  obtain ⟨⟨watcher, batches⟩, -, done⟩ := outcome_bind_eq_ok.1 done
  cases done
  rfl

theorem outcome_buildFirst : w.outcome p.buildFirst = match w.outcome p.build with
    | .error (.defect d) => .error (.defect d)
    | _ => .ok () := by
  unfold buildFirst
  rw [outcome_bind_of_ok (outcome_attempt _)]
  cases w.outcome p.build with
  | ok result => rfl
  | error e => cases e <;> rfl

theorem after_buildFirst (noFault : ∀ f, w.outcome p.build ≠ .error (.fault f)) :
    w.after p.buildFirst = w.after p.build := by
  unfold buildFirst
  rw [after_bind_of_ok (outcome_attempt _), after_attempt]
  cases built : w.outcome p.build with
  | ok result => rfl
  | error e =>
      cases e with
      | fault f => exact (noFault f built).elim
      | defect d => rfl

end Project

def Outcome.pursue (script : List (Action Unit)) : Outcome → Action Course
  | done report => return ⟨report, [], []⟩
  | watching output project => project.course output script

namespace Invocation
variable {i : Invocation} {debugging : Bool} {script : List (Action Unit)} {w : Workspace}

def follow (i : Invocation) (debugging : Bool) (script : List (Action Unit)) : Action Course := do
  (← i.start debugging).pursue script

theorem run_eq_follow (i : Invocation) (debugging : Bool) (script : List (Action Unit)) :
    i.run debugging script = do
      let course ← i.follow debugging script
      return (course.report, course.pauses) := by
  unfold run follow
  rw [bind_assoc]
  congr 1
  funext outcome
  cases outcome with
  | done report => rfl
  | watching output project => simp only [Outcome.pursue, Project.course, bind_assoc, pure_bind]

def opening (i : Invocation) (debugging : Bool) (w : Workspace) : Workspace :=
  { w with threshold := i.threshold debugging }

theorem outcome_follow : w.outcome (i.follow debugging script) =
    (i.opening debugging w).outcome (i.command.start >>= Outcome.pursue script) := by
  unfold follow start
  rw [bind_assoc, outcome_bind_of_ok (outcome_modify _), after_modify]
  rfl

theorem after_follow : w.after (i.follow debugging script) =
    (i.opening debugging w).after (i.command.start >>= Outcome.pursue script) := by
  unfold follow start
  rw [bind_assoc, after_bind_of_ok (outcome_modify _), after_modify]
  rfl

end Invocation

namespace Command
variable {w first : Workspace} {stated : Option Path} {p : Project} {f : Fault}
  (loads : (Project.load stated).run w = .ok p first)
include loads

theorem after_startBuild : w.after (startBuild stated true) = first.after p.build := by
  obtain ⟨loaded, rfl⟩ := run_eq_ok.1 loads
  unfold startBuild
  rw [Site.after_reporting, after_bind_of_ok loaded, after_bind]
  cases (w.after (Project.load stated)).outcome p.build <;> rfl

theorem outcome_startBuild : w.outcome (startBuild stated true) = match first.outcome p.build with
    | .ok result => .ok (.watching (builtText result) p)
    | .error (.fault f) => .ok (.done (.ofFault f))
    | .error (.defect d) => .error (.defect d) := by
  obtain ⟨loaded, rfl⟩ := run_eq_ok.1 loads
  unfold startBuild
  rw [Site.outcome_reporting, outcome_bind_of_ok loaded, outcome_bind]
  cases (w.after (Project.load stated)).outcome p.build with
  | ok result => rfl
  | error e => cases e <;> rfl

theorem after_startWatch : w.after (startWatch stated) = first.after p.buildFirst := by
  obtain ⟨loaded, rfl⟩ := run_eq_ok.1 loads
  unfold startWatch
  rw [Site.after_reporting, after_bind_of_ok loaded, after_bind]
  cases (w.after (Project.load stated)).outcome p.buildFirst <;> rfl

theorem outcome_startWatch : w.outcome (startWatch stated) = match first.outcome p.build with
    | .error (.defect d) => .error (.defect d)
    | _ => .ok (.watching [] p) := by
  obtain ⟨loaded, rfl⟩ := run_eq_ok.1 loads
  unfold startWatch
  rw [Site.outcome_reporting, outcome_bind_of_ok loaded, outcome_bind, Project.outcome_buildFirst]
  cases (w.after (Project.load stated)).outcome p.build with
  | ok result => rfl
  | error e => cases e <;> rfl

theorem alike_of_no_fault (script : List (Action Unit)) (noFault : ∀ f, first.outcome p.build ≠ .error (.fault f)) :
    Alike w (startBuild stated true >>= Outcome.pursue script) (startWatch stated >>= Outcome.pursue script) := by
  have builds := outcome_startBuild loads
  have watches := outcome_startWatch loads
  have left : w.after (startBuild stated true) = w.after (startWatch stated) := by
    rw [after_startBuild loads, after_startWatch loads, Project.after_buildFirst noFault]
  cases built : first.outcome p.build with
  | ok result =>
      rw [built] at builds watches
      have course : Alike (w.after (startWatch stated)) (p.course (builtText result) script) (p.course [] script) :=
        Project.alike_course
      constructor
      · rw [after_bind_of_ok builds, after_bind_of_ok watches, left]
        exact course.after
      · rw [outcome_bind_of_ok builds, outcome_bind_of_ok watches, left]
        exact course.outcome
  | error e =>
      cases e with
      | fault f => exact (noFault f built).elim
      | defect d =>
          rw [built] at builds watches
          constructor
          · rw [after_bind_of_error builds, after_bind_of_error watches, left]
          · rw [outcome_bind_of_error builds, outcome_bind_of_error watches]

theorem build_of_fault (script : List (Action Unit)) (failed : first.outcome p.build = .error (.fault f)) :
    w.outcome (startBuild stated true >>= Outcome.pursue script) = .ok ⟨.ofFault f, [], []⟩ ∧
      w.after (startBuild stated true >>= Outcome.pursue script) = first.after p.build := by
  have builds := outcome_startBuild loads
  rw [failed] at builds
  rw [outcome_bind_of_ok builds, after_bind_of_ok builds, after_startBuild loads]
  exact ⟨rfl, rfl⟩

theorem watch_of_fault (script : List (Action Unit)) (failed : first.outcome p.build = .error (.fault f)) :
    w.outcome (startWatch stated >>= Outcome.pursue script) = (first.after p.buildFirst).outcome (p.course [] script) ∧
      w.after (startWatch stated >>= Outcome.pursue script) =
        (first.after p.buildFirst).after (p.course [] script) := by
  have watches := outcome_startWatch loads
  rw [failed] at watches
  rw [outcome_bind_of_ok watches, after_bind_of_ok watches, after_startWatch loads]
  exact ⟨rfl, rfl⟩

end Command

section
variable {w first : Workspace} {verbose quiet debugging : Bool} {stated : Option Path} {p : Project} {f : Fault}
  {script : List (Action Unit)}

def followBuild (verbose quiet debugging : Bool) (stated : Option Path) (script : List (Action Unit)) : Action Course :=
  Invocation.follow ⟨verbose, quiet, .build stated true⟩ debugging script

def followWatch (verbose quiet debugging : Bool) (stated : Option Path) (script : List (Action Unit)) : Action Course :=
  Invocation.follow ⟨verbose, quiet, .watch stated⟩ debugging script

/-- The one run has ended with a fault, and the other has gone on from what the failed build has left. -/
structure Parted (p : Project) (f : Fault) (script : List (Action Unit)) (first w : Workspace)
    (x y : Action Course) : Prop where
  ended : w.outcome x = .ok ⟨.ofFault f, [], []⟩
  exitCode : f.exitCode = 1
  left : w.after x = first.after p.build
  goneOn : w.outcome y = (first.after p.buildFirst).outcome (p.course [] script)
  exitCodeLater : ∀ c, w.outcome y = .ok c → c.report.exitCode = 0
  leftLater : w.after y = (first.after p.buildFirst).after (p.course [] script)

theorem Parted.not_alike {x y : Action Course} (parted : Parted p f script first w x y) : ¬Alike w x y := by
  intro alike
  have same := alike.outcome
  rw [parted.ended] at same
  cases done : w.outcome y with
  | error e =>
      rw [done] at same
      cases same
  | ok c =>
      rw [done] at same
      have codes : f.exitCode = c.report.exitCode := congrArg Prod.fst (Except.ok.inj same)
      rw [parted.exitCode, parted.exitCodeLater c done] at codes
      cases codes

/-- Where the settings can be loaded, the runs of the two commands are alike exactly if the first build does not end
with a fault. If it does, `build -w` ends with exit code 1 and builds no more, and `watch` goes on and has the exit
code 0 in the end. -/
theorem watching_alike_iff
    (loads : (Project.load stated).run (Invocation.opening ⟨verbose, quiet, .watch stated⟩ debugging w) = .ok p first) :
    (Alike w (followBuild verbose quiet debugging stated script) (followWatch verbose quiet debugging stated script) ↔
      ∀ f, first.outcome p.build ≠ .error (.fault f)) ∧
    ∀ f, first.outcome p.build = .error (.fault f) → Parted p f script first w
      (followBuild verbose quiet debugging stated script) (followWatch verbose quiet debugging stated script) := by
  have parted (f : Fault) (failed : first.outcome p.build = .error (.fault f)) : Parted p f script first w
      (followBuild verbose quiet debugging stated script) (followWatch verbose quiet debugging stated script) := by
    obtain ⟨ended, left⟩ := Command.build_of_fault loads script failed
    obtain ⟨goneOn, leftLater⟩ := Command.watch_of_fault loads script failed
    have goneOn := Invocation.outcome_follow.trans goneOn
    refine ⟨Invocation.outcome_follow.trans ended, Site.exitCode_of_failed_build failed,
      Invocation.after_follow.trans left, goneOn, fun c done => ?_, Invocation.after_follow.trans leftLater⟩
    exact Project.exitCode_course (goneOn.symm.trans done)
  refine ⟨⟨fun alike f failed => (parted f failed).not_alike alike, fun noFault => ?_⟩, parted⟩
  have alike := Command.alike_of_no_fault loads script noFault
  constructor
  · exact Invocation.after_follow.trans (alike.after.trans Invocation.after_follow.symm)
  · exact (congrArg _ Invocation.outcome_follow).trans (alike.outcome.trans (congrArg _ Invocation.outcome_follow.symm))

def torn : Workspace := .holding [("src", none), ("src/components", none), ("src/pages", none),
  ("src/pages/index.html", "\x7b\x7bCard\x7d\x7d")]

def whole : Workspace := .holding [("src", none), ("src/components", none), ("src/components/Card.html", "Hello"),
  ("src/pages", none), ("src/pages/index.html", "\x7b\x7bCard\x7d\x7d")]

def mending : List (Action Unit) :=
  [Edit.perform [.write ["src".toList, "components".toList, "Card.html".toList] (Utf8.encode "Hello".toList) 7],
    pure ()]

def plainProject : Project := ⟨.default, .ofLocation []⟩

def quietly (w : Workspace) : Workspace := Invocation.opening ⟨false, true, .watch none⟩ false w

def faulted {α : Type} : Except Failure α → Bool
  | .error (.fault _) => true
  | _ => false

theorem faulted_iff {α : Type} {r : Except Failure α} : faulted r = true ↔ ∃ f, r = .error (.fault f) := by
  constructor
  · intro h
    cases r with
    | ok a => cases h
    | error e =>
        cases e with
        | fault f => exact ⟨f, rfl⟩
        | defect d => cases h
  · rintro ⟨f, rfl⟩
    rfl

theorem watching_alike_iff_torn :
    (∃ first f, (Project.load none).run (quietly torn) = .ok plainProject first ∧
      Parted plainProject f mending first torn (followBuild false true false none mending)
        (followWatch false true false none mending)) ∧
    ∃ first, (Project.load none).run (quietly whole) = .ok plainProject first ∧
      Alike whole (followBuild false true false none mending) (followWatch false true false none mending) := by
  constructor
  · have loads : (Project.load none).run (quietly torn) = .ok plainProject _ := run_eq_ok.2 ⟨rfl, rfl⟩
    have faults : faulted (((quietly torn).after (Project.load none)).outcome plainProject.build) = true := by
      decide +kernel
    obtain ⟨f, failed⟩ := faulted_iff.1 faults
    exact ⟨_, f, loads, (watching_alike_iff loads).2 f failed⟩
  · have loads : (Project.load none).run (quietly whole) = .ok plainProject _ := run_eq_ok.2 ⟨rfl, rfl⟩
    have fine : ¬faulted (((quietly whole).after (Project.load none)).outcome plainProject.build) = true := by
      decide +kernel
    exact ⟨_, loads, (watching_alike_iff loads).1.2 fun f failed => fine (faulted_iff.2 ⟨f, failed⟩)⟩

def indexFile : Location := ["public".toList, "index.html".toList]

/-- One command has ended with exit code 1 and without the page, and the other has built the page when it could. -/
theorem not_alike_of_mending :
    (torn.outcome (Project.load none)).isOk ∧
    ((torn.outcome (followBuild false true false none mending)).map Course.conduct).toOption = some (1, [], []) ∧
    (torn.after (followBuild false true false none mending)).tree.content? indexFile = none ∧
    ((torn.outcome (followWatch false true false none mending)).map Course.conduct).toOption =
      some (0, List.replicate 3 Settings.default.interval,
        [[⟨.added, .ofLocation ["src".toList, "components".toList, "Card.html".toList]⟩]]) ∧
    (torn.after (followWatch false true false none mending)).tree.content? indexFile =
      some (Utf8.encode "Hello".toList) := by
  decide +kernel

end

end PageComposer

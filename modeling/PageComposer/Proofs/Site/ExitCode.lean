import PageComposer.Proofs.Workspace.Run
import PageComposer.Site

/-!
# Exit codes of builds

A build that ends with a fault has the exit code 1 (`exitCode_of_failed_build`): other exit codes belong to the faults
of settings, and a build has its settings already. Each action that a build is made of fails ordinarily; where a
failure is a part of the result of an action, that one is ordinary too (`ReportsOrdinarily`).
-/

namespace PageComposer

open Workspace

def Failure.Ordinary : Failure → Prop
  | .fault f => f.exitCode = 1
  | .defect _ => True

abbrev FailsOrdinarily {α : Type} (w : Workspace) (x : Action α) : Prop := FailsOnly Failure.Ordinary w x

namespace FailsOrdinarily
variable {α : Type} {w : Workspace} {p : Path}

theorem ofFile (action : FileAction) (x : Storage α) :
    FailsOrdinarily w (Action.storage (Action.fileFailure action p) x) :=
  .storage fun r => by cases r <;> trivial

theorem plain (x : Storage α) : FailsOrdinarily w (Action.storage (Action.plainFailure p) x) :=
  .storage fun r => by cases r <;> trivial

theorem list (p : Path) : FailsOrdinarily w (Files.list p) := .bind (ofFile _ _) fun _ _ => .pure _

theorem readText (p : Path) : FailsOrdinarily w (Files.readText p) := by
  refine .bind (ofFile _ _) fun (content, _) _ => ?_
  dsimp only
  cases Utf8.read content with
  | ok s => exact .pure s
  | error fault => exact .throw rfl

theorem copy (source target : Path) : FailsOrdinarily w (Files.copy source target) := by
  refine .bind (ofFile _ _) fun same _ => ?_
  cases same with
  | none => exact .pure ()
  | some shown => exact .throw rfl

theorem copyEntries {target : Path} {deeper : List Text → Action (List (List Text))}
    (deeperFails : ∀ w names, FailsOrdinarily w (deeper names)) (names : List Text) (entries : List Path) :
    FailsOrdinarily w (Files.copyInto.copyEntries target deeper names entries) := by
  induction entries generalizing w with
  | nil => exact .pure _
  | cons entry rest ih =>
      refine .bind (.bind (plain _) fun isDirectory _ => ?_) fun _ _ => .bind ih fun _ _ => .pure _
      cases isDirectory with
      | true => exact deeperFails _ _
      | false => exact .bind (copy _ _) fun _ _ => .pure _

theorem copyInto (source target : Path) (room : Nat) (names : List Text) :
    FailsOrdinarily w (Files.copyInto source target room names) := by
  induction room generalizing w names with
  | zero => exact .throw trivial
  | succ room ih =>
      exact .bind (ofFile _ _) fun _ _ => .bind (list _) fun entries _ => copyEntries (fun _ => ih) names entries

theorem copyTree (source target : Path) : FailsOrdinarily w (Files.copyTree source target) := by
  refine .bind (plain _) fun isDirectory _ => ?_
  cases isDirectory with
  | true => exact copyInto source target _ _
  | false => exact .pure _

theorem inEntries (recursive : Bool) {deeper : Path → Action (List Path)}
    (deeperFails : ∀ w q, FailsOrdinarily w (deeper q)) (entries : List Path) :
    FailsOrdinarily w (Loading.templates.inEntries recursive deeper entries) := by
  induction entries generalizing w with
  | nil => exact .pure _
  | cons entry rest ih =>
      refine .bind (.bind (plain _) fun isDirectory _ => ?_) fun _ _ => .bind ih fun _ _ => .pure _
      cases isDirectory with
      | false => exact .pure _
      | true =>
          cases recursive with
          | true => exact deeperFails _ entry
          | false => exact .pure _

theorem templates (recursive : Bool) (room : Nat) (directory : Path) :
    FailsOrdinarily w (Loading.templates recursive room directory) := by
  induction room generalizing w directory with
  | zero => exact .throw trivial
  | succ room ih => exact .bind (list _) fun entries _ => inEntries recursive (fun _ => ih) entries

theorem loadComponent (base : Path) (registry : Registry) (p : Path) :
    FailsOrdinarily w (Loading.loadComponent base registry p) := by
  unfold Loading.loadComponent
  cases Loading.componentName? base p with
  | none => exact .throw trivial
  | some name =>
      refine .bind (readText p) fun content _ => .bind (.ofExcept fun e refused => ?_) fun (registry, records) _ =>
        .bind (.records _) fun _ _ => .pure _
      unfold Registry.register at refused
      dsimp only at refused
      split at refused
      · cases refused
      · cases refused
        exact rfl

theorem loadPage (composer : Composer) (p : Path) : FailsOrdinarily w (Loading.loadPage composer p) :=
  .bind (readText p) fun _ _ => .bind (.record _) fun _ _ => .pure _

end FailsOrdinarily

structure ReportsOrdinarily {α β : Type} (w : Workspace) (x : Action (α × Except Failure β)) : Prop where
  fails : FailsOrdinarily w x
  reports : ∀ a e, w.outcome x = .ok (a, .error e) → e.Ordinary

namespace ReportsOrdinarily
variable {α : Type} {w : Workspace} {load : α → Path → Action (α × Text)}

theorem loadEach (loadFails : ∀ w loaded p, FailsOrdinarily w (load loaded p)) (loaded : α) (paths : List Path) :
    ReportsOrdinarily w (Loading.loadEach load loaded paths) := by
  induction paths generalizing w loaded with
  | nil => exact ⟨.pure _, fun loaded' e done => nomatch done⟩
  | cons p rest ih =>
      constructor
      · refine .bind (.attempt _) fun result _ => ?_
        cases result with
        | error e => exact .pure _
        | ok result => exact .bind (ih result.1).fails fun _ _ => .pure _
      · intro loaded' e done
        obtain ⟨result, first, done⟩ := outcome_bind_eq_ok.1 done
        rw [outcome_attempt] at first
        cases result with
        | error e' =>
            cases done
            exact loadFails w loaded p e (Except.ok.inj first)
        | ok result =>
            obtain ⟨⟨loaded'', names⟩, later, done⟩ := outcome_bind_eq_ok.1 done
            cases names with
            | ok names => cases done
            | error e' =>
                cases done
                exact (ih result.1).reports _ _ later

theorem loadFound (loadFails : ∀ w loaded p, FailsOrdinarily w (load loaded p)) (loaded : α) (summary : Nat → Text)
    {found : Except Failure (List Path)} (ordinary : ∀ e, found = .error e → e.Ordinary) :
    ReportsOrdinarily w (Loading.loadFound load loaded summary found) := by
  cases found with
  | error e =>
      refine ⟨.pure _, fun loaded' e' done => ?_⟩
      cases done
      exact ordinary e rfl
  | ok paths =>
      have each : ReportsOrdinarily w (Loading.loadEach load loaded paths) := loadEach loadFails loaded paths
      constructor
      · refine .bind each.fails fun (loaded', names) _ => ?_
        cases names with
        | ok names => exact .bind (.record _) fun _ _ => .pure _
        | error e => exact .pure _
      · intro loaded' e done
        obtain ⟨⟨loaded'', names⟩, ended, done⟩ := outcome_bind_eq_ok.1 done
        cases names with
        | ok names => cases done
        | error e' =>
            cases done
            exact each.reports _ _ ended

theorem search (loadFails : ∀ w loaded p, FailsOrdinarily w (load loaded p)) (loaded : α) (summary : Nat → Text)
    (recursive : Bool) (room : Nat) (directory : Path) :
    ReportsOrdinarily w (do
      let found ← Action.attempt (Loading.templates recursive room directory)
      Loading.loadFound load loaded summary found) := by
  have found (w' : Workspace) : ReportsOrdinarily w'
      (Loading.loadFound load loaded summary (w.outcome (Loading.templates recursive room directory))) :=
    loadFound loadFails loaded summary fun e => FailsOrdinarily.templates recursive room directory e
  constructor
  · refine .bind (.attempt _) fun result searched => ?_
    rw [outcome_attempt] at searched
    cases searched
    exact (found _).fails
  · intro loaded' e done
    rw [outcome_bind, outcome_attempt] at done
    exact (found _).reports _ _ done

theorem loadComponents (registry : Registry) (base : Path) :
    ReportsOrdinarily w (Loading.loadComponents registry base) :=
  search (fun _ => FailsOrdinarily.loadComponent base) registry _ true _ base

theorem loadPages (composer : Composer) (directory : Path) :
    ReportsOrdinarily w (Loading.loadPages composer directory) :=
  search (fun _ => FailsOrdinarily.loadPage) composer _ false _ directory

end ReportsOrdinarily

namespace FailsOrdinarily
variable {w : Workspace}

theorem load (components pages : Path) : FailsOrdinarily w (Site.load components pages) := by
  have first : ReportsOrdinarily w (Loading.loadComponents .empty components) := .loadComponents _ _
  refine .bind first.fails fun (registry, names) done =>
    .bind (.ofExcept fun e refused => first.reports registry e (refused ▸ done)) fun _ _ =>
      .bind (.record _) fun _ _ => ?_
  exact .bind (ReportsOrdinarily.loadPages _ pages).fails fun (composer, names) done =>
    .bind (.ofExcept fun e refused =>
      (ReportsOrdinarily.loadPages _ pages).reports composer e (refused ▸ done)) fun _ _ =>
      .bind (.record _) fun _ _ => .pure _

theorem prepare (settings : Settings) (root : Path) : FailsOrdinarily w (Site.prepare settings root) := by
  refine .bind (.bind (plain _) fun present _ => ?_) fun _ _ => load _ _
  cases present with
  | true => exact .pure _
  | false => exact .bind (ofFile _ _) fun _ _ => .bind (ofFile _ _) fun _ _ => .record _

theorem compose (composer : Composer) (name given : Option Text) :
    FailsOrdinarily w (Site.compose composer name given) := by
  unfold Site.compose
  generalize composer.compose Composer.stackRoom name given = composed
  obtain ⟨trace, outcome⟩ := composed
  refine .bind (.records _) fun _ _ => .ofExcept fun e failed => ?_
  cases outcome with
  | ok text => cases failed
  | error fault =>
      cases failed
      cases fault with
      | noPage name => exact rfl
      | expansion fault => cases fault <;> trivial

theorem composeAll (composer : Composer) (names : List Text) : FailsOrdinarily w (Site.composeAll composer names) := by
  induction names generalizing w with
  | nil => exact .pure _
  | cons name rest ih => exact .bind (compose _ _ _) fun _ _ => .bind ih fun _ _ => .pure _

theorem plan (settings : Settings) (root : Path) : FailsOrdinarily w (Site.plan settings root) :=
  .bind (prepare _ _) fun _ _ => .bind (ofFile _ _) fun _ _ => .bind (.record _) fun _ _ =>
    .bind (composeAll _ _) fun _ _ => .pure _

theorem writePages (output : Path) (composed : List (Text × Text)) :
    FailsOrdinarily w (Site.writePages output composed) := by
  induction composed generalizing w with
  | nil => exact .pure _
  | cons page rest ih =>
      exact .bind (.bind (ofFile _ _) fun _ _ => .bind (.record _) fun _ _ => .pure _) fun _ _ =>
        .bind ih fun _ _ => .pure _

theorem copyAssets (assets output : Path) : FailsOrdinarily w (Site.copyAssets assets output) := by
  refine .bind (plain _) fun isDirectory _ => ?_
  cases isDirectory with
  | false => exact .pure _
  | true =>
      refine .bind (.record _) fun _ _ => .bind (copyTree _ _) fun copied _ => ?_
      dsimp only
      split
      · exact .bind (.record _) fun _ _ => .pure _
      · exact .pure _

theorem build (settings : Settings) (root : Path) : FailsOrdinarily w (Site.build settings root) :=
  .bind (plan _ _) fun _ _ =>
    .bind (.bind (writePages _ _) fun _ _ => .bind (copyAssets _ _) fun _ _ => .pure _) fun _ _ => .pure _

end FailsOrdinarily

theorem Site.exitCode_of_failed_build {settings : Settings} {root : Path} {w : Workspace} {f : Fault}
    (failed : w.outcome (build settings root) = .error (.fault f)) : f.exitCode = 1 :=
  FailsOrdinarily.build settings root _ failed

end PageComposer

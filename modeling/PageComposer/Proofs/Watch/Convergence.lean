import PageComposer.Proofs.Watch.Round

/-!
# Watching converges

`Watching` holds after a whole run, by induction on the script of edits (`ends_watch`). So at the end of a script with a
quiet last pause nothing is pending and the project is up to date (`watch_converges`).
-/

namespace PageComposer

open FileTree Workspace

namespace Project
variable {p : Project} {w w' first : Workspace} {script : List (List Edit)} {watcher : Watcher} {edits : List Edit}

def batchOf (ready : List Change) : List (List Change) := if ready = [] then [] else [ready]

theorem rounds_nil (react : List Change → Action Unit) (watcher : Watcher) :
    Watcher.rounds react [] watcher = do
      let (watcher, ready) ← watcher.round react
      return (watcher, batchOf ready) := rfl

theorem rounds_snoc (react : List Change → Action Unit) (script : List (Action Unit)) (pause : Action Unit)
    (watcher : Watcher) : Watcher.rounds react (script ++ [pause]) watcher = do
      let (watcher, batches) ← Watcher.rounds react script watcher
      pause
      let (watcher, ready) ← watcher.round react
      return (watcher, batches ++ batchOf ready) := by
  induction script generalizing watcher with
  | nil =>
      rw [List.nil_append, Watcher.rounds]
      simp only [rounds_nil, bind_assoc, pure_bind]
      rfl
  | cons x script ih =>
      rw [List.cons_append, Watcher.rounds, Watcher.rounds]
      simp only [ih, bind_assoc, pure_bind, List.append_assoc]

/-- Edits are made in the sources, and give times that their paths never had. -/
structure SourceEdits (p : Project) (w : Workspace) (script : List (List Edit)) : Prop where
  inside : ∀ edits ∈ script, ∀ e ∈ edits, e.Below (p.components.resolve w.here) ∨ e.Below (p.pages.resolve w.here)
  fresh : Edit.Fresh w.tree script

instance (p : Project) (w : Workspace) (script : List (List Edit)) : Decidable (SourceEdits p w script) :=
  decidable_of_iff
    ((∀ edits ∈ script, ∀ e ∈ edits, e.Below (p.components.resolve w.here) ∨ e.Below (p.pages.resolve w.here)) ∧
      Edit.Fresh w.tree script)
    ⟨fun ⟨inside, fresh⟩ => ⟨inside, fresh⟩, fun h => ⟨h.inside, h.fresh⟩⟩

/-- No pause ends with an empty directory that has been made in it. The workspace before a pause is the one where the
watching would have ended without it. -/
structure Editing (p : Project) (w : Workspace) (script : List (List Edit)) : Prop extends SourceEdits p w script where
  filled : ∀ earlier edits later, script = earlier ++ edits :: later → ∀ result w',
    (p.watch (earlier.map Edit.perform)).run w = .ok result w' → Filled w'.tree (Edit.applyAll w'.tree edits)

theorem Editing.earlier (editing : Editing p w (script ++ [edits])) : Editing p w script where
  inside := fun edits member => editing.inside edits (List.mem_append_left _ member)
  fresh := editing.fresh.earlier
  filled := fun earlier edits later split =>
    editing.filled earlier edits (later ++ _) (by rw [split, List.append_assoc, List.cons_append])

theorem Watching.of_stamps {script' : List (List Edit)} (watching : Watching p first script watcher w)
    (same : Edit.stamps script = Edit.stamps script') : Watching p first script' watcher w :=
  { watching with times := same ▸ watching.times }

theorem nextEdits_nil (fresh : Edit.Fresh first.tree []) : NextEdits p first [] w [] where
  inside := by simp
  fresh := ⟨fresh.distinct, fresh.unused⟩
  filled := fun _ h isNew => absurd h isNew

inductive Ends (p : Project) (first : Workspace) (script : List (List Edit)) :
    Except Failure (Watcher × List (List Change)) → Workspace → Prop
  | watching {watcher : Watcher} {batches : List (List Change)} {w : Workspace} (h : Watching p first script watcher w)
      (quiet : script.getLast? = some [] → watcher.pending = []) : Ends p first script (.ok (watcher, batches)) w
  | cutShort {e : Failure} {w : Workspace} (h : CutShort p w) : Ends p first script (.error e) w

theorem ends_rounds_nil (watching : Watching p first [] watcher w) (fresh : Edit.Fresh first.tree []) :
    Ends p first [] (w.outcome (Watcher.rounds p.rebuild [] watcher))
    (w.after (Watcher.rounds p.rebuild [] watcher)) := by
  rw [rounds_nil]
  rcases watching_round watching (nextEdits_nil fresh) with ⟨watcher', ready, done, watching', -⟩ | ⟨⟨e, refused⟩, cut⟩
  · have done : w.outcome (watcher.round p.rebuild) = .ok (watcher', ready) := done
    rw [outcome_bind_of_ok done, after_bind_of_ok done]
    exact .watching (watching'.of_stamps rfl) (by simp)
  · have refused : w.outcome (watcher.round p.rebuild) = .error e := refused
    rw [outcome_bind_of_error refused, after_bind_of_error refused]
    exact .cutShort cut

theorem ends_rounds_snoc
    (ends : Ends p first script (w.outcome (Watcher.rounds p.rebuild (script.map Edit.perform) watcher))
      (w.after (Watcher.rounds p.rebuild (script.map Edit.perform) watcher)))
    (next : ∀ watcher' batches,
      w.outcome (Watcher.rounds p.rebuild (script.map Edit.perform) watcher) = .ok (watcher', batches) →
      Watching p first script watcher' (w.after (Watcher.rounds p.rebuild (script.map Edit.perform) watcher)) →
      NextEdits p first script (w.after (Watcher.rounds p.rebuild (script.map Edit.perform) watcher)) edits) :
    Ends p first (script ++ [edits])
    (w.outcome (Watcher.rounds p.rebuild ((script ++ [edits]).map Edit.perform) watcher))
      (w.after (Watcher.rounds p.rebuild ((script ++ [edits]).map Edit.perform) watcher)) := by
  rw [List.map_append, List.map_singleton, rounds_snoc]
  cases earlier : w.outcome (Watcher.rounds p.rebuild (script.map Edit.perform) watcher) with
  | error e =>
      rw [earlier] at ends
      rw [outcome_bind_of_error earlier, after_bind_of_error earlier]
      cases ends with
      | cutShort cut => exact .cutShort cut
  | ok found =>
      obtain ⟨watcher', batches⟩ := found
      rw [earlier] at ends
      rw [outcome_bind_of_ok earlier, after_bind_of_ok earlier]
      cases ends with
      | watching watching quiet =>
          have next := next watcher' batches earlier watching
          dsimp only
          rw [outcome_bind_of_ok (outcome_perform edits), after_bind_of_ok (outcome_perform edits), after_perform]
          rcases watching_round watching next with ⟨watcher'', ready, done, watching', quiet'⟩ | ⟨⟨e, refused⟩, cut⟩
          · rw [outcome_bind_of_ok done, after_bind_of_ok done]
            exact .watching watching' fun last => quiet' (by simpa using last)
          · rw [outcome_bind_of_error refused, after_bind_of_error refused]
            exact .cutShort cut

theorem fileless_announce (watcher : Watcher) : Fileless watcher.announce := by
  refine .bind ?_ fun _ => .record _
  induction watcher.paths with
  | nil => exact .pure ()
  | cons base rest ih => exact .bind (.record _) fun _ => ih

theorem outcome_announce (watcher : Watcher) : w.outcome watcher.announce = .ok () := by
  unfold Watcher.announce
  rw [outcome_bind]
  have logged :
      w.outcome (watcher.paths.forM fun p => Action.log .info ("Watching: ".toList ++ p.toText)) = .ok () := by
    induction watcher.paths generalizing w with
    | nil => rfl
    | cons base rest ih => exact ih
  rw [logged]
  rfl

theorem reads_watcher (p : Project) : Reads p.watcher := .bind (Snapshot.reads_take _ _) fun _ => .pure _

theorem watch_cases (p : Project) (w : Workspace) :
    (∃ current, w.outcome (Snapshot.take p.sources []) = .ok current ∧ ∃ announced, w.SameFiles announced ∧
      ∀ script,
        w.outcome (p.watch script) = announced.outcome (Watcher.rounds p.rebuild script ⟨p.sources, current, []⟩) ∧
        (announced.after (Watcher.rounds p.rebuild script ⟨p.sources, current, []⟩)).SameFiles
          (w.after (p.watch script))) ∨
    ∃ e, w.outcome (Snapshot.take p.sources []) = .error e ∧
      ∀ script, w.outcome (p.watch script) = .error e ∧ w.SameFiles (w.after (p.watch script)) := by
  have started := (reads_watcher p).keeps w
  cases taken : w.outcome (Snapshot.take p.sources []) with
  | ok current =>
      left
      have watching : w.outcome p.watcher = .ok ⟨p.sources, current, []⟩ := outcome_bind_of_ok taken |>.trans rfl
      have announced := (fileless_announce ⟨p.sources, current, []⟩).keeps (w.after p.watcher)
      refine ⟨current, rfl, _, trans_of _ started announced, fun script => ?_⟩
      unfold watch Watcher.run
      rw [outcome_bind_of_ok watching, after_bind_of_ok watching, outcome_bind_of_ok (outcome_announce _),
        after_bind_of_ok (outcome_announce _)]
      rw [outcome_bind, after_bind]
      cases ((w.after p.watcher).after (Watcher.announce ⟨p.sources, current, []⟩)).outcome
          (Watcher.rounds p.rebuild script ⟨p.sources, current, []⟩) with
      | error e => exact ⟨rfl, refl_of _ _⟩
      | ok result => exact ⟨rfl, (Fileless.bind (.record _) fun _ => .pure result).keeps _⟩
  | error e =>
      right
      have refused : w.outcome p.watcher = .error e := outcome_bind_of_error taken
      refine ⟨e, rfl, fun script => ?_⟩
      unfold watch
      rw [outcome_bind_of_error refused, after_bind_of_error refused]
      exact ⟨rfl, started⟩

theorem Ends.of_sameFiles {r : Except Failure (Watcher × List (List Change))} (ends : Ends p first script r w)
    (files : w.SameFiles w') : Ends p first script r w' := by
  cases ends with
  | watching watching quiet => exact .watching (watching.of_sameFiles files) quiet
  | cutShort cut => exact .cutShort (cut.of_sameFiles files)

theorem ends_watch (orderly : p.Orderly w) (present : w.tree.HasDirectory w.here p.components) (upToDate : p.UpToDate w)
    (editing : Editing p w script) : Ends p w script (w.outcome (p.watch (script.map Edit.perform)))
      (w.after (p.watch (script.map Edit.perform))) := by
  rcases watch_cases p w with ⟨current, taken, announced, files, run⟩ | ⟨e, refused, run⟩
  · have begun : Watching p w [] ⟨p.sources, current, []⟩ w := by
      refine ⟨orderly, rfl, present, rfl, fun key changed => ?_, fun _ => upToDate, fun l content changed _ found => ?_⟩
      · exact Snapshot.lookup_take orderly.sound taken
      · exact .inl ⟨content, found⟩
    have begun := begun.of_sameFiles files
    have rounds :
      Ends p w script (announced.outcome (Watcher.rounds p.rebuild (script.map Edit.perform) ⟨p.sources, current, []⟩))
        (announced.after (Watcher.rounds p.rebuild (script.map Edit.perform) ⟨p.sources, current, []⟩)) := by
      induction script using List.reverseRecOn with
      | nil => exact ends_rounds_nil begun editing.fresh
      | append_singleton script edits ih =>
          refine ends_rounds_snoc (ih editing.earlier) fun watcher batches done watching => ?_
          have here :
            (announced.after (Watcher.rounds p.rebuild (script.map Edit.perform) ⟨p.sources, current, []⟩)).here =
              w.here := watching.here
          refine ⟨fun e member => ?_, editing.fresh, ?_⟩
          · rw [here]
            rcases editing.inside edits (by simp) e member with below | below
            · exact ⟨p.components, by simp [sources], below⟩
            · exact ⟨p.pages, by simp [sources], below⟩
          · obtain ⟨sameOutcome, sameFiles⟩ := run (script.map Edit.perform)
            rw [done] at sameOutcome
            have filled := editing.filled script edits [] rfl _ _ (run_eq_ok.2 ⟨sameOutcome, rfl⟩)
            rwa [sameFiles.tree] at filled
    rw [(run (script.map Edit.perform)).1]
    exact rounds.of_sameFiles (run (script.map Edit.perform)).2
  · obtain ⟨failed, files⟩ := run (script.map Edit.perform)
    obtain ⟨base, member, unwatchable⟩ := Snapshot.take_refused orderly.sound refused
    rw [failed]
    exact .cutShort ((cutShort_of_unwatchable orderly present member unwatchable).of_sameFiles files)

theorem buildFirst_ok (done : w.outcome p.buildFirst = .ok ()) :
    (w.after p.build).SameFiles (w.after p.buildFirst) := by
  unfold buildFirst at done ⊢
  rw [outcome_bind_of_ok (outcome_attempt _)] at done
  rw [after_bind_of_ok (outcome_attempt _), after_attempt]
  cases built : w.outcome p.build with
  | ok result => exact refl_of _ _
  | error e =>
      cases e with
      | fault f => exact (Fileless.record _).keeps _
      | defect d =>
          rw [built] at done
          cases done

/-- What the watching should come to: nothing is pending and the project is up to date. Only sources that cannot be
watched may cut it short. -/
inductive Concluded (p : Project) : EStateM.Result Failure Workspace (Watcher × List (List Change)) → Prop
  | settled {watcher : Watcher} {batches : List (List Change)} {w : Workspace} (nothingPending : watcher.pending = [])
      (upToDate : p.UpToDate w) : Concluded p (.ok (watcher, batches) w)
  | cutShort {e : Failure} {w : Workspace} (h : CutShort p w) : Concluded p (.error e w)

/-- Watching converges: after a first build, whose faults are only noted, and edits with a quiet pause in the end,
nothing is pending and the project is up to date, unless a poll fails before that. -/
theorem watch_converges {w w₁ : Workspace} (orderly : p.Orderly w) (first : p.buildFirst.run w = .ok () w₁)
    (present : w₁.tree.HasDirectory w₁.here p.components) (editing : Editing p w₁ script)
    (quiet : script.getLast? = some []) : p.Concluded ((p.watch (script.map Edit.perform)).run w₁) := by
  obtain ⟨done, rfl⟩ := run_eq_ok.1 first
  have built := built orderly
  have files := buildFirst_ok done
  have orderly₁ : p.Orderly (w.after p.buildFirst) :=
    orderly.later ((built.sound orderly.sound).of_sameFiles files) (files.here.trans built.here)
  have ends := ends_watch orderly₁ present ((upToDate_build orderly).of_sameFiles files) editing
  cases run : (p.watch (script.map Edit.perform)).run (w.after p.buildFirst) with
  | ok result w₂ =>
      obtain ⟨outcome, rfl⟩ := run_eq_ok.1 run
      rw [outcome] at ends
      cases ends with
      | watching watching nothingPending =>
          exact .settled (nothingPending quiet) (watching.upToDate (nothingPending quiet))
  | error e w₂ =>
      obtain ⟨outcome, rfl⟩ := run_eq_error.1 run
      rw [outcome] at ends
      cases ends with
      | cutShort cut => exact .cutShort cut

structure Session where
  directories : Directories
  entries : List (Location × Entry)
  script : List (List Edit)

namespace Session

def project (s : Session) : Project := ⟨{ Settings.default with directories := s.directories }, .ofLocation []⟩

def before (s : Session) : Workspace := ⟨⟨s.entries⟩, [], 1, .info, []⟩

def atStart (s : Session) : Workspace := s.before.after s.project.buildFirst

def watch (s : Session) : Action (Watcher × List (List Change)) := s.project.watch (s.script.map Edit.perform)

def watchFor (s : Session) (pauses : Nat) : Action (Watcher × List (List Change)) :=
  s.project.watch ((s.script.take pauses).map Edit.perform)

/-- What is asked of the project and the edits, except for what is said about directories. -/
structure Allowed (s : Session) : Prop where
  orderly : s.project.Orderly s.before
  begun : (s.before.outcome s.project.buildFirst).isOk
  edits : SourceEdits s.project s.atStart s.script
  quiet : s.script.getLast? = some []

instance (s : Session) : Decidable s.Allowed :=
  decidable_of_iff (s.project.Orderly s.before ∧ (s.before.outcome s.project.buildFirst).isOk ∧
      SourceEdits s.project s.atStart s.script ∧ s.script.getLast? = some [])
    ⟨fun ⟨orderly, begun, edits, quiet⟩ => ⟨orderly, begun, edits, quiet⟩,
      fun h => ⟨h.orderly, h.begun, h.edits, h.quiet⟩⟩

theorem Allowed.run_buildFirst {s : Session} (allowed : s.Allowed) :
    s.project.buildFirst.run s.before = .ok () s.atStart := by
  refine run_eq_ok.2 ⟨?_, rfl⟩
  have begun := allowed.begun
  cases done : s.before.outcome s.project.buildFirst with
  | ok _ => rfl
  | error e =>
      rw [done] at begun
      cases begun

def Present (s : Session) : Prop := s.atStart.tree.HasDirectory s.atStart.here s.project.components

instance (s : Session) : Decidable s.Present := inferInstanceAs (Decidable (s.atStart.tree.HasDirectory _ _))

def Converges (s : Session) : Prop :=
  ∃ watcher batches w, s.watch.run s.atStart = .ok (watcher, batches) w ∧ watcher.pending = [] ∧ s.project.UpToDate w

theorem not_converges_of_stale {s : Session} (l : Location)
    (stale : ((s.atStart.after s.watch).after s.project.build).tree.content? l ≠
    (s.atStart.after s.watch).tree.content? l) : ¬s.Converges := by
  rintro ⟨watcher, batches, w, run, -, upToDate⟩
  obtain ⟨-, rfl⟩ := run_eq_ok.1 run
  exact stale (upToDate _ (refl_of _ _) l)

theorem not_converges_of_failed {s : Session} (failed : ¬(s.atStart.outcome s.watch).isOk) : ¬s.Converges := by
  rintro ⟨watcher, batches, w, run, -⟩
  rw [(run_eq_ok.1 run).1] at failed
  exact failed rfl

def Pends (s : Session) (pauses : Nat) : Prop :=
  (s.atStart.outcome (s.watchFor pauses)).toOption.any (fun result => result.1.pending ≠ [])

instance (s : Session) (pauses : Nat) : Decidable (s.Pends pauses) := inferInstanceAs (Decidable (_ = true))

def NextFilled (s : Session) (n : Nat) : Prop :=
  let tree := (s.atStart.after (s.watchFor n)).tree
  let tree' := Edit.applyAll tree (s.script.getD n [])
  tree'.Sound ∧ ∀ e ∈ tree'.entries, e.2 = .directory → tree.find? e.1 = some .directory ∨ tree'.filesBelow e.1 ≠ []

instance (s : Session) (n : Nat) : Decidable (s.NextFilled n) := inferInstanceAs (Decidable (_ ∧ _))

theorem editing_of_filled {s : Session} (allowed : s.Allowed) (filled : ∀ n < s.script.length, s.NextFilled n) :
    Editing s.project s.atStart s.script := by
  refine ⟨allowed.edits, fun earlier edits later split result w run => ?_⟩
  obtain ⟨-, rfl⟩ := run_eq_ok.1 run
  have next := filled earlier.length (by simp [split])
  unfold NextFilled watchFor at next
  have before : s.script.take earlier.length = earlier := by rw [split, List.take_left']; rfl
  have made : s.script.getD earlier.length [] = edits := by simp [split]
  rw [before, made] at next
  exact (filled_iff next.1).2 next.2

end Session

def entry (names : List String) (content : Option String) : Location × Entry :=
  (names.map String.toList, match content with
    | some text => .file (Utf8.encode text.toList) 0
    | none => .directory)

def blog : Session where
  directories := .default
  entries := [entry ["src"] none, entry ["src", "components"] none, entry ["src", "components", "Card.html"] "Hello",
    entry ["src", "pages"] none, entry ["src", "pages", "index.html"] "\x7b\x7bCard\x7d\x7d"]
  script := [[.write ["src".toList, "pages".toList, "posts".toList, "new.html".toList] (Utf8.encode "New".toList) 7,
    .write ["src".toList, "components".toList, "Card.html".toList] (Utf8.encode "Hi".toList) 8], []]

theorem watch_converges_blog : blog.Allowed ∧ blog.Present ∧ Editing blog.project blog.atStart blog.script ∧
    blog.project.Concluded (blog.watch.run blog.atStart) := by
  have allowed : blog.Allowed := by decide +kernel
  have present : blog.Present := by decide +kernel
  have editing : Editing blog.project blog.atStart blog.script := Session.editing_of_filled allowed (by decide +kernel)
  exact ⟨allowed, present, editing,
    watch_converges allowed.orderly allowed.run_buildFirst present editing allowed.quiet⟩

/-- A page is written and removed again, and its directory stays. -/
def forgotten : Session where
  directories := .default
  entries := [entry ["src"] none, entry ["src", "assets"] none, entry ["src", "assets", "a.txt"] "A",
    entry ["src", "components"] none]
  script := [[.write ["src".toList, "pages".toList, "x.html".toList] [] 7,
    .remove ["src".toList, "pages".toList, "x.html".toList]], []]

/-- A file is removed that stood on the ways to the components and the pages. -/
def blocked : Session where
  directories := { Directories.default with
    components := "src/pages/x/components".toList
    pages := "src/pages/x/../../pages".toList }
  entries := [entry ["src"] none, entry ["src", "assets"] none, entry ["src", "assets", "a.txt"] "A",
    entry ["src", "pages"] none, entry ["src", "pages", "x"] "X"]
  script := [[.remove ["src".toList, "pages".toList, "x".toList]], []]

/-- After another change a directory is made that the pages should lie in, with too long a name. -/
def tooLong : Session where
  directories := { Directories.default with pages := "src/components/x/".toList ++ List.replicate 256 'y' }
  entries := [entry ["src"] none, entry ["src", "components"] none]
  script := [[.write ["src".toList, "components".toList, "a.html".toList] [] 7],
    [.write ["src".toList, "components".toList, "x".toList, "b.html".toList] [] 7], []]

/-- Without the conditions on directories, watching need not converge: the output is stale in the end, or the watching
fails while a change is pending. -/
theorem watching_diverges :
    (forgotten.Allowed ∧ forgotten.Present ∧ ¬forgotten.Converges) ∧
    (blocked.Allowed ∧ Editing blocked.project blocked.atStart blocked.script ∧ ¬blocked.Converges) ∧
    (tooLong.Allowed ∧ tooLong.Present ∧ Editing tooLong.project tooLong.atStart tooLong.script ∧ tooLong.Pends 1 ∧
      ¬(tooLong.atStart.outcome (tooLong.watchFor 2)).isOk ∧ ¬tooLong.Converges) := by
  let copied : Location := ["public".toList, "a.txt".toList]
  refine ⟨⟨?_, ?_, ?_⟩, ⟨?_, ?_, ?_⟩, ?_, ?_, ?_, ?_, ?_, ?_⟩
  · decide +kernel
  · decide +kernel
  · exact Session.not_converges_of_stale copied (by decide +kernel)
  · decide +kernel
  · exact Session.editing_of_filled (by decide +kernel) (by decide +kernel)
  · exact Session.not_converges_of_stale copied (by decide +kernel)
  · decide +kernel
  · decide +kernel
  · exact Session.editing_of_filled (by decide +kernel) (by decide +kernel)
  · decide +kernel
  · decide +kernel
  · exact Session.not_converges_of_failed (by decide +kernel)

end Project
end PageComposer

import PageComposer.Proofs.Watch.Pending
import PageComposer.Proofs.Watch.Unseen

/-!
# Rounds of watching

A watcher without pending changes watches a project that is up to date: `Watching` holds after every round
(`watching_round`). Only a poll can cut the watching short, where the sources cannot be watched (`CutShort`).
-/

namespace PageComposer

open FileTree Workspace

namespace Project
variable {p : Project} {w w' first : Workspace} {script : List (List Edit)} {watcher : Watcher} {edits : List Edit}

theorem reads_poll (watcher : Watcher) : Reads watcher.poll := .bind (Snapshot.reads_take _ _) fun _ => .pure _

theorem dispatch_build (p : Project) (changes : List Change) (w : Workspace) :
    ∃ w', w.SameFiles w' ∧ w.outcome (Watcher.dispatch p.rebuild changes) = .ok () ∧
      (w'.after p.build).SameFiles (w.after (Watcher.dispatch p.rebuild changes)) := by
  have recorded := outcome_records (w := w) (changes.map Watcher.changeRecord)
  have unchanged := (Fileless.records (changes.map Watcher.changeRecord)).keeps w
  refine ⟨w.after ((changes.map Watcher.changeRecord).forM Action.record), unchanged, ?_, ?_⟩
  · unfold Watcher.dispatch
    rw [outcome_bind_of_ok recorded, outcome_bind_of_ok (outcome_attempt _)]
    rfl
  · have rebuilt (w : Workspace) : w.after (p.rebuild changes) = w.after p.build := by
      unfold rebuild
      rw [after_bind]
      cases w.outcome p.build <;> rfl
    unfold Watcher.dispatch
    rw [after_bind_of_ok recorded, after_bind_of_ok (outcome_attempt _), after_attempt, rebuilt]
    exact (Fileless.record _).keeps _

theorem round_cases (p : Project) (watcher : Watcher) (w : Workspace) :
    (∃ current, w.outcome (Snapshot.take watcher.paths []) = .ok current ∧
      w.outcome (watcher.round p.rebuild) = .ok (watcher.observe current) ∧
      if (watcher.observe current).2 = [] then w.SameFiles (w.after (watcher.round p.rebuild))
      else ∃ w', w.SameFiles w' ∧ (w'.after p.build).SameFiles (w.after (watcher.round p.rebuild))) ∨
    ∃ e, w.outcome (Snapshot.take watcher.paths []) = .error e ∧ w.outcome (watcher.round p.rebuild) = .error e ∧
      w.SameFiles (w.after (watcher.round p.rebuild)) := by
  have kept := (reads_poll watcher).keeps w
  unfold Watcher.round
  cases taken : w.outcome (Snapshot.take watcher.paths []) with
  | ok current =>
      left
      have polled : w.outcome watcher.poll = .ok (watcher.observe current) := outcome_bind_of_ok taken
      refine ⟨current, rfl, ?_⟩
      rw [outcome_bind_of_ok polled, after_bind_of_ok polled]
      generalize watcher.observe current = observed
      obtain ⟨watcher', ready⟩ := observed
      cases ready with
      | nil => exact ⟨rfl, by simpa using kept⟩
      | cons change rest =>
          obtain ⟨w', files, done, built⟩ := dispatch_build p (change :: rest) (w.after watcher.poll)
          dsimp only
          rw [if_pos (by simp), outcome_bind_of_ok done, after_bind_of_ok done, if_neg (by simp)]
          exact ⟨rfl, w', trans_of _ kept files, built⟩
  | error e =>
      right
      have refused : w.outcome watcher.poll = .error e := outcome_bind_of_error taken
      rw [outcome_bind_of_error refused, after_bind_of_error refused]
      exact ⟨e, rfl, rfl, kept⟩

/-- The watching of a project after a part of a script: the snapshot shows the sources, a watcher without pending
changes watches a project that is up to date, and the files of the sources have the times that they have been given. -/
structure Watching (p : Project) (first : Workspace) (script : List (List Edit)) (watcher : Watcher) (w : Workspace) :
    Prop where
  orderly : p.Orderly w
  here : w.here = first.here
  present : w.tree.HasDirectory w.here p.components
  paths : watcher.paths = p.sources
  state : ∀ key changed, watcher.state.lookup key = some changed ↔ Snapshot.Sees w p.sources key changed
  upToDate : watcher.pending = [] → p.UpToDate w
  times : ∀ l content changed, ¬p.output.resolve w.here <+: l → w.tree.find? l = some (.file content changed) →
    (∃ content', first.tree.find? l = some (.file content' changed)) ∨ (l, changed) ∈ Edit.stamps script

structure NextEdits (p : Project) (first : Workspace) (script : List (List Edit)) (w : Workspace)
    (edits : List Edit) : Prop where
  inside : ∀ e ∈ edits, ∃ base ∈ p.sources, e.Below (base.resolve w.here)
  fresh : Edit.Fresh first.tree (script ++ [edits])
  filled : Filled w.tree (Edit.applyAll w.tree edits)

theorem edited_next (watching : Watching p first script watcher w) (next : NextEdits p first script w edits) :
    Edit.Edited w.tree (Edit.applyAll w.tree edits) edits :=
  Edit.edited_applyAll watching.orderly.sound.tree fun e member => by
    obtain ⟨base, -, below⟩ := next.inside e member
    exact below.2

theorem outside_of_below (orderly : p.Orderly w) {e : Edit} {base : Path} (member : base ∈ p.sources)
    (below : e.Below (base.resolve w.here)) : ¬p.output.resolve w.here <+: e.location := by
  obtain ⟨⟨names, -, location⟩, -⟩ := below
  have separate : Site.Separate (p.output.resolve w.here) (base.resolve w.here) := by
    rcases List.mem_cons.1 member with rfl | member
    · exact orderly.apart.components
    · rw [List.mem_singleton.1 member]
      exact orderly.apart.pages
  rw [location]
  exact separate.not_inside names

theorem unused_next (watching : Watching p first script watcher w) (next : NextEdits p first script w edits)
    {l : Location} {content : List UInt8} {stamp : Int} (member : .write l content stamp ∈ edits)
    (content' : List UInt8) :
    w.tree.find? l ≠ some (.file content' stamp) := by
  intro found
  obtain ⟨base, isBase, below⟩ := next.inside _ member
  obtain ⟨notBefore, notFirst⟩ := next.fresh.next member
  rcases watching.times l content' stamp (outside_of_below watching.orderly isBase below) found with ⟨content'', h⟩ | h
  · exact notFirst content'' h
  · exact notBefore h

def edit (w : Workspace) (edits : List Edit) : Workspace := { w with tree := Edit.applyAll w.tree edits }

theorem outcome_perform (edits : List Edit) : w.outcome (Edit.perform edits) = .ok () := rfl

theorem after_perform (edits : List Edit) : w.after (Edit.perform edits) = edit w edits := rfl

theorem orderly_edit (watching : Watching p first script watcher w) (next : NextEdits p first script w edits) :
    p.Orderly (edit w edits) := by
  have edited := edited_next watching next
  exact watching.orderly.later ⟨edited.sound, edited.directories _ watching.orderly.sound.here⟩ rfl

theorem present_edit (watching : Watching p first script watcher w) (next : NextEdits p first script w edits) :
    (edit w edits).tree.HasDirectory (edit w edits).here p.components :=
  watching.present.mono (edited_next watching next).directories

theorem times_edit (watching : Watching p first script watcher w) (next : NextEdits p first script w edits) :
    ∀ l content changed, ¬p.output.resolve w.here <+: l → (edit w edits).tree.find? l = some (.file content changed) →
      (∃ content', first.tree.find? l = some (.file content' changed)) ∨
        (l, changed) ∈ Edit.stamps (script ++ [edits]) := by
  intro l content changed outside found
  rw [Edit.stamps_append, List.mem_append]
  rcases (edited_next watching next).files l content changed found with before | member
  · exact (watching.times l content changed outside before).imp_right .inl
  · exact .inr (.inr (Edit.mem_stamps member))

theorem upToDate_of_unseen (watching : Watching p first script watcher w) (next : NextEdits p first script w edits)
    (same : ∀ key changed, Snapshot.Sees (edit w edits) p.sources key changed ↔ Snapshot.Sees w p.sources key changed)
    (upToDate : p.UpToDate w) : p.UpToDate (edit w edits) := by
  -- Edits that are not seen leave a project up to date.
  have orderly := orderly_edit watching next
  by_cases pages : (edit w edits).tree.HasDirectory (edit w edits).here p.pages
  · have presentAll : ∀ base ∈ p.sources, (edit w edits).tree.HasDirectory (edit w edits).here base := by
      simpa [sources] using ⟨present_edit watching next, pages⟩
    have unchanged : (edit w edits).tree = w.tree :=
      tree_eq_of_unseen watching.orderly.sound orderly.sound rfl (edited_next watching next) next.inside
        (fun l content stamp member => unused_next watching next member) presentAll same next.filled
    exact upToDate.of_sameFiles ⟨unchanged, rfl⟩
  · exact upToDate_of_unloadable (present_edit watching next) (unloadable_of_no_pages orderly.sound pages)

/-- The sources cannot be watched any more. The project is up to date all the same, unless it is in the pages that
entries lie too deep or have too long a path. -/
structure CutShort (p : Project) (w : Workspace) : Prop where
  unwatchable : ∃ base ∈ p.sources, Snapshot.Unwatchable w base
  upToDate : (w.tree.HasDirectory w.here p.pages → Loading.Searchable w Files.walkLimit p.pages) → p.UpToDate w

theorem cutShort_of_unwatchable (orderly : p.Orderly w) (present : w.tree.HasDirectory w.here p.components)
    {base : Path} (member : base ∈ p.sources) (unwatchable : Snapshot.Unwatchable w base) : CutShort p w := by
  refine ⟨⟨base, member, unwatchable⟩, fun pages => upToDate_of_unloadable present ?_⟩
  rcases List.mem_cons.1 member with rfl | member
  · rcases unwatchable with long | ⟨-, barred⟩
    · rw [present.located] at long
      cases long
    · exact unloadable_of_not_searchable orderly.sound barred
  · rw [List.mem_singleton.1 member] at unwatchable
    refine unloadable_of_no_pages orderly.sound fun there => ?_
    rcases unwatchable with long | ⟨-, barred⟩
    · rw [there.located] at long
      cases long
    · exact barred (pages there)

theorem CutShort.of_sameFiles (cut : CutShort p w) (files : w.SameFiles w') : CutShort p w' := by
  refine ⟨?_, fun pages => (cut.upToDate fun there => ?_).of_sameFiles files⟩
  · obtain ⟨base, member, unwatchable⟩ := cut.unwatchable
    exact ⟨base, member, unwatchable.of_sameFiles files⟩
  · refine (pages ?_).of_sameFiles files.symm
    rw [files.tree, files.here]
    exact there

theorem Watching.of_sameFiles (watching : Watching p first script watcher w) (files : w.SameFiles w') :
    Watching p first script watcher w' where
  orderly := watching.orderly.later (watching.orderly.sound.of_sameFiles files) files.here
  here := files.here.trans watching.here
  present := by
    rw [files.tree, files.here]
    exact watching.present
  paths := watching.paths
  state := fun key changed => by rw [watching.state, sees_of_sameFiles files]
  upToDate := fun h => (watching.upToDate h).of_sameFiles files
  times := by
    rw [files.tree, files.here]
    exact watching.times

theorem watching_of_dispatch (watching : Watching p first script watcher w) (next : NextEdits p first script w edits)
    {watcher' : Watcher} {building last : Workspace} (paths : watcher'.paths = p.sources)
    (state : ∀ key changed, watcher'.state.lookup key = some changed ↔
      Snapshot.Sees (edit w edits) p.sources key changed)
    (files : (edit w edits).SameFiles building) (done : (building.after p.build).SameFiles last) :
    Watching p first (script ++ [edits]) watcher' last := by
  have orderly := orderly_edit watching next
  have orderly' := orderly.later (orderly.sound.of_sameFiles files) files.here
  have built := built orderly'
  have present := present_edit watching next
  have here : last.here = w.here := done.here.trans (built.here.trans files.here)
  have present' : building.tree.HasDirectory building.here p.components := by
    rw [files.tree, files.here]
    exact present
  refine ⟨orderly'.later ((built.sound orderly'.sound).of_sameFiles done) (done.here.trans built.here),
    here.trans watching.here, ?_, paths, fun key changed => ?_, fun _ =>
      (upToDate_build orderly').of_sameFiles done, ?_⟩
  · rw [done.tree, done.here, built.here]
    exact present'.mono built.grows.directories
  · rw [state, sees_of_sameFiles done, sees_build orderly' present', sees_of_sameFiles files]
  · intro l content changed outside found
    rw [here] at outside
    refine times_edit watching next l content changed outside ?_
    have outside' : ¬p.output.resolve building.here <+: l := by
      rw [files.here]
      exact outside
    rw [done.tree] at found
    rw [← files.tree]
    rcases built.outside l outside' with same | ⟨free, made⟩
    · rwa [same] at found
    · rw [made] at found
      cases found

theorem watching_of_rest (watching : Watching p first script watcher w) (next : NextEdits p first script w edits)
    {watcher' : Watcher} (paths : watcher'.paths = p.sources)
    (state : ∀ key changed, watcher'.state.lookup key = some changed ↔
      Snapshot.Sees (edit w edits) p.sources key changed)
    (upToDate : watcher'.pending = [] → p.UpToDate (edit w edits)) :
    Watching p first (script ++ [edits]) watcher' (edit w edits) where
  orderly := orderly_edit watching next
  here := watching.here
  present := present_edit watching next
  paths := paths
  state := state
  upToDate := upToDate
  times := times_edit watching next

theorem watching_round (watching : Watching p first script watcher w) (next : NextEdits p first script w edits) :
    (∃ watcher' ready, (edit w edits).outcome (watcher.round p.rebuild) = .ok (watcher', ready) ∧
      Watching p first (script ++ [edits]) watcher' ((edit w edits).after (watcher.round p.rebuild)) ∧
      (edits = [] → watcher'.pending = [])) ∨
    (∃ e, (edit w edits).outcome (watcher.round p.rebuild) = .error e) ∧
      CutShort p ((edit w edits).after (watcher.round p.rebuild)) := by
  have orderly := orderly_edit watching next
  rcases round_cases p watcher (edit w edits) with ⟨current, taken, done, run⟩ | ⟨e, refused, failed, files⟩
  · left
    rw [watching.paths] at taken
    have state (key : Path) (changed : Int) : current.lookup key = some changed ↔
        Snapshot.Sees (edit w edits) p.sources key changed := Snapshot.lookup_take orderly.sound taken
    have distinct : current.keys.Nodup := Snapshot.nodup_of_take taken List.nodup_nil
    have unseen : watcher.state.changes current = [] ↔
        ∀ key changed, Snapshot.Sees (edit w edits) p.sources key changed ↔ Snapshot.Sees w p.sources key changed := by
      rw [Snapshot.changes_eq_nil distinct]
      simp only [← state, ← watching.state]
      exact ⟨fun h key changed => by rw [h], fun h key => Option.ext fun changed => (h key changed).symm⟩
    by_cases unchanged : watcher.state.changes current = []
    · rw [Watcher.observe_of_unchanged unchanged] at done run
      refine ⟨_, _, done, ?_, fun _ => rfl⟩
      split at run
      · rename_i noneReady
        refine Watching.of_sameFiles ?_ run
        refine watching_of_rest watching next watching.paths state fun _ => ?_
        exact upToDate_of_unseen watching next (unseen.1 unchanged) (watching.upToDate noneReady)
      · obtain ⟨building, files, built⟩ := run
        exact watching_of_dispatch watching next watching.paths state files built
    · have nonempty := Pending.noted_ne_nil unchanged watcher.pending
      rw [Watcher.observe_of_changed unchanged] at done run
      rw [if_pos rfl] at run
      refine ⟨_, _, done, ?_, fun none => ?_⟩
      · refine Watching.of_sameFiles ?_ run
        exact watching_of_rest watching next watching.paths state fun empty => absurd empty nonempty
      · subst none
        exact absurd (unseen.2 fun _ _ => Iff.rfl) unchanged
  · obtain ⟨base, member, unwatchable⟩ := Snapshot.take_refused orderly.sound refused
    refine .inr
      ⟨⟨e, failed⟩, (cutShort_of_unwatchable orderly (present_edit watching next) ?_ unwatchable).of_sameFiles files⟩
    exact watching.paths ▸ member

end Project
end PageComposer

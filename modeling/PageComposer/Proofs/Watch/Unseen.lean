import PageComposer.Command
import PageComposer.Proofs.Site.Build
import PageComposer.Proofs.Watch.Edits
import PageComposer.Proofs.Watch.Snapshot

/-!
# What a watcher does not see

After a build that has been made, or that has failed, another one changes no contents (`upToDate_build`), and no
snapshot shows a build (`sees_build`). Edits of the sources that no snapshot shows have changed nothing, if the
watched directories are there and no new directory is empty (`tree_eq_of_unseen`).
-/

namespace PageComposer

open FileTree Workspace

namespace Project

def components (p : Project) : Path := p.settings.componentsIn p.root

def pages (p : Project) : Path := p.settings.pagesIn p.root

def output (p : Project) : Path := p.settings.outputIn p.root

def sources (p : Project) : List Path := [p.components, p.pages]

/-- A build of these files leaves all contents as they are. -/
def UpToDate (p : Project) (w : Workspace) : Prop :=
  ∀ w', w.SameFiles w' → ∀ l, (w'.after p.build).tree.content? l = w'.tree.content? l

/-- The files are those of a system, and the output lies apart from the sources. -/
structure Orderly (p : Project) (w : Workspace) : Prop where
  sound : w.Sound
  proper : p.root.Proper
  apart : Site.OutputApart p.settings p.root w.here

instance (p : Project) (w : Workspace) : Decidable (p.Orderly w) :=
  decidable_of_iff (w.Sound ∧ p.root.Proper ∧ Site.OutputApart p.settings p.root w.here)
    ⟨fun ⟨sound, proper, apart⟩ => ⟨sound, proper, apart⟩, fun h => ⟨h.sound, h.proper, h.apart⟩⟩

variable {p : Project} {w w' : Workspace}

theorem UpToDate.of_sameFiles (h : p.UpToDate w) (files : w.SameFiles w') : p.UpToDate w' :=
  fun w'' files' => h w'' (trans_of _ files files')

theorem Orderly.later (orderly : p.Orderly w) (sound : w'.Sound) (here : w'.here = w.here) : p.Orderly w' :=
  ⟨sound, orderly.proper, here ▸ orderly.apart⟩

theorem upToDate_build (orderly : p.Orderly w) : p.UpToDate (w.after p.build) :=
  fun _ files => Site.contents_of_build_again orderly.sound orderly.proper orderly.apart files

theorem built (orderly : p.Orderly w) : Site.Built (p.output.resolve w.here) w (w.after p.build) :=
  Site.built_build orderly.sound orderly.proper orderly.apart

/-- The sources cannot be loaded: a page directory is missing, or the components cannot be searched. -/
def Unloadable (p : Project) (w : Workspace) : Prop := ∃ e, w.outcome (Site.load p.components p.pages) = .error e

theorem unloadable_of_no_pages (sound : w.Sound) (absent : ¬w.tree.HasDirectory w.here p.pages) : p.Unloadable w := by
  cases loaded : w.outcome (Site.load p.components p.pages) with
  | error e => exact ⟨e, loaded⟩
  | ok composer =>
      obtain ⟨_, _, _, found⟩ := Site.load_ok sound loaded
      exact absurd found.pagesFound.present absent

theorem unloadable_of_not_searchable (sound : w.Sound) (barred : ¬Loading.Searchable w Files.walkLimit p.components) :
    p.Unloadable w := by
  cases loaded : w.outcome (Site.load p.components p.pages) with
  | error e => exact ⟨e, loaded⟩
  | ok composer =>
      obtain ⟨_, _, _, found⟩ := Site.load_ok sound loaded
      exact absurd ((Loading.templates_iff sound).1 found.componentsSearched) barred

theorem idle_build (present : w.tree.HasDirectory w.here p.components) (unloadable : p.Unloadable w) :
    w.SameFiles (w.after p.build) := by
  obtain ⟨ensured, unchanged⟩ := Site.ensureSources_of_present p.pages (Site.isPresent_of_hasDirectory present)
  have loads := (Site.reads_load p.components p.pages).keeps w
  obtain ⟨e, refused⟩ := unloadable
  have unprepared : w.outcome (Site.prepare p.settings p.root) = .error e ∧
      w.after (Site.prepare p.settings p.root) = w.after (Site.load p.components p.pages) := by
    have ensured :
        w.outcome (Site.ensureSources (p.settings.componentsIn p.root) (p.settings.pagesIn p.root)) = .ok () :=
      ensured
    have unchanged : w.after (Site.ensureSources (p.settings.componentsIn p.root) (p.settings.pagesIn p.root)) = w :=
      unchanged
    rw [Site.prepare, outcome_bind_of_ok ensured, after_bind_of_ok ensured, unchanged]
    exact ⟨refused, rfl⟩
  have unplanned : w.outcome (Site.plan p.settings p.root) = .error e := outcome_bind_of_error unprepared.1
  have run : w.after p.build = w.after (Site.load p.components p.pages) := by
    rw [build, Site.after_build_of_refused unplanned, Site.plan, after_bind_of_error unprepared.1, unprepared.2]
  rw [run]
  exact loads

theorem upToDate_of_unloadable (present : w.tree.HasDirectory w.here p.components) (unloadable : p.Unloadable w) :
    p.UpToDate w := by
  intro w' files l
  obtain ⟨e, refused⟩ := unloadable
  have present' : w'.tree.HasDirectory w'.here p.components := by
    rw [files.tree, files.here]
    exact present
  have refused' : w'.outcome (Site.load p.components p.pages) = .error e :=
    ((Site.reads_load _ _).same w w' files).trans refused
  rw [(idle_build present' ⟨e, refused'⟩).tree]

theorem sees_of_sameFiles (files : w.SameFiles w') {paths : List Path} {key : Path} {changed : Int} :
    Snapshot.Sees w' paths key changed ↔ Snapshot.Sees w paths key changed := by
  unfold Snapshot.Sees
  rw [files.tree, files.here]

theorem sees_build (orderly : p.Orderly w) (present : w.tree.HasDirectory w.here p.components) {key : Path}
    {changed : Int} :
    Snapshot.Sees (w.after p.build) p.sources key changed ↔ Snapshot.Sees w p.sources key changed := by
  by_cases pages : w.tree.HasDirectory w.here p.pages
  · have built := built orderly
    have presentAll : ∀ base ∈ p.sources, w.tree.HasDirectory w.here base := by
      simpa [sources] using ⟨present, pages⟩
    have separate : ∀ base ∈ p.sources, Site.Separate (p.output.resolve w.here) (base.resolve w.here) := by
      simpa [sources] using ⟨orderly.apart.components, orderly.apart.pages⟩
    have same : ∀ base ∈ p.sources, ∀ names content, (w.after p.build).tree.find? (base.resolve w.here ++ names) =
        some (.file content changed) ↔ w.tree.find? (base.resolve w.here ++ names) = some (.file content changed) := by
      intro base member names content
      rcases built.outside _ ((separate base member).not_inside names) with same | ⟨free, made⟩
      · rw [same]
      · simp [free, made]
    unfold Snapshot.Sees
    rw [built.here]
    constructor
    · rintro ⟨base, member, -, names, content, nonempty, rfl, found⟩
      exact ⟨base, member, presentAll base member, names, content, nonempty, rfl,
        (same base member names content).1 found⟩
    · rintro ⟨base, member, there, names, content, nonempty, rfl, found⟩
      exact ⟨base, member, there.mono built.grows.directories, names, content, nonempty, rfl,
        (same base member names content).2 found⟩
  · exact sees_of_sameFiles (idle_build present (unloadable_of_no_pages orderly.sound pages))

/-- Each new directory has a file below it. -/
def Filled (tree tree' : FileTree) : Prop :=
  ∀ l, tree'.find? l = some .directory → tree.find? l ≠ some .directory →
    ∃ names content stamp, names ≠ [] ∧ tree'.find? (l ++ names) = some (.file content stamp)

theorem filled_iff {tree tree' : FileTree} (sound : tree'.Sound) : Filled tree tree' ↔ ∀ e ∈ tree'.entries,
    e.2 = .directory → tree.find? e.1 = some .directory ∨ tree'.filesBelow e.1 ≠ [] := by
  constructor
  · rintro filled ⟨l, e⟩ member isDirectory
    by_cases before : tree.find? l = some .directory
    · exact .inl before
    · obtain ⟨names, content, stamp, nonempty, found⟩ := filled l (isDirectory ▸ (sound.mem_iff.1 member).2) before
      exact .inr (List.ne_nil_of_mem ((mem_filesBelow sound).2 ⟨nonempty, found⟩))
  · intro entrywise l isDirectory isNew
    have rooted : l ≠ [] := by
      rintro rfl
      exact isNew (find?_root tree)
    have hasFile := (entrywise _ (sound.mem_iff.2 ⟨rooted, isDirectory⟩) rfl).resolve_left isNew
    obtain ⟨⟨names, content, stamp⟩, member⟩ := List.exists_mem_of_ne_nil _ hasFile
    obtain ⟨nonempty, found⟩ := (mem_filesBelow sound).1 member
    exact ⟨names, content, stamp, nonempty, found⟩

section Unseen
variable {bases : List Path} {edits : List Edit}

theorem file_of_seen (sound : w.Sound) (sound' : w'.Sound) {base : Path} {names : List Text}
    {content : List UInt8} {changed : Int} (member : base ∈ bases) (present : w'.tree.HasDirectory w'.here base)
    (same : ∀ key changed, Snapshot.Sees w' bases key changed → Snapshot.Sees w bases key changed)
    (nonempty : names ≠ [])
    (found : w'.tree.find? (base.resolve w'.here ++ names) = some (.file content changed)) :
    ∃ content', w.tree.find? (base.resolve w.here ++ names) = some (.file content' changed) := by
  have named : ∀ part ∈ names, part ≠ ['.', '.'] := fun part isPart =>
    (sound'.tree.name found (List.mem_append_right _ isPart)).notUp
  obtain ⟨content', found'⟩ :=
    (same _ _ ⟨base, member, present, names, content, nonempty, rfl, found⟩).located sound
  rw [Path.resolve_below named] at found'
  exact ⟨content', found'⟩

theorem directory_of_start (sound : w.Sound) {l rest : Location} (h : w.tree.find? (l ++ rest) = some .directory) :
    w.tree.find? l = some .directory := by
  by_cases last : rest = []
  · simpa [last] using h
  · exact sound.tree.directory_of_below last h

theorem directory_of_unseen (sound : w.Sound) (sound' : w'.Sound) (here : w'.here = w.here)
    (edited : Edit.Edited w.tree w'.tree edits)
    (inside : ∀ e ∈ edits, ∃ base ∈ bases, e.Below (base.resolve w.here))
    (present : ∀ base ∈ bases, w'.tree.HasDirectory w'.here base)
    (same : ∀ key changed, Snapshot.Sees w' bases key changed → Snapshot.Sees w bases key changed)
    (filled : Filled w.tree w'.tree) : w'.tree.DirectoriesIn w.tree := by
  have seen {base : Path} (member : base ∈ bases) {names : List Text} {content : List UInt8} {changed : Int}
      (nonempty : names ≠ []) (found : w'.tree.find? (base.resolve w.here ++ names) = some (.file content changed)) :
      ∃ content', w.tree.find? (base.resolve w.here ++ names) = some (.file content' changed) :=
    file_of_seen sound sound' member (present base member) same nonempty (here ▸ found)
  intro l isDirectory
  by_contra isNew
  rcases edited.made l isDirectory with h | ⟨e, member, start, -⟩
  · exact isNew h
  · obtain ⟨base, isBase, ⟨⟨names, -, location⟩, -⟩⟩ := inside e member
    rw [location] at start
    rcases List.prefix_or_prefix_of_prefix start (List.prefix_append _ _) with above | ⟨rest, rfl⟩
    · -- then the watched directory is new as well
      obtain ⟨rest, split⟩ := above
      have isDirectory' : w'.tree.find? (base.resolve w.here) = some .directory := here ▸ (present base isBase).found
      have isNew' : w.tree.find? (base.resolve w.here) ≠ some .directory := by
        intro h
        rw [← split] at h
        exact isNew (directory_of_start sound h)
      obtain ⟨names', content, stamp, nonempty, found⟩ := filled _ isDirectory' isNew'
      obtain ⟨content', found'⟩ := seen isBase nonempty found
      exact isNew' (sound.tree.directory_of_below nonempty found')
    · obtain ⟨names', content, stamp, nonempty, found⟩ := filled _ isDirectory isNew
      rw [List.append_assoc] at found
      obtain ⟨content', found'⟩ := seen isBase (by simp [nonempty]) found
      rw [← List.append_assoc] at found'
      exact isNew (sound.tree.directory_of_below nonempty found')

theorem tree_eq_of_unseen (sound : w.Sound) (sound' : w'.Sound) (here : w'.here = w.here)
    (edited : Edit.Edited w.tree w'.tree edits)
    (inside : ∀ e ∈ edits, ∃ base ∈ bases, e.Below (base.resolve w.here))
    (unused : ∀ l content stamp, .write l content stamp ∈ edits →
      ∀ content', w.tree.find? l ≠ some (.file content' stamp))
    (present : ∀ base ∈ bases, w'.tree.HasDirectory w'.here base)
    (same : ∀ key changed, Snapshot.Sees w' bases key changed ↔ Snapshot.Sees w bases key changed)
    (filled : Filled w.tree w'.tree) : w'.tree = w.tree := by
  have noNew :=
    directory_of_unseen sound sound' here edited inside present (fun key changed => (same key changed).1) filled
  have presentBefore : ∀ base ∈ bases, w.tree.HasDirectory w.here base := fun base member =>
    here ▸ (present base member).mono noNew
  -- a file at an edited location is one in both workspaces, with the same time
  have seen {e : Edit} (member : e ∈ edits) {content : List UInt8} {changed : Int} :
      (w'.tree.find? e.location = some (.file content changed) →
        ∃ content', w.tree.find? e.location = some (.file content' changed)) ∧
      (w.tree.find? e.location = some (.file content changed) →
        ∃ content', w'.tree.find? e.location = some (.file content' changed)) := by
    obtain ⟨base, isBase, ⟨⟨names, nonempty, location⟩, -⟩⟩ := inside e member
    rw [location]
    constructor
    · intro found
      exact file_of_seen sound sound' isBase (present base isBase) (fun key changed => (same key changed).1) nonempty
        (here ▸ found)
    · intro found
      have found' :=
        file_of_seen sound' sound isBase (presentBefore base isBase) (fun key changed => (same key changed).2)
        nonempty found
      rwa [here] at found'
  refine sound'.tree.ext sound.tree fun l => ?_
  cases after : w'.tree.find? l with
  | some entry =>
      cases entry with
      | directory => exact (noNew l after).symm
      | file content changed =>
          rcases edited.files l content changed after with before | member
          · exact before.symm
          · obtain ⟨content', before⟩ := (seen member).1 after
            exact absurd before (unused l content changed member content')
  | none =>
      cases before : w.tree.find? l with
      | none => rfl
      | some entry =>
          cases entry with
          | directory =>
              rw [edited.directories l before] at after
              cases after
          | file content changed =>
              by_cases touched : ∃ e ∈ edits, e.location = l
              · obtain ⟨e, member, rfl⟩ := touched
                obtain ⟨content', after'⟩ := (seen member).2 before
                rw [after] at after'
                cases after'
              · have kept := edited.kept l content changed (fun e member at_ => touched ⟨e, member, at_⟩) before
                rw [after] at kept
                cases kept

end Unseen

end Project
end PageComposer

import PageComposer.Proofs.Loading
import PageComposer.Site

/-!
# Planning a build

A plan makes directories and nothing else. A plan that fails will fail again for as long as nothing changes, and one
that succeeds gives the same pages wherever the same sources are, if it succeeds there (`repeats_plan`).
-/

namespace PageComposer

open FileTree Workspace

namespace Site
variable {w w' : Workspace} {components pages output base : Path} {composer composer' : Composer}

theorem reads_load (components pages : Path) : Reads (load components pages) :=
  .bind (Loading.reads_loadComponents _ _) fun _ => .bind (Fileless.ofExcept _).reads fun _ =>
    .bind (Fileless.record _).reads fun _ => .bind (Loading.reads_loadPages _ _) fun _ =>
      .bind (Fileless.ofExcept _).reads fun _ => .bind (Fileless.record _).reads fun _ => .pure _

structure Loaded (w : Workspace) (components pages : Path) (composer : Composer) (registry : Registry)
    (templates pageTemplates : List Path) : Prop where
  componentsSearched : ∃ paths, w.outcome (Loading.templates true Files.walkLimit components) = .ok paths
  componentsFound : Loading.Found w true components templates
  registered : ∃ names, w.outcome (Loading.loadEach (Loading.loadComponent components) .empty templates) =
    .ok (registry, .ok names)
  pagesSearched : ∃ paths, w.outcome (Loading.templates false Files.walkLimit pages) = .ok paths
  pagesFound : Loading.Found w false pages pageTemplates
  added : ∃ names, w.outcome (Loading.loadEach Loading.loadPage (.new registry Composer.defaultLimit) pageTemplates) =
    .ok (composer, .ok names)

theorem load_ok (sound : w.Sound) (done : w.outcome (load components pages) = .ok composer) :
    ∃ registry templates pageTemplates, Loaded w components pages composer registry templates pageTemplates := by
  unfold load at done
  obtain ⟨⟨registry, loaded⟩, first, done⟩ := outcome_bind_eq_ok.1 done
  obtain ⟨names, allLoaded, done⟩ := outcome_bind_eq_ok.1 done
  rw [outcome_ofExcept] at allLoaded
  subst allLoaded
  obtain ⟨_, -, done⟩ := outcome_bind_eq_ok.1 done
  obtain ⟨⟨composer', loaded⟩, second, done⟩ := outcome_bind_eq_ok.1 done
  obtain ⟨names', allLoaded, done⟩ := outcome_bind_eq_ok.1 done
  rw [outcome_ofExcept] at allLoaded
  subst allLoaded
  obtain ⟨_, -, done⟩ := outcome_bind_eq_ok.1 done
  cases done
  -- the records and the loading of the components have not changed the files
  have unchanged := (Loading.reads_loadComponents Registry.empty components).keeps w
  rw [after_ofExcept] at second
  have recorded := (Fileless.record (foundRecord registry.size "components".toList components)).keeps
    (w.after (Loading.loadComponents Registry.empty components))
  rw [(Loading.reads_loadPages _ pages).same _ _ (trans_of _ unchanged recorded)] at second
  obtain ⟨templates, found, registered⟩ := Loading.loadComponents_ok first
  obtain ⟨pageTemplates, pagesFound, added⟩ := Loading.loadPages_ok second
  exact ⟨registry, templates, pageTemplates, ⟨_, found⟩, Loading.templates_ok sound found, ⟨_, registered⟩,
    ⟨_, pagesFound⟩, Loading.templates_ok sound pagesFound, ⟨_, added⟩⟩

def SameFilesBelow (w w' : Workspace) (base : Path) : Prop :=
  ∀ names content changed, names ≠ [] →
    (w.tree.find? (base.resolve w.here ++ names) = some (.file content changed) ↔
      w'.tree.find? (base.resolve w.here ++ names) = some (.file content changed))

theorem SameFilesBelow.of_furnished (furnished : w.Furnished w') (base : Path) : SameFilesBelow w w' base :=
  fun _ _ _ _ => furnished.file_iff.symm

theorem SameFilesBelow.trans {w'' : Workspace} (here : w'.here = w.here) (h : SameFilesBelow w w' base)
    (h' : SameFilesBelow w' w'' base) : SameFilesBelow w w'' base := by
  intro names content changed nonempty
  rw [h names content changed nonempty, ← here]
  exact h' names content changed nonempty

theorem found_congr {recursive : Bool} {paths paths' : List Path} (sound : w.Sound) (sound' : w'.Sound)
    (here : w'.here = w.here) (directories : w.tree.DirectoriesIn w'.tree) (same : SameFilesBelow w w' base)
    (found : Loading.Found w recursive base paths) (found' : Loading.Found w' recursive base paths') :
    paths' = paths ∧ ∀ q ∈ paths, w.outcome (Files.readText q) = w'.outcome (Files.readText q) := by
  constructor
  · rw [found'.paths_eq, found.paths_eq, here, filesBelow_congr sound.tree sound'.tree same]
  · intro q member
    have located := found.located q member
    rw [found.paths_eq] at member
    obtain ⟨⟨names, content, changed⟩, isIn, rfl⟩ := List.mem_map.1 (List.mem_of_mem_filter member)
    obtain ⟨nonempty, there⟩ := (mem_filesBelow sound.tree).1 (List.mem_of_mem_filter isIn)
    have named : ∀ part ∈ names, part ≠ ['.', '.'] := fun part isPart =>
      (sound.tree.name there (List.mem_append_right _ isPart)).notUp
    refine Loading.readText_congr here located (directories.locate_ok located) ?_
    rw [Path.resolve_below named, there]
    exact (same names content changed nonempty).1 there

theorem load_congr (sound : w.Sound) (sound' : w'.Sound) (here : w'.here = w.here)
    (directories : w.tree.DirectoriesIn w'.tree) (sameComponents : SameFilesBelow w w' components)
    (samePages : SameFilesBelow w w' pages) (done : w.outcome (load components pages) = .ok composer)
    (done' : w'.outcome (load components pages) = .ok composer') : composer' = composer := by
  obtain ⟨registry, templates, pageTemplates, loaded⟩ := load_ok sound done
  obtain ⟨registry', templates', pageTemplates', loaded'⟩ := load_ok sound' done'
  obtain ⟨rfl, sameTexts⟩ :=
    found_congr sound sound' here directories sameComponents loaded.componentsFound loaded'.componentsFound
  obtain ⟨rfl, samePageTexts⟩ :=
    found_congr sound sound' here directories samePages loaded.pagesFound loaded'.pagesFound
  obtain ⟨names, registered⟩ := loaded.registered
  obtain ⟨names', registered'⟩ := loaded'.registered
  rw [← Loading.loadEach_congr (Loading.reads_loadComponent components) _ fun q member registry =>
    Loading.loadComponent_congr components registry (sameTexts q member), registered] at registered'
  cases registered'
  obtain ⟨names, added⟩ := loaded.added
  obtain ⟨names', added'⟩ := loaded'.added
  rw [← Loading.loadEach_congr Loading.reads_loadPage _ fun q member composer =>
    Loading.loadPage_congr composer (samePageTexts q member), added] at added'
  cases added'
  rfl

theorem pageNames_of_load (sound : w.Sound) (done : w.outcome (load components pages) = .ok composer) :
    composer.pageNames.Nodup ∧ ∀ page, page ∈ composer.pageNames ↔
      page ≠ [] ∧ (w.tree.content? (pages.resolve w.here ++ [page ++ Loading.templateSuffix])).isSome := by
  obtain ⟨registry, templates, pageTemplates, loaded⟩ := load_ok sound done
  obtain ⟨names, added⟩ := loaded.added
  obtain ⟨once, known⟩ := Loading.pageNames_of_loadEach added
  refine ⟨once, fun page => ?_⟩
  rw [known, loaded.pagesFound.paths_eq]
  constructor
  · rintro ⟨q, member, stem⟩
    obtain ⟨template, name, rfl, there⟩ := (Loading.mem_reached sound.tree).1 member
    obtain ⟨nonempty, rfl⟩ := (Loading.isTemplate_child_iff pages name page).1 ⟨template, stem⟩
    exact ⟨nonempty, there⟩
  · rintro ⟨nonempty, there⟩
    obtain ⟨template, stem⟩ := (Loading.isTemplate_child_iff pages _ page).2 ⟨nonempty, rfl⟩
    exact ⟨_, (Loading.mem_reached sound.tree).2 ⟨template, _, rfl, there⟩, stem⟩

theorem named_of_load (sound : w.Sound) (done : w.outcome (load components pages) = .ok composer) :
    ∀ name ∈ composer.pageNames, IsName (name ++ Loading.templateSuffix) := by
  intro name member
  obtain ⟨-, there⟩ := ((pageNames_of_load sound done).2 name).1 member
  obtain ⟨content, changed, found⟩ := isSome_content?.1 there
  exact sound.tree.name found (by simp)

theorem isPresent_mono (here : w'.here = w.here) (grows : w.tree.Grows w'.tree) {p : Path}
    (present : w.outcome (Action.isPresent p) = .ok true) : w'.outcome (Action.isPresent p) = .ok true := by
  rw [outcome_isPresent] at present ⊢
  unfold probe at present ⊢
  cases asked : w.tree.stat w.here p with
  | error e =>
      rw [asked] at present
      split at present
      · rename_i same
        cases same
      · cases present
      · cases present
  | ok found =>
      obtain ⟨l, entry⟩ := found
      obtain ⟨located, found⟩ := stat_eq_ok.1 asked
      have kind := grows l entry.isDirectory (by rw [kind?, found]; rfl)
      obtain ⟨entry', found', -⟩ := Option.map_eq_some_iff.1 kind
      rw [here, stat_eq_ok.2 ⟨grows.directories.locate_ok located, found'⟩]
      rfl

theorem isPresent_of_hasDirectory {p : Path} (present : w.tree.HasDirectory w.here p) :
    w.outcome (Action.isPresent p) = .ok true := by
  rw [outcome_isPresent, probe_eq_directory.2 present]
  rfl

theorem ensureSources_of_present (pages : Path) (present : w.outcome (Action.isPresent components) = .ok true) :
    w.outcome (ensureSources components pages) = .ok () ∧ w.after (ensureSources components pages) = w := by
  unfold ensureSources
  rw [outcome_bind_of_ok present, after_bind_of_ok present, after_isPresent]
  exact ⟨rfl, rfl⟩

theorem ensureSources_of_absent (pages : Path) (absent : w.outcome (Action.isPresent components) = .ok false) :
    w.outcome (ensureSources components pages) = w.outcome (makeSources components pages) ∧
      w.after (ensureSources components pages) = w.after (makeSources components pages) := by
  unfold ensureSources
  rw [outcome_bind_of_ok absent, after_bind_of_ok absent, after_isPresent]
  exact ⟨rfl, rfl⟩

theorem furnished_makeSources (properComponents : components.Proper) (properPages : pages.Proper) :
    Keeps Furnished (makeSources components pages) :=
  .bind (Files.furnished_ensureDirectory properComponents) fun _ =>
    .bind (Files.furnished_ensureDirectory properPages) fun _ => (Fileless.record _).keeps.furnished

theorem furnished_ensureSources (properComponents : components.Proper) (properPages : pages.Proper) :
    Keeps Furnished (ensureSources components pages) := by
  intro w
  cases asked : w.outcome (Action.isPresent components) with
  | error e =>
      unfold ensureSources
      rw [after_bind_of_error asked, after_isPresent]
      exact refl_of _ w
  | ok present =>
      cases present with
      | true =>
          rw [(ensureSources_of_present pages asked).2]
          exact refl_of _ w
      | false =>
          rw [(ensureSources_of_absent pages asked).2]
          exact furnished_makeSources properComponents properPages w

theorem present_of_ensured (properComponents : components.Proper) (properPages : pages.Proper)
    (done : w.outcome (ensureSources components pages) = .ok ()) :
    (w.after (ensureSources components pages)).outcome (Action.isPresent components) = .ok true := by
  cases asked : w.outcome (Action.isPresent components) with
  | error e =>
      unfold ensureSources at done
      rw [outcome_bind_of_error asked] at done
      cases done
  | ok present =>
      cases present with
      | true =>
          rw [(ensureSources_of_present pages asked).2]
          exact asked
      | false =>
          rw [(ensureSources_of_absent pages asked).1] at done
          rw [(ensureSources_of_absent pages asked).2]
          obtain ⟨_, first, -⟩ := outcome_bind_eq_ok.1 done
          unfold makeSources
          rw [after_bind_of_ok first]
          have made := Files.hasDirectory_of_ensured properComponents first
          have furnished := Files.furnished_ensureDirectory properComponents w
          have later : Keeps Furnished (do Files.ensureDirectory pages; Action.record newSourcesRecord) :=
            .bind (Files.furnished_ensureDirectory properPages) fun _ => (Fileless.record _).keeps.furnished
          have furnishedLater := later (w.after (Files.ensureDirectory components))
          refine isPresent_of_hasDirectory ?_
          rw [furnishedLater.here, furnished.here]
          exact made.mono furnishedLater.grows.directories

theorem absent_of_refused (properComponents : components.Proper) (properPages : pages.Proper) {e : Failure}
    (refused : w.outcome (makeSources components pages) = .error e) {tree : FileTree}
    (grows : (w.after (makeSources components pages)).tree.Grows tree) :
    ¬tree.HasDirectory w.here components ∨ ¬tree.HasDirectory w.here pages := by
  unfold makeSources at refused grows
  rcases outcome_bind_eq_error.1 refused with first | ⟨_, first, refused⟩
  · rw [after_bind_of_error first] at grows
    exact .inl (Files.not_hasDirectory_of_refused properComponents first grows)
  · rw [after_bind_of_ok first] at grows
    have furnished := Files.furnished_ensureDirectory properComponents w
    rcases outcome_bind_eq_error.1 refused with second | ⟨_, second, refused⟩
    · rw [after_bind_of_error second] at grows
      rw [← furnished.here]
      exact .inr (Files.not_hasDirectory_of_refused properPages second grows)
    · cases refused

theorem fileless_compose (composer : Composer) (name given : Option Text) : Fileless (compose composer name given) :=
  .bind (.records _) fun _ => .ofExcept _

theorem fileless_composeAll (composer : Composer) (names : List Text) : Fileless (composeAll composer names) := by
  induction names with
  | nil => exact .pure _
  | cons name rest ih => exact .bind (fileless_compose composer _ _) fun _ => .bind ih fun _ => .pure _

theorem names_of_composeAll {names : List Text} {composed : List (Text × Text)}
    (done : w.outcome (composeAll composer names) = .ok composed) : composed.map (·.1) = names := by
  induction names generalizing w composed with
  | nil =>
      cases done
      rfl
  | cons name rest ih =>
      obtain ⟨text, -, done⟩ := outcome_bind_eq_ok.1 done
      obtain ⟨later, composedLater, done⟩ := outcome_bind_eq_ok.1 done
      cases done
      rw [List.map_cons, ih composedLater]

structure Later (components pages : Path) (w w' : Workspace) : Prop where
  sound : w'.Sound
  here : w'.here = w.here
  grows : w.tree.Grows w'.tree
  components : SameFilesBelow w w' components
  pages : SameFilesBelow w w' pages

theorem Later.of_furnished {first : Workspace} (furnished : first.Furnished w) (later : Later components pages w w') :
    Later components pages first w' where
  sound := later.sound
  here := later.here.trans furnished.here
  grows := furnished.grows.trans later.grows
  components := (SameFilesBelow.of_furnished furnished components).trans furnished.here later.components
  pages := (SameFilesBelow.of_furnished furnished pages).trans furnished.here later.pages

theorem Later.then_furnished {last : Workspace} (later : Later components pages w w') (furnished : w'.Furnished last) :
    Later components pages w last where
  sound := furnished.sound later.sound
  here := furnished.here.trans later.here
  grows := later.grows.trans furnished.grows
  components := later.components.trans later.here (.of_furnished furnished components)
  pages := later.pages.trans later.here (.of_furnished furnished pages)

theorem Later.refl (sound : w.Sound) : Later components pages w w where
  sound := sound
  here := rfl
  grows := .refl _
  components := .of_furnished (refl_of _ w) components
  pages := .of_furnished (refl_of _ w) pages

/-- An action that will fail again where it has failed, and where it has succeeded will change nothing more and give
the same, if at all. -/
structure Repeats {α : Type} (components pages : Path) (w : Workspace) (x : Action α) : Prop where
  furnished : w.Furnished (w.after x)
  again : ∀ a, w.outcome x = .ok a → ∀ w', Later components pages (w.after x) w' → ∀ a', w'.outcome x = .ok a' →
    a' = a ∧ w'.SameFiles (w'.after x)
  failed : ∀ e, w.outcome x = .error e → ∀ w', (w.after x).SameFiles w' → ∀ a, w'.outcome x ≠ .ok a

namespace Repeats
variable {α β : Type} {x : Action α} {f : α → Action β}

theorem of_fileless (h : Fileless x) : Repeats components pages w x where
  furnished := h.keeps.furnished w
  again a done w' _ a' done' := by
    rw [h.same w w', done] at done'
    exact ⟨(Except.ok.inj done').symm, h.keeps w'⟩
  failed e refused w' _ a' done' := by
    rw [h.same w w', refused] at done'
    cases done'

theorem bind (sound : w.Sound) (first : Repeats components pages w x)
    (next : ∀ a, w.outcome x = .ok a → Repeats components pages (w.after x) (f a)) :
    Repeats components pages w (x >>= f) where
  furnished := related_bind first.furnished fun a done => (next a done).furnished
  again b done w' later b' done' := by
    obtain ⟨a, done, doneNext⟩ := outcome_bind_eq_ok.1 done
    rw [after_bind_of_ok done] at later
    obtain ⟨a', done', doneNext'⟩ := outcome_bind_eq_ok.1 done'
    obtain ⟨rfl, files⟩ := first.again a done w' (later.of_furnished (next a done).furnished) a' done'
    obtain ⟨same, filesNext⟩ :=
      (next _ done).again b doneNext _ (later.then_furnished (.of_sameFiles files)) b' doneNext'
    rw [after_bind_of_ok done']
    exact ⟨same, trans_of _ files filesNext⟩
  failed e refused w' files b done' := by
    obtain ⟨a', done', doneNext'⟩ := outcome_bind_eq_ok.1 done'
    rcases outcome_bind_eq_error.1 refused with refused | ⟨a, done, refused⟩
    · rw [after_bind_of_error refused] at files
      exact first.failed e refused w' files a' done'
    · rw [after_bind_of_ok done] at files
      have furnished := (next a done).furnished
      have later : Later components pages (w.after x) w' :=
        .of_furnished furnished
          ((Later.refl (furnished.sound (first.furnished.sound sound))).then_furnished (.of_sameFiles files))
      obtain ⟨rfl, filesFirst⟩ := first.again a done w' later a' done'
      exact (next _ done).failed e refused _ (trans_of _ files filesFirst) b doneNext'

theorem ensureDirectory {p : Path} (proper : p.Proper) : Repeats components pages w (Files.ensureDirectory p) where
  furnished := Files.furnished_ensureDirectory proper w
  again u done w' later u' done' := by
    have furnished := Files.furnished_ensureDirectory proper w
    have present := (Files.hasDirectory_of_ensured proper done).mono later.grows.directories
    rw [← furnished.here, ← later.here] at present
    rw [(Files.ensureDirectory_of_hasDirectory present).2]
    exact ⟨rfl, refl_of _ w'⟩
  failed e refused w' files u done' := by
    have here : w'.here = w.here := files.here.trans (Files.furnished_ensureDirectory proper w).here
    have made := Files.hasDirectory_of_ensured proper done'
    rw [here] at made
    refine Files.not_hasDirectory_of_refused proper refused ?_ made
    rw [← files.tree]
    exact (Files.furnished_ensureDirectory proper w').grows

end Repeats

theorem not_loaded_of_refused (sound : w.Sound) (properComponents : components.Proper) (properPages : pages.Proper)
    {e : Failure} (refused : w.outcome (ensureSources components pages) = .error e)
    (files : (w.after (ensureSources components pages)).SameFiles w')
    (done : w'.outcome (ensureSources components pages) = .ok ()) :
    (w'.after (ensureSources components pages)).outcome (load components pages) ≠ .ok composer := by
  intro loaded
  have furnished := furnished_ensureSources properComponents properPages
  cases asked : w.outcome (Action.isPresent components) with
  | error e =>
      unfold ensureSources at files done
      rw [after_bind_of_error asked, after_isPresent] at files
      rw [outcome_bind_of_error ((Reads.isPresent components).same _ _ files ▸ asked)] at done
      cases done
  | ok present =>
      cases present with
      | true =>
          rw [(ensureSources_of_present pages asked).1] at refused
          cases refused
      | false =>
          have here : (w'.after (ensureSources components pages)).here = w.here :=
            (furnished w').here.trans (files.here.trans (furnished w).here)
          have sound' : w'.Sound := ((furnished w).sound sound).of_sameFiles files
          obtain ⟨registry, templates, pageTemplates, loaded⟩ := load_ok ((furnished w').sound sound') loaded
          have grows := (furnished w').grows
          rw [files.tree, (ensureSources_of_absent pages asked).2] at grows
          rw [(ensureSources_of_absent pages asked).1] at refused
          rcases absent_of_refused properComponents properPages refused grows with absent | absent
          · exact absent (here ▸ loaded.componentsFound.present)
          · exact absent (here ▸ loaded.pagesFound.present)

theorem repeats_prepare (settings : Settings) {root : Path} (sound : w.Sound) (proper : root.Proper) :
    Repeats (settings.componentsIn root) (settings.pagesIn root) w (prepare settings root) := by
  have properComponents : (settings.componentsIn root).Proper := proper.append_ofText _
  have properPages : (settings.pagesIn root).Proper := proper.append_ofText _
  have furnishedSources := furnished_ensureSources properComponents properPages
  have readsLoad := reads_load (settings.componentsIn root) (settings.pagesIn root)
  refine ⟨?_, ?_, ?_⟩
  · exact furnishedSources.bind (fun _ => readsLoad.keeps.furnished) w
  · intro composer done w' later composer' done'
    obtain ⟨u, done, loaded⟩ := outcome_bind_eq_ok.1 done
    obtain ⟨u', -, loaded'⟩ := outcome_bind_eq_ok.1 done'
    rw [prepare, after_bind_of_ok done] at later
    replace later := later.of_furnished (readsLoad.keeps.furnished _)
    have present := isPresent_mono later.here later.grows (present_of_ensured properComponents properPages done)
    obtain ⟨ensured, unchanged⟩ := ensureSources_of_present (settings.pagesIn root) present
    rw [unchanged] at loaded'
    rw [prepare, after_bind_of_ok ensured, unchanged]
    exact ⟨load_congr ((furnishedSources w).sound sound) later.sound later.here later.grows.directories later.components
      later.pages loaded loaded', readsLoad.keeps w'⟩
  · intro e refused w' files composer done'
    obtain ⟨u', done', loaded'⟩ := outcome_bind_eq_ok.1 done'
    rcases outcome_bind_eq_error.1 refused with refused | ⟨u, done, refused⟩
    · rw [prepare, after_bind_of_error refused] at files
      exact not_loaded_of_refused sound properComponents properPages refused files done' loaded'
    · -- the sources are there, so that the same is loaded
      rw [prepare, after_bind_of_ok done] at files
      replace files := trans_of SameFiles (readsLoad.keeps _) files
      have present := isPresent_mono files.here (.of_kinds fun _ => by rw [files.tree])
        (present_of_ensured properComponents properPages done)
      rw [(ensureSources_of_present _ present).2, readsLoad.same _ _ files, refused] at loaded'
      cases loaded'

theorem repeats_plan (settings : Settings) {root : Path} (sound : w.Sound) (proper : root.Proper) :
    Repeats (settings.componentsIn root) (settings.pagesIn root) w (plan settings root) := by
  have properOutput : (settings.outputIn root).Proper := proper.append_ofText _
  have prepared := repeats_prepare settings sound proper
  refine .bind sound prepared fun composer _ => ?_
  have made : Repeats (settings.componentsIn root) (settings.pagesIn root) (w.after (prepare settings root))
      (Files.ensureDirectory (settings.outputIn root)) := .ensureDirectory properOutput
  exact .bind (prepared.furnished.sound sound) made fun _ _ => .of_fileless
    (.bind (.record _) fun _ => .bind (fileless_composeAll _ _) fun _ => .pure _)

structure Planned (settings : Settings) (root : Path) (here : Location) (w : Workspace)
    (composed : List (Text × Text)) :
    Prop where
  isHere : w.here = here
  output : w.tree.HasDirectory here (settings.outputIn root)
  named : ∀ page ∈ composed, IsName (page.1 ++ Loading.templateSuffix)

theorem named_of_prepared {settings : Settings} {root : Path} (sound : w.Sound) (proper : root.Proper)
    (done : w.outcome (prepare settings root) = .ok composer) :
    ∀ name ∈ composer.pageNames, IsName (name ++ Loading.templateSuffix) := by
  obtain ⟨u, sources, loaded⟩ := outcome_bind_eq_ok.1 done
  have furnished := furnished_ensureSources (proper.append_ofText settings.directories.components)
    (proper.append_ofText settings.directories.pages) w
  exact named_of_load (furnished.sound sound) loaded

theorem plan_ok {settings : Settings} {root : Path} {composed : List (Text × Text)} (sound : w.Sound)
    (proper : root.Proper)
    (done : w.outcome (plan settings root) = .ok (composer, composed)) :
    Planned settings root w.here (w.after (plan settings root)) composed := by
  have properOutput : (settings.outputIn root).Proper := proper.append_ofText _
  obtain ⟨composer', prepared, done⟩ := outcome_bind_eq_ok.1 done
  obtain ⟨u, made, done⟩ := outcome_bind_eq_ok.1 done
  have here := (repeats_prepare settings sound proper).furnished.here
  have furnished := Files.furnished_ensureDirectory properOutput (w.after (prepare settings root))
  have output := Files.hasDirectory_of_ensured properOutput made
  have files := Fileless.keeps (.bind (.record ⟨.info, "Compiling pages...".toList⟩) fun _ =>
    .bind (fileless_composeAll composer' composer'.pageNames) fun composed => .pure (composer', composed))
    ((w.after (prepare settings root)).after (Files.ensureDirectory (settings.outputIn root)))
  obtain ⟨u, logged, done⟩ := outcome_bind_eq_ok.1 done
  obtain ⟨composed', all, done⟩ := outcome_bind_eq_ok.1 done
  cases done
  have run : SameFiles ((w.after (prepare settings root)).after (Files.ensureDirectory (settings.outputIn root)))
      (w.after (plan settings root)) := by
    rw [plan, after_bind_of_ok prepared, after_bind_of_ok made]
    exact files
  refine ⟨run.here.trans (furnished.here.trans here), ?_, ?_⟩
  · rw [run.tree, ← here]
    exact output
  · intro page member
    have isName : page.1 ∈ composer.pageNames := names_of_composeAll all ▸ List.mem_map_of_mem member
    exact named_of_prepared sound proper prepared page.1 isName

theorem after_build_of_refused {settings : Settings} {root : Path} {e : Failure}
    (refused : w.outcome (plan settings root) = .error e) :
    w.after (build settings root) = w.after (plan settings root) := after_bind_of_error refused

end Site
end PageComposer

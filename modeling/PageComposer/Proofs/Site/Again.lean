import PageComposer.Proofs.Loading.Search
import PageComposer.Proofs.Site.Build

/-!
# The same result again

A build of what another one has left gives the same result and changes nothing (`build_again`). It may fail in one
case only. The way to the output may lead through the components or the pages, and then a build makes directories
there, which the next search for templates comes upon: it fails if their paths are too long, or if they lie too deep
(`Bars`).
-/

namespace PageComposer

open FileTree Workspace

namespace Site
variable {w w' : Workspace} {base : Path} {recursive : Bool} {room : Nat} {e : Failure}

structure Bars (recursive : Bool) (room : Nat) (w w' : Workspace) (base : Path) (e : Failure)
    (names : List Text) : Prop where
  new : w.tree.find? (base.resolve w.here ++ names) = none
  directory : w'.tree.find? (base.resolve w.here ++ names) = some .directory
  reached : recursive = true ∨ names.length ≤ 1
  barred : w'.tree.locate w.here (base.below names) = .error (.system .nameTooLong) ∧
      e = .defect (.system .nameTooLong (base.below names).toText) ∨
    names.length = room ∧ e = .defect .nestedTooDeep

theorem Bars.of_child {names : List Text} {name : Text} (named : IsName name)
    (bars : Bars true room w w' (base.child name) e names) : Bars true (room + 1) w w' base e (name :: names) := by
  have lies : (base.child name).resolve w.here ++ names = base.resolve w.here ++ name :: names :=
    Path.resolve_child_append named.notUp _ _
  refine ⟨lies ▸ bars.new, lies ▸ bars.directory, .inl rfl, ?_⟩
  rcases bars.barred with tooLong | ⟨deep, nested⟩
  · exact .inl (Path.child_below base name names ▸ tooLong)
  · exact .inr ⟨by simp [deep], nested⟩

theorem SameFilesBelow.child (same : SameFilesBelow w w' base) {name : Text} (named : IsName name) :
    SameFilesBelow w w' (base.child name) := by
  intro names content changed _
  rw [Path.resolve_child_append named.notUp]
  exact same _ content changed (by simp)

def Searched (recursive : Bool) (room : Nat) (w : Workspace) (base : Path) : Prop :=
  (∃ paths, w.outcome (Loading.templates recursive room base) = .ok paths) ∨ w.tree.find? (base.resolve w.here) = none

theorem Searched.entry {name : Text} (sound : w.Sound) (searched : Searched recursive (room + 1) w base)
    (old : w.tree.find? (base.resolve w.here ++ [name]) ≠ none) : w.tree.HasDirectory w.here base ∧
      ∃ found, w.outcome (Loading.templates.atEntry recursive (Loading.templates recursive room) (base.child name)) =
        .ok found := by
  obtain ⟨entry, old⟩ := Option.ne_none_iff_exists'.1 old
  have directory := sound.tree.closed _ _ _ old
  rcases searched with ⟨paths, done⟩ | new
  · obtain ⟨present, each⟩ := Loading.of_templates_succ_ok done
    refine ⟨present, each name ?_⟩
    rw [mem_names sound.tree, old]
    rfl
  · rw [new] at directory
    cases directory

theorem Searched.child {name : Text} (sound : w.Sound) (searched : Searched true (room + 1) w base)
    (named : IsName name)
    (grows : w.tree.Grows w'.tree) (directory : w'.tree.find? (base.resolve w.here ++ [name]) = some .directory) :
    Searched true room w (base.child name) := by
  have lies : (base.child name).resolve w.here = base.resolve w.here ++ [name] :=
    Path.resolve_child named.notUp _
  unfold Searched
  rw [lies]
  refine or_iff_not_imp_right.2 fun old => ?_
  obtain ⟨present, found, done⟩ := searched.entry sound old
  obtain ⟨answer, asked, goesOn⟩ := Loading.of_atEntry_ok (Loading.reads_templates true room) done
  obtain ⟨-, answered⟩ := Files.isDirectory_child present named asked
  refine ⟨found, goesOn (answered.2 ?_) rfl⟩
  obtain ⟨entry, old⟩ := Option.ne_none_iff_exists'.1 old
  have kind := grows _ entry.isDirectory (by rw [kind?, old]; rfl)
  rw [kind?_eq_true.2 directory] at kind
  cases entry with
  | directory => exact old
  | file content changed => cases kind

theorem bars_of_refused (sound : w.Sound) (sound' : w'.Sound) (here : w'.here = w.here) (grows : w.tree.Grows w'.tree)
    (same : SameFilesBelow w w' base) (present : w'.tree.HasDirectory w.here base)
    (searched : Searched recursive room w base)
    (refused : w'.outcome (Loading.templates recursive room base) = .error e) :
    ∃ names, Bars recursive room w w' base e names := by
  -- Where only directories are new, a search fails only at one of these.
  induction room generalizing base with
  | zero =>
      cases refused
      rcases searched with ⟨paths, done⟩ | new
      · cases done
      · exact ⟨[], by simpa using new, by simpa using present.found, .inr (by simp), .inr ⟨rfl, rfl⟩⟩
  | succ room ih =>
      obtain ⟨name, member, refused⟩ := Loading.templates_succ_error (here ▸ present) refused
      rw [here, mem_names sound'.tree, Option.isSome_iff_exists] at member
      obtain ⟨entry, there⟩ := member
      have named : IsName name := sound'.tree.name there (by simp)
      have lies : (base.child name).resolve w.here = base.resolve w.here ++ [name] :=
        Path.resolve_child named.notUp _
      have deeperReads := Loading.reads_templates recursive room
      rcases Loading.atEntry_error deeperReads refused with refused | ⟨rfl, asked, refused⟩
      · obtain ⟨tooLong, rfl⟩ := Files.isDirectory_refused refused
        rw [here] at tooLong
        by_cases new : w.tree.find? (base.resolve w.here ++ [name]) = none
        · have directory : w'.tree.find? (base.resolve w.here ++ [name]) = some .directory := by
            cases entry with
            | directory => exact there
            | file content changed =>
                rw [(same [name] content changed (by simp)).2 there] at new
                cases new
          exact ⟨[name], new, directory, .inr (by simp), .inl ⟨tooLong, rfl⟩⟩
        · -- an entry that was there before has been asked before
          obtain ⟨presentBefore, found, done⟩ := searched.entry sound new
          obtain ⟨answer, asked, -⟩ := Loading.of_atEntry_ok deeperReads done
          obtain ⟨located, -⟩ := Files.isDirectory_child presentBefore named asked
          rw [locate_child_congr presentBefore present, tooLong] at located
          cases located
      · have directory := Files.isDirectory_iff.1 asked
        rw [here] at directory
        have searched := searched.child sound named grows (lies ▸ directory.found)
        exact (ih (same.child named) directory searched refused).imp' (name :: ·) fun names bars => bars.of_child named

end Site

namespace Loading
variable {w : Workspace}

theorem outcome_loadFound {α : Type} (load : α → Path → Action (α × Text)) (loaded : α) (summary : Nat → Text)
    (found : Except Failure (List Path)) : w.outcome (loadFound load loaded summary found) = match found with
      | .ok paths => w.outcome (loadEach load loaded paths)
      | .error e => .ok (loaded, .error e) := by
  cases found with
  | error e => rfl
  | ok paths =>
      unfold loadFound
      rw [outcome_bind]
      dsimp only
      cases done : w.outcome (loadEach load loaded paths) with
      | error e => rfl
      | ok result =>
          obtain ⟨loaded, names⟩ := result
          cases names <;> rfl

theorem outcome_loadComponents (registry : Registry) (base : Path) :
    w.outcome (loadComponents registry base) = match w.outcome (templates true Files.walkLimit base) with
      | .ok paths => w.outcome (loadEach (loadComponent base) registry paths)
      | .error e => .ok (registry, .error e) := by
  unfold loadComponents
  rw [(Reads.attempt (reads_templates true _ base)).outcome_bind fun _ =>
    reads_loadFound (reads_loadComponent base) _ _ _, outcome_attempt]
  exact outcome_loadFound _ _ _ _

theorem outcome_loadPages (composer : Composer) (directory : Path) :
    w.outcome (loadPages composer directory) = match w.outcome (templates false Files.walkLimit directory) with
      | .ok paths => w.outcome (loadEach loadPage composer paths)
      | .error e => .ok (composer, .error e) := by
  unfold loadPages
  rw [(Reads.attempt (reads_templates false _ directory)).outcome_bind fun _ => reads_loadFound reads_loadPage _ _ _,
    outcome_attempt]
  exact outcome_loadFound _ _ _ _

end Loading

namespace Site
variable {w w' : Workspace} {components pages : Path} {composer : Composer} {settings : Settings} {root : Path}
    {e : Failure}

theorem outcome_load (w : Workspace) (components pages : Path) : w.outcome (load components pages) =
    (w.outcome (Loading.loadComponents .empty components)).bind fun (registry, loaded) => loaded.bind fun _ =>
      (w.outcome (Loading.loadPages (.new registry Composer.defaultLimit) pages)).bind fun (composer, loaded) =>
        loaded.map fun _ => composer := by
  unfold load
  cases first : w.outcome (Loading.loadComponents .empty components) with
  | error e => exact outcome_bind_of_error first
  | ok result =>
      obtain ⟨registry, loaded⟩ := result
      rw [outcome_bind_of_ok first]
      cases loaded with
      | error e => rfl
      | ok names =>
          -- neither the loading of the components nor the record has changed the files
          have files := trans_of SameFiles ((Loading.reads_loadComponents .empty components).keeps w)
            ((Fileless.record (foundRecord registry.size "components".toList components)).keeps _)
          have same := (Loading.reads_loadPages (.new registry Composer.defaultLimit) pages).same _ _ files
          dsimp only [Except.bind]
          rw [outcome_bind_of_ok (outcome_ofExcept _), after_ofExcept, outcome_bind_of_ok (outcome_record _)]
          cases second : w.outcome (Loading.loadPages (.new registry Composer.defaultLimit) pages) with
          | error e => rw [outcome_bind_of_error (same.trans second)]
          | ok result =>
              obtain ⟨composer, loaded⟩ := result
              rw [outcome_bind_of_ok (same.trans second)]
              cases loaded <;> rfl

theorem load_again (sound : w.Sound) (later : Later components pages w w')
    (done : w.outcome (load components pages) = .ok composer) :
    (∃ composer', w'.outcome (load components pages) = .ok composer') ∨
      ∃ e names, w'.outcome (load components pages) = .error e ∧
      (Bars true Files.walkLimit w w' components e names ∨ Bars false Files.walkLimit w w' pages e names) := by
  -- The sources are loaded again, unless a new directory bars the way.
  obtain ⟨registry, templates, pageTemplates, loaded⟩ := load_ok sound done
  have directories := later.grows.directories
  rw [outcome_load, Loading.outcome_loadComponents]
  cases found : w'.outcome (Loading.templates true Files.walkLimit components) with
  | error e =>
      obtain ⟨names, bars⟩ := bars_of_refused sound later.sound later.here later.grows later.components
        (loaded.componentsFound.present.mono directories) (.inl loaded.componentsSearched) found
      exact .inr ⟨e, names, rfl, .inl bars⟩
  | ok templates' =>
      obtain ⟨rfl, sameTexts⟩ := found_congr sound later.sound later.here directories later.components
        loaded.componentsFound (Loading.templates_ok later.sound found)
      obtain ⟨names, registered⟩ := loaded.registered
      rw [Loading.loadEach_congr (Loading.reads_loadComponent components) _ fun q member registry =>
        Loading.loadComponent_congr components registry (sameTexts q member)] at registered
      dsimp only
      rw [registered]
      dsimp only [Except.bind]
      rw [Loading.outcome_loadPages]
      cases pagesFound : w'.outcome (Loading.templates false Files.walkLimit pages) with
      | error e =>
          obtain ⟨names, bars⟩ := bars_of_refused sound later.sound later.here later.grows later.pages
            (loaded.pagesFound.present.mono directories) (.inl loaded.pagesSearched) pagesFound
          exact .inr ⟨e, names, rfl, .inr bars⟩
      | ok pageTemplates' =>
          obtain ⟨rfl, sameTexts⟩ := found_congr sound later.sound later.here directories later.pages
            loaded.pagesFound (Loading.templates_ok later.sound pagesFound)
          obtain ⟨names, added⟩ := loaded.added
          rw [Loading.loadEach_congr Loading.reads_loadPage _ fun q member composer =>
            Loading.loadPage_congr composer (sameTexts q member)] at added
          dsimp only
          rw [added]
          exact .inl ⟨composer, rfl⟩

theorem Bars.of_furnished {t : Workspace} {base : Path} {recursive : Bool} {room : Nat} {names : List Text}
    (furnished : w.Furnished t) (bars : Bars recursive room t w' base e names) :
      Bars recursive room w w' base e names := by
  obtain ⟨new, directory, reached, barred⟩ := bars
  rw [furnished.here] at new directory barred
  refine ⟨?_, directory, reached, barred⟩
  rcases furnished.found (base.resolve w.here ++ names) with same | ⟨free, -⟩
  · exact same ▸ new
  · exact free

/-- A new directory bars the way to the components or to the pages. -/
def Barred (settings : Settings) (root : Path) (w w' : Workspace) (e : Failure) : Prop :=
  ∃ names, Bars true Files.walkLimit w w' (settings.componentsIn root) e names ∨
    Bars false Files.walkLimit w w' (settings.pagesIn root) e names

theorem plan_again (sound : w.Sound) (proper : root.Proper) {planned : Composer × List (Text × Text)}
    (done : w.outcome (plan settings root) = .ok planned)
    (later : Later (settings.componentsIn root) (settings.pagesIn root) (w.after (plan settings root)) w') :
    w'.SameFiles (w'.after (plan settings root)) ∧ (w'.outcome (plan settings root) = .ok planned ∨
      ∃ e, w'.outcome (plan settings root) = .error e ∧ Barred settings root w w' e) := by
  have properComponents : (settings.componentsIn root).Proper := proper.append_ofText _
  have properPages : (settings.pagesIn root).Proper := proper.append_ofText _
  have properOutput : (settings.outputIn root).Proper := proper.append_ofText _
  have there := plan_ok sound proper done
  obtain ⟨composer, prepared, rest⟩ := outcome_bind_eq_ok.1 done
  obtain ⟨u, ensured, loaded⟩ := outcome_bind_eq_ok.1 prepared
  have furnishedSources := furnished_ensureSources properComponents properPages w
  have readsLoad := reads_load (settings.componentsIn root) (settings.pagesIn root)
  have laterPrepared :
      Later (settings.componentsIn root) (settings.pagesIn root) (w.after (prepare settings root)) w' := by
    refine .of_furnished ?_ later
    rw [plan, after_bind_of_ok prepared]
    exact Keeps.bind (Files.furnished_ensureDirectory properOutput) (fun _ =>
      (Fileless.bind (.record _) fun _ => .bind (fileless_composeAll _ _) fun _ => .pure _).keeps.furnished) _
  have laterEnsured : Later (settings.componentsIn root) (settings.pagesIn root)
      (w.after (ensureSources (settings.componentsIn root) (settings.pagesIn root))) w' := by
    refine .of_furnished ?_ laterPrepared
    rw [prepare, after_bind_of_ok ensured]
    exact readsLoad.keeps.furnished _
  have present :=
    isPresent_mono laterEnsured.here laterEnsured.grows (present_of_ensured properComponents properPages ensured)
  obtain ⟨ensured', unchanged⟩ := ensureSources_of_present (settings.pagesIn root) present
  have outcome : w'.outcome (prepare settings root) =
      w'.outcome (load (settings.componentsIn root) (settings.pagesIn root)) := by
    rw [prepare, outcome_bind_of_ok ensured', unchanged]
  rcases load_again (furnishedSources.sound sound) laterEnsured loaded with
    ⟨composer', loaded'⟩ | ⟨e, names, refused, bars⟩
  · have prepared' := outcome.trans loaded'
    obtain ⟨rfl, files⟩ := (repeats_prepare settings sound proper).again _ prepared w' laterPrepared _ prepared'
    obtain ⟨_, -, rest⟩ := outcome_bind_eq_ok.1 rest
    have output : (w'.after (prepare settings root)).tree.HasDirectory (w'.after (prepare settings root)).here
        (settings.outputIn root) := by
      rw [files.tree, files.here, later.here, there.isHere]
      exact there.output.mono later.grows.directories
    obtain ⟨made, idle⟩ := Files.ensureDirectory_of_hasDirectory output
    have composes : Fileless (do
        Action.log .info "Compiling pages...".toList
        return (composer', ← composeAll composer' composer'.pageNames)) :=
      .bind (.record _) fun _ => .bind (fileless_composeAll _ _) fun _ => .pure _
    constructor
    · rw [plan, after_bind_of_ok prepared', after_bind_of_ok made, idle]
      exact trans_of SameFiles files (composes.keeps _)
    · left
      rw [plan, outcome_bind_of_ok prepared', outcome_bind_of_ok made, idle]
      exact (composes.same _ _).trans rest
  · have refused' := outcome.trans refused
    constructor
    · rw [plan, after_bind_of_error refused', prepare, after_bind_of_ok ensured', unchanged]
      exact readsLoad.keeps w'
    · exact .inr ⟨e, outcome_bind_of_error refused', names,
        bars.imp (.of_furnished furnishedSources) (.of_furnished furnishedSources)⟩

/-- A build of what another one has left changes nothing and gives the same result, unless directories that the first
one has made among the sources, on its way to the output, bar the way of the second. -/
theorem build_again (sound : w.Sound) (proper : root.Proper) (apart : OutputApart settings root w.here)
    {result : BuildResult}
    (done : w.outcome (build settings root) = .ok result) (files : (w.after (build settings root)).SameFiles w') :
    (∀ l, (w'.after (build settings root)).tree.content? l = w'.tree.content? l) ∧
    (∀ l, (w'.after (build settings root)).tree.kind? l = w'.tree.kind? l) ∧
    (w'.outcome (build settings root) = .ok result ∨
      ∃ e, w'.outcome (build settings root) = .error e ∧ Barred settings root w w' e) := by
  refine ⟨contents_of_build_again sound proper apart files, ?_⟩
  obtain ⟨⟨composer, composed⟩, planned, rest⟩ := outcome_bind_eq_ok.1 done
  obtain ⟨⟨written, copied⟩, published, rest⟩ := outcome_bind_eq_ok.1 rest
  cases rest
  obtain ⟨unchanged, planned' | ⟨e, refused, barred⟩⟩ :=
    plan_again sound proper planned (later_of_built sound proper apart planned files)
  · have beside := beside_of_built sound proper apart planned files unchanged
    obtain ⟨published', beside'⟩ := (settles_published sound proper apart planned).ok _ published _ beside
    rw [after_build_of_planned planned] at files
    refine ⟨fun l => ?_, .inl ?_⟩
    · rw [after_build_of_planned planned', beside'.kinds, files.tree]
    · rw [build, outcome_bind_of_ok planned']
      dsimp only
      rw [outcome_bind_of_ok published']
      rfl
  · refine ⟨fun l => ?_, .inr ⟨e, outcome_bind_of_error refused, barred⟩⟩
    rw [after_build_of_refused refused, unchanged.tree]

def onePage : Workspace :=
  .holding [("src", none), ("src/components", none), ("src/pages", none), ("src/pages/index.html", "A")]

/-- The settings of a project whose components are named in this way, and the way to whose output leads through a new
directory among the components. -/
def detour (components : Text) : Settings :=
  { Settings.default with directories := { Directories.default with
      components := components
      output := "src/components/".toList ++ List.replicate 30 'a' ++ "/../../../public".toList } }

theorem build_again_onePage :
    onePage.Sound ∧ (Path.ofText ['.']).Proper ∧
      OutputApart (detour "src/components".toList) (.ofText ['.']) onePage.here ∧
    ∃ result, onePage.outcome (build (detour "src/components".toList) (.ofText ['.'])) = .ok result ∧
      result.pages = ["index".toList] ∧
      (onePage.after (build (detour "src/components".toList) (.ofText ['.']))).outcome
        (build (detour "src/components".toList) (.ofText ['.'])) = .ok result := by
  have sound : onePage.Sound := by decide +kernel
  have proper : (Path.ofText ['.']).Proper := by decide
  have apart : OutputApart (detour "src/components".toList) (.ofText ['.']) onePage.here := by decide +kernel
  have pages :
    (onePage.outcome (build (detour "src/components".toList) (.ofText ['.']))).toOption.map BuildResult.pages =
      some ["index".toList] := by decide +kernel
  have again : ((onePage.after (build (detour "src/components".toList) (.ofText ['.']))).outcome
      (build (detour "src/components".toList) (.ofText ['.']))).toOption.isSome = true := by decide +kernel
  refine ⟨sound, proper, apart, ?_⟩
  cases done : onePage.outcome (build (detour "src/components".toList) (.ofText ['.'])) with
  | error e =>
      rw [done] at pages
      cases pages
  | ok result =>
      rw [done] at pages
      refine ⟨result, rfl, Option.some.inj pages, ?_⟩
      obtain ⟨-, -, same | ⟨e, refused, -⟩⟩ := build_again sound proper apart done (refl_of _ _)
      · exact same
      · rw [refused] at again
        cases again

/-- The path of the components goes up and down until it is nearly as long as a path may be. -/
def windingPath : Text := (List.replicate 580 "src/../".toList).flatten ++ "src/components".toList

/-- The path of the new directory would be too long: the first build succeeds, and the second one fails. -/
theorem not_again_of_winding :
    onePage.Sound ∧ (Path.ofText ['.']).Proper ∧ OutputApart (detour windingPath) (.ofText ['.']) onePage.here ∧
    (∃ result, onePage.outcome (build (detour windingPath) (.ofText ['.'])) = .ok result) ∧
    ∀ result, (onePage.after (build (detour windingPath) (.ofText ['.']))).outcome
      (build (detour windingPath) (.ofText ['.'])) ≠
      .ok result := by
  have first : (onePage.outcome (build (detour windingPath) (.ofText ['.']))).toOption.isSome = true := by
    decide +kernel
  have second : ((onePage.after (build (detour windingPath) (.ofText ['.']))).outcome
      (build (detour windingPath) (.ofText ['.']))).toOption = none := by decide +kernel
  refine ⟨by decide +kernel, by decide, by decide +kernel, ?_, fun result again => ?_⟩
  · generalize onePage.outcome (build (detour windingPath) (.ofText ['.'])) = done at first ⊢
    cases done with
    | error e => cases first
    | ok result => exact ⟨result, rfl⟩
  · rw [again] at second
    cases second

end Site
end PageComposer

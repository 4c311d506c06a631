import PageComposer.Command
import PageComposer.Proofs.Site.Build
import PageComposer.Proofs.Site.Transfer

/-!
# What a build puts out

A build that succeeds has put out each page of the project: its file holds the text that composing the page prints, or
it is a copy of an asset with the same name, since the assets are copied after the pages have been written
(`puts_out`).
-/

namespace PageComposer

open FileTree Workspace

def Workspace.fileIn? (w : Workspace) (directory : Path) (name : Text) : Option (List UInt8) :=
  if w.tree.HasDirectory w.here directory then w.tree.content? (directory.resolve w.here ++ [name]) else none

namespace Site
variable {w w' t : Workspace} {settings : Settings} {root assets output : Path} {composer : Composer}
  {composed : List (Text × Text)} {written : List Path} {page text : Text}

def pageFile (page : Text) : Text := page ++ Loading.templateSuffix

theorem determined_prepare (settings : Settings) (root : Path) : Determined (prepare settings root) := by
  refine .bind (.bind (.of_reads (.isPresent _)) fun present => ?_) fun _ => .of_reads (reads_load _ _)
  cases present with
  | true => exact .of_reads (.pure _)
  | false =>
      exact .bind (Files.determined_ensureDirectory _) fun _ => .bind (Files.determined_ensureDirectory _) fun _ =>
        .of_reads (Fileless.record _).reads

theorem pageNames_of_prepared (sound : w.Sound) (proper : root.Proper)
    (done : w.outcome (prepare settings root) = .ok composer) :
    composer.pageNames.Nodup ∧ ∀ page, page ∈ composer.pageNames ↔
      page ≠ [] ∧ (w.tree.content? ((settings.pagesIn root).resolve w.here ++ [pageFile page])).isSome := by
  obtain ⟨u, -, loaded⟩ := outcome_bind_eq_ok.1 done
  have furnished := furnished_ensureSources (proper.append_ofText settings.directories.components)
    (proper.append_ofText settings.directories.pages) w
  have pages := pageNames_of_load (furnished.sound sound) loaded
  simp only [furnished.here, furnished.content] at pages
  exact pages

theorem composed_of_composeAll {names : List Text} (done : w.outcome (composeAll composer names) = .ok composed) :
    ∀ page ∈ composed, ∀ w' : Workspace, w'.outcome (compose composer (some page.1) none) = .ok page.2 := by
  induction names generalizing w composed with
  | nil =>
      cases done
      simp
  | cons name rest ih =>
      obtain ⟨text, first, done⟩ := outcome_bind_eq_ok.1 done
      obtain ⟨later, composedLater, done⟩ := outcome_bind_eq_ok.1 done
      cases done
      intro page member w'
      rcases List.mem_cons.1 member with rfl | member
      · rw [(fileless_compose composer (some name) none).same w w', first]
      · exact ih composedLater page member w'

theorem prepared_of_planned (done : w.outcome (plan settings root) = .ok (composer, composed)) :
    w.outcome (prepare settings root) = .ok composer ∧ composed.map (·.1) = composer.pageNames ∧
      ∀ page ∈ composed, ∀ w' : Workspace, w'.outcome (compose composer (some page.1) none) = .ok page.2 := by
  obtain ⟨composer', prepared, done⟩ := outcome_bind_eq_ok.1 done
  obtain ⟨u, -, done⟩ := outcome_bind_eq_ok.1 done
  obtain ⟨u, -, done⟩ := outcome_bind_eq_ok.1 done
  obtain ⟨composed', all, done⟩ := outcome_bind_eq_ok.1 done
  cases done
  exact ⟨prepared, names_of_composeAll all, composed_of_composeAll all⟩

theorem writePage_ok {p : Path} (named : IsName (pageFile page))
    (done : t.outcome (writePage output page text) = .ok p) :
    p = output.child (pageFile page) ∧ (t.after (writePage output page text)).here = t.here ∧
      ∀ l, (t.after (writePage output page text)).tree.content? l =
        if l = output.resolve t.here ++ [pageFile page] then some (Utf8.encode text) else t.tree.content? l := by
  have path : output.append (Path.ofText (page ++ Loading.templateSuffix)) = output.child (pageFile page) :=
    Path.append_ofText_name output named
  unfold writePage at done ⊢
  rw [path] at done ⊢
  obtain ⟨u, stored, done⟩ := outcome_bind_eq_ok.1 done
  cases done
  have logs : Fileless (do
      Action.log .debug ("Wrote compiled page: ".toList ++ (output.child (pageFile page)).name)
      return output.child (pageFile page)) := .bind (.record _) fun _ => .pure _
  dsimp only
  rw [after_bind_of_ok stored, (logs.keeps _).here]
  rcases Files.writeText_cases t (output.child (pageFile page)) text with
    ⟨m, changed, accepts, -, files⟩ | ⟨-, ⟨e, refused⟩, -⟩
  · have rooted : m ≠ [] := by
      rintro rfl
      exact accepts.free (find?_root _)
    have place : m = output.resolve t.here ++ [pageFile page] := locate_child named.notUp accepts.located
    refine ⟨rfl, files.here.symm, fun l => ?_⟩
    rw [(logs.keeps _).tree, ← files.tree, tree_put, content?_put rooted, place]
    rfl
  · rw [refused] at stored
    cases stored

theorem writePages_ok (named : ∀ page ∈ composed, IsName (pageFile page.1)) (once : (composed.map (·.1)).Nodup)
    (done : t.outcome (writePages output composed) = .ok written) :
    written = composed.map (fun page => output.child (pageFile page.1)) ∧
    (∀ page ∈ composed,
      (t.after (writePages output composed)).tree.content? (output.resolve t.here ++ [pageFile page.1]) =
      some (Utf8.encode page.2)) ∧
    ∀ l, (∀ page ∈ composed, l ≠ output.resolve t.here ++ [pageFile page.1]) →
      (t.after (writePages output composed)).tree.content? l = t.tree.content? l := by
  -- Each page has its own file, so that what has been written stays while others are written.
  induction composed generalizing t written with
  | nil =>
      cases done
      exact ⟨rfl, by simp, fun _ _ => rfl⟩
  | cons page rest ih =>
      obtain ⟨namedFirst, namedLater⟩ := List.forall_mem_cons.1 named
      obtain ⟨new, onceLater⟩ := List.nodup_cons.1 once
      obtain ⟨p, first, done⟩ := outcome_bind_eq_ok.1 done
      obtain ⟨later, writtenLater, done⟩ := outcome_bind_eq_ok.1 done
      cases done
      obtain ⟨rfl, here, firstContents⟩ := writePage_ok namedFirst first
      obtain ⟨rfl, contents, others⟩ := ih namedLater onceLater writtenLater
      rw [here] at contents others
      have other : ∀ page' ∈ rest,
          output.resolve t.here ++ [pageFile page.1] ≠ output.resolve t.here ++ [pageFile page'.1] := by
        intro page' member same
        have sameName : page'.1 = page.1 := by simpa [pageFile] using same.symm
        exact new (List.mem_map.2 ⟨page', member, sameName⟩)
      have run : t.after (writePages output (page :: rest)) =
          (t.after (writePage output page.1 page.2)).after (writePages output rest) := by
        rw [writePages, after_bind_of_ok first, after_bind_of_ok writtenLater]
        rfl
      rw [run]
      refine ⟨rfl, ?_, fun l apart => ?_⟩
      · intro page' member
        rcases List.mem_cons.1 member with rfl | member
        · rw [others _ other, firstContents, if_pos rfl]
        · exact contents page' member
      · obtain ⟨apartFirst, apartLater⟩ := List.forall_mem_cons.1 apart
        rw [others l apartLater, firstContents, if_neg apartFirst]

theorem content_of_copyAssets {file : Text} {content : List UInt8} (sound : t.Sound) (proper : output.Proper)
    (elsewhere : ∀ names, ¬output.resolve t.here <+: assets.resolve t.here ++ names)
    (target : t.tree.HasDirectory t.here output)
    (page : t.tree.content? (output.resolve t.here ++ [file]) = some content)
    {copied : Nat} (done : t.outcome (copyAssets assets output) = .ok copied) :
    (t.after (copyAssets assets output)).tree.content? (output.resolve t.here ++ [file]) =
      some (((t.after (copyAssets assets output)).fileIn? assets file).getD content) := by
  have transfers := transfers_copyAssets sound proper elsewhere target
  have published := transfers.published
  unfold Workspace.fileIn?
  rw [published.here]
  by_cases source : t.tree.HasDirectory t.here assets
  · rw [if_pos (source.mono published.grows.directories)]
    have same : (t.after (copyAssets assets output)).tree.content? (assets.resolve t.here ++ [file]) =
        t.tree.content? (assets.resolve t.here ++ [file]) := by
      rw [FileTree.content?, published.apart _ (elsewhere _), FileTree.content?]
    rw [same]
    cases asset : t.tree.content? (assets.resolve t.here ++ [file]) with
    | none =>
        rcases transfers.contents (output.resolve t.here ++ [file]) with
          unchanged | ⟨content', ⟨names, changed, found, place⟩, -⟩
        · rw [unchanged, page]
          rfl
        · -- only an asset of the same name could have landed here
          rcases place with place | ⟨last, isLast, place⟩
          · rw [← List.append_cancel_left place] at found
            rw [content?_eq_some.2 ⟨changed, found⟩] at asset
            cases asset
          · have top : names = [] := by
              rw [List.append_assoc] at place
              have sizes := congrArg List.length (List.append_cancel_left place)
              simpa using sizes
            rw [top] at isLast
            cases isLast
    | some content' =>
        obtain ⟨changed, found⟩ := content?_eq_some.1 asset
        obtain ⟨l, place, there⟩ := transfers.landed copied done [file] content' changed ⟨by simp, source⟩ found
        rcases place with rfl | ⟨last, -, rfl⟩
        · exact there
        · -- the page is no directory that it could have landed in
          obtain ⟨changed, page⟩ := content?_eq_some.1 page
          obtain ⟨changed', there⟩ := content?_eq_some.1 there
          have isFile := published.grows _ false (kind?_eq_false.2 ⟨content, changed, page⟩)
          have directory := (published.sound sound).tree.closed _ _ _ there
          rw [kind?_eq_true.2 directory] at isFile
          cases isFile
  · have idle := (copyAssets_of_absent output source).2
    rw [idle.tree, if_neg source, page]
    rfl

theorem publish_ok {copied : Nat} (sound : t.Sound) (proper : output.Proper)
    (elsewhere : ∀ names, ¬output.resolve t.here <+: assets.resolve t.here ++ names)
    (target : t.tree.HasDirectory t.here output) (named : ∀ page ∈ composed, IsName (pageFile page.1))
    (once : (composed.map (·.1)).Nodup) (done : t.outcome (publish assets output composed) = .ok (written, copied)) :
    written = composed.map (fun page => output.child (pageFile page.1)) ∧
    ∀ page ∈ composed,
      (t.after (publish assets output composed)).tree.content? (output.resolve t.here ++ [pageFile page.1]) =
        some (((t.after (publish assets output composed)).fileIn? assets (pageFile page.1)).getD
          (Utf8.encode page.2)) := by
  obtain ⟨written', writes, done⟩ := outcome_bind_eq_ok.1 done
  obtain ⟨copied', copies, done⟩ := outcome_bind_eq_ok.1 done
  cases done
  have published := (replays_writePages proper (List.prefix_refl (output.resolve t.here)) named).published
  obtain ⟨rfl, contents, -⟩ := writePages_ok named once writes
  have run : t.after (publish assets output composed) =
      (t.after (writePages output composed)).after (copyAssets assets output) := by
    rw [publish, after_bind_of_ok writes, after_bind_of_ok copies]
    rfl
  refine ⟨rfl, fun page member => ?_⟩
  rw [run, ← published.here]
  refine content_of_copyAssets (published.sound sound) proper ?_ ?_ ?_ copies
  all_goals rw [published.here]
  · exact elsewhere
  · exact target.mono published.grows.directories
  · exact contents page member

theorem reads_isFile (p : Path) : Reads (Action.isFile p) := .storage (.bind (.query _) fun _ => .pure _)

theorem reads_findAmong (directory : Path) (names : List Text) : Reads (Settings.findAmong directory names) := by
  induction names with
  | nil => exact .pure _
  | cons name rest ih => exact .bind (reads_isFile _) fun _ => .ite (.pure _) ih

theorem reads_loadSettings (stated : Option Path) (directory : Path) : Reads (Settings.load stated directory) := by
  have reads (p : Path) : Reads (Settings.read p) := .bind (.storage (.readFile p)) fun _ => (Fileless.ofExcept _).reads
  cases stated with
  | some p => exact .bind (.isPresent p) fun _ => .ite (reads p) (.throw _)
  | none =>
      refine .bind (reads_findAmong _ _) fun found => ?_
      cases found with
      | some p => exact reads p
      | none => exact .pure _

theorem sameFiles_heed (settings : Settings) : Keeps SameFiles (Project.heed settings) := by
  intro w
  rw [Project.heed, after_modify]
  split
  · exact ⟨rfl, rfl⟩
  · exact ⟨rfl, rfl⟩

theorem sameFiles_loadProject (stated : Option Path) : Keeps SameFiles (Project.load stated) := by
  refine .bind (.bind .get fun _ => .pure _) fun here => ?_
  cases stated
  case' some p => refine .bind (.pure _) fun found => ?_
  case' none => refine .bind (reads_findAmong _ _).keeps fun found => ?_
  all_goals
    refine .bind (reads_loadSettings _ _).keeps fun settings => .bind (sameFiles_heed settings) fun _ => ?_
    cases found with
    | some p => exact .bind .get fun _ => .pure _
    | none => exact .pure _

theorem outcome_reporting (x : Action Outcome) : w.outcome (reporting x) = match w.outcome x with
    | .ok outcome => .ok outcome
    | .error (.fault f) => .ok (.done (.ofFault f))
    | .error (.defect d) => .error (.defect d) := by
  unfold reporting
  rw [outcome_bind, outcome_attempt]
  cases w.outcome x with
  | ok outcome => rfl
  | error e => cases e <;> rfl

theorem after_reporting (x : Action Outcome) : w.after (reporting x) = w.after x := by
  unfold reporting
  rw [after_bind_of_ok (outcome_attempt _), after_attempt]
  cases w.outcome x with
  | ok outcome => rfl
  | error e => cases e <;> rfl

theorem startCompose_ok {stated : Option Path} (loaded : w.outcome (Project.load stated) = .ok ⟨settings, root⟩)
    (prepared : w.outcome (prepare settings root) = .ok composer)
    (composes : ∀ w' : Workspace, w'.outcome (compose composer (some page) none) = .ok text) :
    w.outcome (Command.startCompose page stated) = .ok (.done (.success (Text.withoutSequences text))) := by
  have prepared' := (determined_prepare settings root).outcome _ _ (sameFiles_loadProject stated w)
  rw [prepared] at prepared'
  rw [Command.startCompose, outcome_reporting, outcome_bind_of_ok loaded]
  dsimp only [Project.prepare]
  rw [outcome_bind_of_ok prepared', outcome_bind_of_ok (composes _)]
  rfl

theorem of_startCompose {stated : Option Path} {printed : Text}
    (loaded : w.outcome (Project.load stated) = .ok ⟨settings, root⟩)
    (done : w.outcome (Command.startCompose page stated) = .ok (.done (.success printed))) :
    ∃ composer, w.outcome (prepare settings root) = .ok composer ∧
      ∀ text, (∀ w' : Workspace, w'.outcome (compose composer (some page) none) = .ok text) →
        printed = Text.withoutSequences text := by
  rw [Command.startCompose, outcome_reporting, outcome_bind_of_ok loaded] at done
  dsimp only [Project.prepare] at done
  have prepared' := (determined_prepare settings root).outcome _ _ (sameFiles_loadProject stated w)
  rw [outcome_bind, prepared'] at done
  cases prepared : w.outcome (prepare settings root) with
  | error e =>
      rw [prepared] at done
      cases e with
      | fault f =>
          -- a report of a fault has something to say
          have report : Report.ofFault f = .success printed := by simpa using done
          cases congrArg Report.errors report
      | defect d => cases done
  | ok composer =>
      refine ⟨composer, rfl, fun text composes => ?_⟩
      rw [prepared] at done
      dsimp only at done
      rw [outcome_bind_of_ok (composes _)] at done
      have report : Report.success (Text.withoutSequences text) = .success printed := by simpa using done
      exact (congrArg Report.output report).symm

/-- A text that the command for one page prints where it finds the files as they were before a build, and whenever it
succeeds where it finds them as the build has left them. -/
structure Prints (w : Workspace) (settings : Settings) (root : Path) (page printed : Text) : Prop where
  before : ∀ stated w', w.SameFiles w' → w'.outcome (Project.load stated) = .ok ⟨settings, root⟩ →
    w'.outcome (Command.startCompose page stated) = .ok (.done (.success printed))
  later : ∀ stated w' other, (w.after (build settings root)).SameFiles w' →
    w'.outcome (Project.load stated) = .ok ⟨settings, root⟩ →
    w'.outcome (Command.startCompose page stated) = .ok (.done (.success other)) → other = printed

theorem prints_of_planned (sound : w.Sound) (proper : root.Proper) (apart : OutputApart settings root w.here)
    (done : w.outcome (plan settings root) = .ok (composer, composed))
    (composes : ∀ w' : Workspace, w'.outcome (compose composer (some page) none) = .ok text) :
    Prints w settings root page (Text.withoutSequences text) where
  before stated w' files loaded := by
    obtain ⟨prepared, -, -⟩ := prepared_of_planned done
    have prepared' := (determined_prepare settings root).outcome w w' files
    exact startCompose_ok loaded (prepared'.trans prepared) composes
  later stated w' printed files loaded prints := by
    obtain ⟨prepared, -, -⟩ := prepared_of_planned done
    obtain ⟨composer', prepared', printed⟩ := of_startCompose loaded prints
    have furnished : (w.after (prepare settings root)).Furnished (w.after (plan settings root)) := by
      rw [plan, after_bind_of_ok prepared]
      refine Keeps.bind (Files.furnished_ensureDirectory (proper.append_ofText _)) (fun _ => ?_) _
      exact .furnished (Fileless.keeps (.bind (.record _) fun _ => .bind (fileless_composeAll _ _) fun _ => .pure _))
    have later := (later_of_built sound proper apart done files).of_furnished furnished
    obtain ⟨rfl, -⟩ := (repeats_prepare settings sound proper).again _ prepared w' later _ prepared'
    exact printed text composes

/-- What there is after a build of a project. -/
structure PutsOut (w : Workspace) (settings : Settings) (root : Path) (result : BuildResult) : Prop where
  once : result.pages.Nodup
  pages : ∀ page, page ∈ result.pages ↔
    page ≠ [] ∧ (w.tree.content? ((settings.pagesIn root).resolve w.here ++ [pageFile page])).isSome
  written : result.written = result.pages.map fun page => (settings.outputIn root).child (pageFile page)
  texts : ∀ page ∈ result.pages, ∃ text, Prints w settings root page (Text.withoutSequences text) ∧
    (w.after (build settings root)).fileIn? (settings.outputIn root) (pageFile page) =
      some (((w.after (build settings root)).fileIn? (settings.assetsIn root) (pageFile page)).getD (Utf8.encode text))

theorem puts_out {result : BuildResult} (sound : w.Sound) (proper : root.Proper)
    (apart : OutputApart settings root w.here)
    (done : w.outcome (build settings root) = .ok result) : PutsOut w settings root result := by
  obtain ⟨⟨composer, composed⟩, planned, done⟩ := outcome_bind_eq_ok.1 done
  obtain ⟨⟨written, copied⟩, published, done⟩ := outcome_bind_eq_ok.1 done
  cases done
  obtain ⟨prepared, names, composes⟩ := prepared_of_planned planned
  obtain ⟨once, pages⟩ := pageNames_of_prepared sound proper prepared
  have there := plan_ok sound proper planned
  have properOutput : (settings.outputIn root).Proper := proper.append_ofText _
  have furnished := (repeats_plan settings sound proper).furnished
  have target := there.output
  rw [← there.isHere] at target
  have elsewhere : ∀ names, ¬(settings.outputIn root).resolve (w.after (plan settings root)).here <+:
      (settings.assetsIn root).resolve (w.after (plan settings root)).here ++ names := by
    rw [there.isHere]
    exact apart.assets.not_inside
  obtain ⟨rfl, contents⟩ := publish_ok (furnished.sound sound) properOutput elsewhere target there.named
    (names ▸ once) published
  rw [← names] at once pages
  refine ⟨once, pages, by simp [Function.comp_def], fun page member => ?_⟩
  obtain ⟨⟨page, text⟩, isIn, rfl⟩ := List.mem_map.1 member
  refine ⟨text, prints_of_planned sound proper apart planned (composes _ isIn), ?_⟩
  have settled := (settles_published sound proper apart planned).published
  rw [after_build_of_planned planned, ← contents _ isIn, Workspace.fileIn?, settled.here,
    if_pos (target.mono settled.grows.directories)]

def shadowed : Workspace := .holding [("src", none), ("src/assets", none), ("src/assets/about.html", "B"),
  ("src/components", none), ("src/components/Card.html", "Hello"), ("src/pages", none), ("src/pages/about.html", "A"),
  ("src/pages/index.html", "\x7b\x7bCard\x7d\x7d")]

theorem puts_out_shadowed :
    shadowed.Sound ∧ (Path.ofLocation []).Proper ∧ OutputApart .default (.ofLocation []) shadowed.here ∧
    ∃ result, shadowed.outcome (build .default (.ofLocation [])) = .ok result ∧
      result.pages = ["about".toList, "index".toList] ∧ PutsOut shadowed .default (.ofLocation []) result := by
  have sound : shadowed.Sound := by decide +kernel
  have proper : (Path.ofLocation []).Proper := by decide
  have apart : OutputApart .default (.ofLocation []) shadowed.here := by decide +kernel
  have pages : (shadowed.outcome (build .default (.ofLocation []))).toOption.map BuildResult.pages =
      some ["about".toList, "index".toList] := by decide +kernel
  refine ⟨sound, proper, apart, ?_⟩
  cases done : shadowed.outcome (build .default (.ofLocation [])) with
  | error e =>
      rw [done] at pages
      cases pages
  | ok result =>
      rw [done] at pages
      exact ⟨result, rfl, Option.some.inj pages, puts_out sound proper apart done⟩

def styled : Workspace := .holding [("src", none), ("src/components", none), ("src/pages", none),
  ("src/pages/index.html", "\x1b[0mX")]

def printed? (w : Workspace) (page : Text) : Option Text :=
  match w.outcome (Command.startCompose page none) with
  | .ok (.done report) => if report.exitCode = 0 then some report.output else none
  | _ => none

def PutOutAsPrinted (w : Workspace) (page : Text) : Prop :=
  (w.after (build .default (.ofLocation []))).fileIn? (Settings.default.outputIn (.ofLocation [])) (pageFile page) =
    (printed? w page).map Utf8.encode

instance (w : Workspace) (page : Text) : Decidable (PutOutAsPrinted w page) := inferInstanceAs (Decidable (_ = _))

def AllApart (settings : Settings) (root : Path) (here : Location) : Prop :=
  [settings.componentsIn root, settings.pagesIn root, settings.assetsIn root, settings.outputIn root].Pairwise
    fun p q => Separate (p.resolve here) (q.resolve here)

instance (settings : Settings) (root : Path) (here : Location) : Decidable (AllApart settings root here) :=
  inferInstanceAs (Decidable (List.Pairwise _ _))

/-- An asset takes the place of a page, and what is printed is without control sequences. -/
theorem not_put_out_as_printed :
    AllApart .default (.ofLocation []) [] ∧
    (shadowed.Sound ∧ (shadowed.outcome (build .default (.ofLocation []))).isOk ∧
      printed? shadowed "about".toList = some ['A'] ∧ ¬PutOutAsPrinted shadowed "about".toList) ∧
    (styled.Sound ∧ (styled.outcome (build .default (.ofLocation []))).isOk ∧
      printed? styled "index".toList = some ['X'] ∧ ¬PutOutAsPrinted styled "index".toList) := by
  decide +kernel

end Site
end PageComposer

import PageComposer.Files
import PageComposer.Proofs.Workspace.Run

/-!
# Making directories

Making a directory adds nothing but directories (`furnished_ensureDirectory`). It succeeds if and only if the path
names a directory afterwards (`hasDirectory_of_ensured`), and once it has been refused it will be refused for as long
as nothing is taken away (`not_hasDirectory_of_refused`).
-/

namespace PageComposer

def Entry.content? : Entry → Option (List UInt8)
  | file content _ => some content
  | directory => none

namespace FileTree

def content? (tree : FileTree) (l : Location) : Option (List UInt8) := (tree.find? l).bind Entry.content?

theorem content?_eq_some {tree : FileTree} {l : Location} {content : List UInt8} :
    tree.content? l = some content ↔ ∃ changed, tree.find? l = some (.file content changed) := by
  unfold content?
  cases tree.find? l with
  | none => simp
  | some entry => cases entry <;> simp [Entry.content?]

theorem isSome_content? {tree : FileTree} {l : Location} :
    (tree.content? l).isSome ↔ ∃ content changed, tree.find? l = some (.file content changed) := by
  rw [Option.isSome_iff_exists]
  exact exists_congr fun content => content?_eq_some

theorem content?_put {tree : FileTree} {l m : Location} {e : Entry} (rooted : l ≠ []) :
    (tree.put l e).content? m = if m = l then e.content? else tree.content? m := by
  unfold content?
  by_cases top : m = []
  · subst top
    rw [if_neg (Ne.symm rooted)]
    rfl
  · rw [find?_put _ _ _ _ top]
    split <;> rfl

theorem file_iff_of_found {tree tree' : FileTree} {l : Location} {content : List UInt8} {changed : Int}
    (found : tree'.find? l = tree.find? l ∨ tree.find? l = none ∧ tree'.find? l = some .directory) :
    tree'.find? l = some (.file content changed) ↔ tree.find? l = some (.file content changed) := by
  rcases found with same | ⟨free, made⟩
  · rw [same]
  · simp [free, made]

end FileTree

namespace Workspace

/-- The tree is sound, and the working directory is a directory. -/
structure Sound (w : Workspace) : Prop where
  tree : w.tree.Sound
  here : w.tree.find? w.here = some .directory

instance (w : Workspace) : Decidable w.Sound :=
  decidable_of_iff (w.tree.Sound ∧ w.tree.find? w.here = some .directory)
    ⟨fun ⟨tree, here⟩ => ⟨tree, here⟩, fun sound => ⟨sound.tree, sound.here⟩⟩

theorem Sound.of_sameFiles {w w' : Workspace} (sound : w.Sound) (files : w.SameFiles w') : w'.Sound :=
  ⟨files.tree ▸ sound.tree, by rw [files.tree, files.here]; exact sound.here⟩

theorem Sound.start {w : Workspace} (sound : w.Sound) (p : Path) :
    w.tree.find? (p.start w.here) = some .directory := by
  unfold Path.start
  split
  · exact sound.here
  · exact FileTree.find?_root _

def holding (entries : List (String × Option String)) : Workspace :=
  let entry (e : String × Option String) : Location × Entry :=
    (Path.partsOf e.1.toList, (e.2.map fun text => .file (Utf8.encode text.toList) 0).getD .directory)
  ⟨⟨entries.map entry⟩, [], 1, .info, []⟩

structure Furnished (w w' : Workspace) : Prop where
  here : w'.here = w.here
  found : ∀ l, w'.tree.find? l = w.tree.find? l ∨ w.tree.find? l = none ∧ w'.tree.find? l = some .directory
  sound : w.Sound → w'.Sound

namespace Furnished
variable {w w' : Workspace}

theorem of_sameFiles (files : w.SameFiles w') : w.Furnished w' :=
  ⟨files.here, fun _ => .inl (by rw [files.tree]), fun sound => sound.of_sameFiles files⟩

instance : IsPreorder Workspace Furnished where
  refl _ := .of_sameFiles (refl_of _ _)
  trans := by
    intro a b c h h'
    refine ⟨h'.here.trans h.here, fun l => ?_, fun sound => h'.sound (h.sound sound)⟩
    rcases h.found l with same | ⟨free, made⟩
    · rw [← same]
      exact h'.found l
    · right
      rcases h'.found l with same | ⟨free', -⟩
      · exact ⟨free, same.trans made⟩
      · rw [made] at free'
        cases free'

theorem grows (h : w.Furnished w') : w.tree.Grows w'.tree := by
  intro l k kind
  rcases h.found l with same | ⟨free, -⟩
  · rwa [FileTree.kind?, same]
  · rw [FileTree.kind?_eq_none.2 free] at kind
    cases kind

theorem file_iff (h : w.Furnished w') {l : Location} {content : List UInt8} {changed : Int} :
    w'.tree.find? l = some (.file content changed) ↔ w.tree.find? l = some (.file content changed) :=
  FileTree.file_iff_of_found (h.found l)

theorem content (h : w.Furnished w') (l : Location) : w'.tree.content? l = w.tree.content? l := by
  unfold FileTree.content?
  rcases h.found l with same | ⟨free, made⟩
  · rw [same]
  · rw [free, made]
    rfl

end Furnished

def put (w : Workspace) (l : Location) (e : Entry) : Workspace := { w with tree := w.tree.put l e }

@[simp] theorem tree_put (w : Workspace) (l : Location) (e : Entry) : (w.put l e).tree = w.tree.put l e := rfl

@[simp] theorem here_put (w : Workspace) (l : Location) (e : Entry) : (w.put l e).here = w.here := rfl

end Workspace

theorem Keeps.furnished {ε α : Type} {x : EStateM ε Workspace α} (h : Keeps Workspace.SameFiles x) :
    Keeps Workspace.Furnished x :=
  fun w => .of_sameFiles (h w)

namespace Storage
open FileTree Workspace
variable {w : Workspace} {p : Path} {l : Location} {part : Text} {e : Refusal}

theorem makeDirectory_cases (w : Workspace) (p : Path) :
    (∃ l, w.tree.locate w.here p = .ok l ∧ w.tree.find? l = none ∧
      w.outcome (makeDirectory p) = .ok () ∧ w.after (makeDirectory p) = w.put l .directory) ∨
    (∃ l entry, w.tree.locate w.here p = .ok l ∧ w.tree.find? l = some entry ∧
      w.outcome (makeDirectory p) = .error (.system .alreadyExists) ∧ w.after (makeDirectory p) = w) ∨
    ∃ e, w.tree.locate w.here p = .error e ∧ w.outcome (makeDirectory p) = .error e ∧
      w.after (makeDirectory p) = w := by
  unfold makeDirectory locate
  rw [outcome_bind, after_bind]
  simp only [outcome_query, after_query]
  cases located : w.tree.locate w.here p with
  | error e => exact .inr (.inr ⟨e, rfl, rfl, rfl⟩)
  | ok l =>
      dsimp only
      rw [outcome_bind, after_bind]
      simp only [outcome_get, after_get]
      cases found : w.tree.find? l with
      | none => exact .inl ⟨l, rfl, found, rfl, rfl⟩
      | some entry => exact .inr (.inl ⟨l, entry, rfl, found, rfl, rfl⟩)

theorem outcome_isDirectory : w.outcome (isDirectory p) = (w.tree.probe w.here p).map fun e =>
    e.any Entry.isDirectory := by
  unfold isDirectory probe
  rw [outcome_bind]
  simp only [outcome_query, after_query]
  cases w.tree.probe w.here p <;> rfl

theorem isDirectory_iff : w.outcome (isDirectory p) = .ok true ↔ w.tree.HasDirectory w.here p := by
  rw [outcome_isDirectory, ← probe_eq_directory]
  cases w.tree.probe w.here p with
  | error e => simp [Except.map]
  | ok found =>
      cases found with
      | none => simp [Except.map]
      | some entry => cases entry <;> simp [Except.map, Entry.isDirectory]

@[simp] theorem after_isDirectory : w.after (isDirectory p) = w := by
  unfold isDirectory probe
  rw [after_bind]
  simp only [outcome_query, after_query]
  cases w.tree.probe w.here p <;> rfl

@[simp] theorem after_unlessDirectory : w.after (unlessDirectory p e) = w := by
  unfold unlessDirectory
  rw [after_bind, after_isDirectory]
  split
  · split <;> rfl
  · rfl

theorem unlessDirectory_iff : w.outcome (unlessDirectory p e) = .ok () ↔ w.tree.HasDirectory w.here p := by
  unfold unlessDirectory
  rw [outcome_bind_eq_ok, after_isDirectory, ← isDirectory_iff]
  constructor
  · rintro ⟨isDirectory, asked, h⟩
    cases isDirectory with
    | false => cases h
    | true => exact asked
  · exact fun asked => ⟨true, asked, rfl⟩

theorem found_put_directory (free : w.tree.find? l = none) (m : Location) :
    (w.put l .directory).tree.find? m = w.tree.find? m ∨
      m = l ∧ w.tree.find? m = none ∧ (w.put l .directory).tree.find? m = some .directory := by
  by_cases top : m = []
  · subst top
    exact .inl rfl
  · rw [tree_put, find?_put _ _ _ _ top]
    split
    · rename_i same
      exact .inr ⟨same, same ▸ free, rfl⟩
    · exact .inl rfl

theorem Proper.furnished_put (proper : p.Proper) (located : w.tree.locate w.here p = .ok l)
    (free : w.tree.find? l = none) : w.Furnished (w.put l .directory) := by
  refine ⟨rfl, fun m => (found_put_directory free m).imp_right And.right, fun sound => ?_⟩
  obtain ⟨noNull, -, walked⟩ := locate_eq_ok.1 located
  rcases parent_of_walk sound.tree (sound.start p) walked with found | ⟨above, part, rfl, parent, member, notUp⟩
  · rw [free] at found
    cases found
  · have named : IsName part :=
      (proper part member fun null => noNull (Path.mem_toText member null)).resolve_left notUp
    refine ⟨sound.tree.put parent named (.inr rfl), ?_⟩
    exact (grows_put_free free).directories _ sound.here

theorem keeps_makeDirectory {R : Workspace → Workspace → Prop} [IsPreorder Workspace R]
    (put : ∀ w l, w.tree.locate w.here p = .ok l → w.tree.find? l = none → R w (w.put l .directory)) :
    Keeps R (makeDirectory p) := by
  intro w
  rcases makeDirectory_cases w p with ⟨l, located, free, -, run⟩ | ⟨_, _, -, -, -, run⟩ | ⟨_, -, -, run⟩
  · rw [run]
    exact put w l located free
  · rw [run]
    exact refl_of R w
  · rw [run]
    exact refl_of R w

theorem furnished_makeDirectory (proper : p.Proper) : Keeps Furnished (makeDirectory p) :=
  keeps_makeDirectory fun _ _ => Proper.furnished_put proper

theorem hasDirectory_of_made (made : w.outcome (makeDirectory p) = .ok ()) :
    (w.after (makeDirectory p)).tree.HasDirectory w.here p := by
  rcases makeDirectory_cases w p with ⟨l, located, free, -, run⟩ | ⟨_, _, -, -, refused, -⟩ | ⟨_, -, refused, -⟩
  · rw [run]
    refine hasDirectory_of ((grows_put_free free).directories.locate_ok located) ?_
    rw [tree_put, find?_put _ _ _ _ (ne_root_of_free free), if_pos rfl]
  · rw [refused] at made
    cases made
  · rw [refused] at made
    cases made

theorem not_hasDirectory_of_unmade (refused : w.outcome (makeDirectory p) = .error e)
    (notMissing : e ≠ .system .noSuchFile)
    (absent : ¬w.tree.HasDirectory w.here p) {tree : FileTree} (grows : w.tree.Grows tree) :
    ¬tree.HasDirectory w.here p := by
  intro present
  rcases makeDirectory_cases w p with ⟨_, -, -, made, -⟩ | ⟨l, entry, located, found, -, -⟩ | ⟨e', located, refused', -⟩
  · rw [made] at refused
    cases refused
  · obtain rfl := resolve_of_locate located
    cases entry with
    | directory => exact absent ⟨located, found⟩
    | file content changed =>
        have kind := grows _ false (kind?_eq_false.2 ⟨content, changed, found⟩)
        rw [kind?_eq_true.2 present.found] at kind
        cases kind
  · rw [refused'] at refused
    cases refused
    have still := grows.locate_error located notMissing
    rw [present.located] at still
    cases still

variable {anchor name : Text} {above : List Text}

theorem keeps_unlessDirectory {R : Workspace → Workspace → Prop} [IsPreorder Workspace R] (p : Path) (e : Refusal) :
    Keeps R (unlessDirectory p e) := by
  intro w
  rw [after_unlessDirectory]
  exact refl_of R w

theorem keeps_makeDirectories {R : Workspace → Workspace → Prop} [IsPreorder Workspace R] {names : List Text}
    (made : ∀ parts, parts <+: names.reverse → Keeps R (makeDirectory ⟨anchor, parts⟩)) :
    Keeps R (makeDirectories anchor names) := by
  induction names with
  | nil => exact .tryCatch (made [] List.nil_prefix) (keeps_unlessDirectory _)
  | cons name above ih =>
      have here := made _ (List.prefix_refl _)
      have parents : Keeps R (makeDirectories anchor above) := by
        refine ih fun parts start => made parts (start.trans ?_)
        rw [List.reverse_cons]
        exact List.prefix_append _ _
      refine .tryCatch here fun e => ?_
      split
      · exact .bind parents fun _ => .tryCatch here (keeps_unlessDirectory _)
      · exact keeps_unlessDirectory _ e

theorem furnished_makeDirectories (anchor : Text) {names : List Text}
    (proper : ∀ part ∈ names, '\x00' ∉ part → part = ['.', '.'] ∨ IsName part) :
      Keeps Furnished (makeDirectories anchor names) :=
  keeps_makeDirectories fun _ start => furnished_makeDirectory fun part member =>
    proper part (List.mem_reverse.1 (start.subset member))

theorem after_makeDirectory_of_error (refused : w.outcome (makeDirectory p) = .error e) :
    w.after (makeDirectory p) = w := by
  rcases makeDirectory_cases w p with ⟨_, -, -, made, -⟩ | ⟨_, _, -, -, -, run⟩ | ⟨_, -, -, run⟩
  · rw [made] at refused
    cases refused
  · exact run
  · exact run

theorem tryMake_cases (w : Workspace) (p : Path) (handle : Refusal → Storage Unit) :
    (w.outcome (makeDirectory p) = .ok () ∧ w.outcome (tryCatch (makeDirectory p) handle) = .ok () ∧
      w.after (tryCatch (makeDirectory p) handle) = w.after (makeDirectory p)) ∨
    ∃ e, w.outcome (makeDirectory p) = .error e ∧
      w.outcome (tryCatch (makeDirectory p) handle) = w.outcome (handle e) ∧
      w.after (tryCatch (makeDirectory p) handle) = w.after (handle e) := by
  rw [outcome_tryCatch, after_tryCatch]
  cases made : w.outcome (makeDirectory p) with
  | ok u => exact .inl ⟨rfl, rfl, rfl⟩
  | error e =>
      refine .inr ⟨e, rfl, ?_, ?_⟩
      · dsimp only
        rw [after_makeDirectory_of_error made]
      · dsimp only
        rw [after_makeDirectory_of_error made]

theorem hasDirectory_of_tryMake (done : w.outcome (tryCatch (makeDirectory p) (unlessDirectory p)) = .ok ()) :
    (w.after (tryCatch (makeDirectory p) (unlessDirectory p))).tree.HasDirectory w.here p := by
  rcases tryMake_cases w p (unlessDirectory p) with ⟨made, -, run⟩ | ⟨e, -, handled, run⟩
  · rw [run]
    exact hasDirectory_of_made made
  · rw [run, after_unlessDirectory]
    rw [handled] at done
    exact unlessDirectory_iff.1 done

theorem not_hasDirectory_of_tryMake (refused : w.outcome (tryCatch (makeDirectory p) (unlessDirectory p)) = .error e)
    (notMissing : w.outcome (makeDirectory p) ≠ .error (.system .noSuchFile)) {tree : FileTree}
    (grows : (w.after (tryCatch (makeDirectory p) (unlessDirectory p))).tree.Grows tree) :
    ¬tree.HasDirectory w.here p := by
  rcases tryMake_cases w p (unlessDirectory p) with ⟨-, done, -⟩ | ⟨e', unmade, handled, run⟩
  · rw [done] at refused
    cases refused
  · rw [run, after_unlessDirectory] at grows
    refine not_hasDirectory_of_unmade unmade (fun missing => notMissing (missing ▸ unmade)) (fun present => ?_) grows
    rw [handled, unlessDirectory_iff.2 present] at refused
    cases refused

theorem hasDirectory_of_makeDirectories {names : List Text}
    (proper : ∀ part ∈ names, '\x00' ∉ part → part = ['.', '.'] ∨ IsName part)
    (done : w.outcome (makeDirectories anchor names) = .ok ()) :
    (w.after (makeDirectories anchor names)).tree.HasDirectory w.here ⟨anchor, names.reverse⟩ := by
  cases names with
  | nil => exact hasDirectory_of_tryMake done
  | cons name above =>
      have furnished :=
        furnished_makeDirectories anchor (fun part member => proper part (List.mem_cons_of_mem name member)) w
      unfold makeDirectories at done ⊢
      rcases tryMake_cases w ⟨anchor, (name :: above).reverse⟩ _ with ⟨made, -, run⟩ | ⟨e, -, handled, run⟩
      · rw [run]
        exact hasDirectory_of_made made
      · rw [run]
        rw [handled] at done
        split at done
        · rename_i missing
          rw [if_pos missing]
          obtain ⟨u, first, later⟩ := outcome_bind_eq_ok.1 done
          rw [after_bind_of_ok first]
          exact furnished.here ▸ hasDirectory_of_tryMake later
        · rename_i other
          rw [if_neg other, after_unlessDirectory]
          exact unlessDirectory_iff.1 done

theorem makeDirectories_of_hasDirectory {names : List Text}
    (present : w.tree.HasDirectory w.here ⟨anchor, names.reverse⟩) :
    w.outcome (makeDirectories anchor names) = .ok () ∧ w.after (makeDirectories anchor names) = w := by
  have settled (e : Refusal) : w.outcome (unlessDirectory ⟨anchor, names.reverse⟩ e) = .ok () ∧
      w.after (unlessDirectory ⟨anchor, names.reverse⟩ e) = w :=
    ⟨unlessDirectory_iff.2 present, after_unlessDirectory⟩
  have taken : w.outcome (makeDirectory ⟨anchor, names.reverse⟩) = .error (.system .alreadyExists) := by
    rcases makeDirectory_cases w ⟨anchor, names.reverse⟩ with
      ⟨l, located, free, -, -⟩ | ⟨_, _, -, -, taken, -⟩ | ⟨e, located, -, -⟩
    · rw [present.located] at located
      cases located
      rw [present.found] at free
      cases free
    · exact taken
    · rw [present.located] at located
      cases located
  cases names with
  | nil =>
      rcases tryMake_cases w ⟨anchor, []⟩ (unlessDirectory ⟨anchor, []⟩) with ⟨made, -, -⟩ | ⟨e, -, handled, run⟩
      · exact absurd (made.symm.trans taken) (by simp)
      · exact ⟨handled.trans (settled e).1, run.trans (settled e).2⟩
  | cons name above =>
      unfold makeDirectories
      rcases tryMake_cases w ⟨anchor, (name :: above).reverse⟩ _ with ⟨made, -, -⟩ | ⟨e, refused, handled, run⟩
      · exact absurd (made.symm.trans taken) (by simp)
      · rw [taken] at refused
        cases refused
        exact ⟨handled.trans (settled _).1, run.trans (settled _).2⟩

theorem not_missing_below (present : w.tree.HasDirectory w.here p) :
    w.outcome (makeDirectory (p.child part)) ≠ .error (.system .noSuchFile) := by
  intro missing
  rcases makeDirectory_cases w (p.child part) with
    ⟨_, -, -, made, -⟩ | ⟨_, _, -, -, taken, -⟩ | ⟨e, located, refused, -⟩
  · rw [made] at missing
    cases missing
  · rw [taken] at missing
    cases missing
  · rw [refused] at missing
    cases missing
    exact locate_child_error present located rfl

theorem not_hasDirectory_of_makeDirectories {names : List Text}
    (proper : ∀ part ∈ names, '\x00' ∉ part → part = ['.', '.'] ∨ IsName part)
    (refused : w.outcome (makeDirectories anchor names) = .error e) {tree : FileTree}
    (grows : (w.after (makeDirectories anchor names)).tree.Grows tree) :
    ¬tree.HasDirectory w.here ⟨anchor, names.reverse⟩ := by
  induction names generalizing e with
  | nil =>
      refine not_hasDirectory_of_tryMake refused (fun missing => ?_) grows
      rcases makeDirectory_cases w ⟨anchor, []⟩ with
        ⟨_, -, -, made, -⟩ | ⟨_, _, -, -, taken, -⟩ | ⟨e', located, refused', -⟩
      · rw [made] at missing
        cases missing
      · rw [taken] at missing
        cases missing
      · -- a path without names leads to where it starts
        rw [refused'] at missing
        cases missing
        unfold FileTree.locate at located
        split at located
        · cases located
        · split at located
          · cases located
          · cases located
  | cons name above ih =>
      have properAbove : ∀ part ∈ above, '\x00' ∉ part → part = ['.', '.'] ∨ IsName part :=
        fun part member => proper part (List.mem_cons_of_mem _ member)
      have asChild : (⟨anchor, (name :: above).reverse⟩ : Path) = (⟨anchor, above.reverse⟩ : Path).child name := by
        simp [Path.child]
      unfold makeDirectories at refused grows
      rcases tryMake_cases w ⟨anchor, (name :: above).reverse⟩ _ with ⟨-, done, -⟩ | ⟨e', unmade, handled, run⟩
      · rw [done] at refused
        cases refused
      · rw [handled] at refused
        rw [run] at grows
        split at refused
        · rename_i missing
          rw [if_pos missing] at grows
          rcases outcome_bind_eq_error.1 refused with first | ⟨u, first, later⟩
          · rw [after_bind_of_error first] at grows
            rw [asChild]
            exact fun present => ih properAbove first grows present.parent
          · rw [after_bind_of_ok first] at grows
            have here := (furnished_makeDirectories anchor properAbove w).here
            have parent := hasDirectory_of_makeDirectories properAbove first
            rw [← here] at parent ⊢
            rw [asChild] at later grows ⊢
            exact not_hasDirectory_of_tryMake later (not_missing_below parent) grows
        · rename_i other
          rw [if_neg other, after_unlessDirectory] at grows
          refine not_hasDirectory_of_unmade unmade other (fun present => ?_) grows
          rw [unlessDirectory_iff.2 present] at refused
          cases refused

theorem determined_makeDirectory (p : Path) : Determined (makeDirectory p) where
  outcome w w' files := by
    unfold makeDirectory locate
    rw [outcome_bind, outcome_bind]
    simp only [outcome_query, after_query, files.tree, files.here]
    cases w.tree.locate w.here p with
    | error e => rfl
    | ok l =>
        dsimp only
        rw [outcome_bind, outcome_bind]
        simp only [outcome_get, after_get, files.tree]
        cases w.tree.find? l <;> rfl
  after w w' files := by
    unfold makeDirectory locate
    rw [after_bind, after_bind]
    simp only [outcome_query, after_query, files.tree, files.here]
    cases w.tree.locate w.here p with
    | error e => exact files
    | ok l =>
        dsimp only
        rw [after_bind, after_bind]
        simp only [outcome_get, after_get, files.tree]
        cases w.tree.find? l with
        | none => exact ⟨congrArg (FileTree.put · l .directory) files.tree, files.here⟩
        | some entry => exact files

theorem determined_unlessDirectory (p : Path) (e : Refusal) : Determined (unlessDirectory p e) :=
  .of_reads (.bind (.bind (.query _) fun _ => .pure _) fun _ => .ite (.pure _) (.throw _))

theorem determined_makeDirectories (anchor : Text) (names : List Text) : Determined (makeDirectories anchor names) := by
  induction names with
  | nil => exact .tryCatch (determined_makeDirectory _) (determined_unlessDirectory _)
  | cons name above ih =>
      refine .tryCatch (determined_makeDirectory _) fun e => ?_
      split
      · exact .bind ih fun _ => .tryCatch (determined_makeDirectory _) (determined_unlessDirectory _)
      · exact determined_unlessDirectory _ e

theorem ensureDirectory_child (present : w.tree.HasDirectory w.here p) (part : Text) :
    w.after (ensureDirectory (p.child part)) = w ∨
      ∃ l, w.tree.locate w.here (p.child part) = .ok l ∧ w.tree.find? l = none ∧
        w.after (ensureDirectory (p.child part)) = w.put l .directory := by
  have asCons : (p.child part).parts.reverse = part :: p.parts.reverse := by simp [Path.child]
  have back : (⟨p.anchor, (part :: p.parts.reverse).reverse⟩ : Path) = p.child part := by simp [Path.child]
  unfold ensureDirectory
  rw [asCons]
  unfold makeDirectories
  rw [show (p.child part).anchor = p.anchor from rfl, back]
  rcases tryMake_cases w (p.child part) _ with ⟨made, -, run⟩ | ⟨e, refused, -, run⟩
  · rw [run]
    rcases makeDirectory_cases w (p.child part) with
      ⟨l, located, free, -, run⟩ | ⟨_, _, -, -, taken, -⟩ | ⟨e, -, refused, -⟩
    · exact .inr ⟨l, located, free, run⟩
    · rw [taken] at made
      cases made
    · rw [refused] at made
      cases made
  · left
    have notMissing : e ≠ .system .noSuchFile := fun missing => not_missing_below present (missing ▸ refused)
    rw [run, if_neg notMissing, after_unlessDirectory]

end Storage

namespace Files
open Workspace
variable {w : Workspace} {p : Path}

theorem furnished_ensureDirectory (proper : p.Proper) : Keeps Furnished (ensureDirectory p) :=
  .storage (Storage.furnished_makeDirectories p.anchor fun part member => proper part (List.mem_reverse.1 member))

theorem determined_ensureDirectory (p : Path) : Determined (ensureDirectory p) :=
  .storage (Storage.determined_makeDirectories _ _)

theorem hasDirectory_of_ensured (proper : p.Proper) (done : w.outcome (ensureDirectory p) = .ok ()) :
    (w.after (ensureDirectory p)).tree.HasDirectory w.here p := by
  have made := Storage.hasDirectory_of_makeDirectories (fun part member => proper part (List.mem_reverse.1 member))
    (outcome_storage_eq_ok.1 done)
  rw [List.reverse_reverse] at made
  rw [ensureDirectory, after_storage]
  exact made

theorem ensureDirectory_of_hasDirectory (present : w.tree.HasDirectory w.here p) :
    w.outcome (ensureDirectory p) = .ok () ∧ w.after (ensureDirectory p) = w := by
  have back : w.tree.HasDirectory w.here ⟨p.anchor, p.parts.reverse.reverse⟩ := by rwa [List.reverse_reverse]
  have settled := Storage.makeDirectories_of_hasDirectory back
  exact ⟨outcome_storage_eq_ok.2 settled.1, by rw [ensureDirectory, after_storage]; exact settled.2⟩

theorem not_hasDirectory_of_refused (proper : p.Proper) {e : Failure}
    (refused : w.outcome (ensureDirectory p) = .error e)
    {tree : FileTree} (grows : (w.after (ensureDirectory p)).tree.Grows tree) : ¬tree.HasDirectory w.here p := by
  obtain ⟨refusal, refused, -⟩ := outcome_storage_eq_error.1 refused
  rw [ensureDirectory, after_storage] at grows
  have absent :=
    Storage.not_hasDirectory_of_makeDirectories (fun part member => proper part (List.mem_reverse.1 member))
    refused grows
  rwa [List.reverse_reverse] at absent

end Files
end PageComposer

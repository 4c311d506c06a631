import PageComposer.Proofs.Loading

/-!
# Searches

A search for templates asks each entry of a directory whether it is a directory, and goes into those that are. It
succeeds where there is a directory, no path of what lies in it is too long, and no directory in it lies too deep
(`templates_iff`); what it fails with is not the failure of a file (`failsOnly_templates`).
-/

namespace PageComposer

open FileTree Workspace

def Failure.ofTemplate : Failure → Bool
  | .fault (.invalidName _) | .fault (.file .read ..) => true
  | _ => false

namespace Loading
variable {w : Workspace} {p entry : Path} {recursive : Bool} {room : Nat} {paths entries : List Path} {e : Failure}
  {deeper : Path → Action (List Path)}

theorem of_atEntry_ok (deeperReads : ∀ q, Reads (deeper q))
    (done : w.outcome (templates.atEntry recursive deeper entry) = .ok paths) :
    ∃ answer, w.outcome (Action.isDirectory entry) = .ok answer ∧
      (answer = true → recursive = true → w.outcome (deeper entry) = .ok paths) := by
  obtain ⟨answer, asked, done⟩ :=
    ((Reads.isDirectory _).outcome_bind_eq_ok fun _ => .ite (.ite (deeperReads _) (.pure _)) (.pure _)).1 done
  refine ⟨answer, asked, ?_⟩
  rintro rfl rfl
  exact done

theorem atEntry_error (deeperReads : ∀ q, Reads (deeper q))
    (refused : w.outcome (templates.atEntry recursive deeper entry) = .error e) :
    w.outcome (Action.isDirectory entry) = .error e ∨
      recursive = true ∧ w.outcome (Action.isDirectory entry) = .ok true ∧ w.outcome (deeper entry) = .error e := by
  unfold templates.atEntry at refused
  rw [(Reads.isDirectory entry).outcome_bind fun _ => .ite (.ite (deeperReads _) (.pure _)) (.pure _)] at refused
  cases asked : w.outcome (Action.isDirectory entry) with
  | error e' =>
      rw [asked] at refused
      cases refused
      exact .inl rfl
  | ok answer =>
      rw [asked] at refused
      cases answer <;> cases recursive
      · cases refused
      · cases refused
      · cases refused
      · exact .inr ⟨rfl, rfl, refused⟩

theorem atEntry_of_inEntries_ok (deeperReads : ∀ q, Reads (deeper q))
    (done : w.outcome (templates.inEntries recursive deeper entries) = .ok paths) :
    ∀ entry ∈ entries, ∃ found, w.outcome (templates.atEntry recursive deeper entry) = .ok found := by
  induction entries generalizing paths with
  | nil => exact fun _ member => absurd member List.not_mem_nil
  | cons entry rest ih =>
      have laterReads := reads_inEntries recursive deeperReads rest
      obtain ⟨first, foundFirst, done⟩ :=
        ((reads_atEntry deeperReads entry).outcome_bind_eq_ok fun _ => .bind laterReads fun _ => .pure _).1 done
      obtain ⟨later, foundLater, -⟩ := (laterReads.outcome_bind_eq_ok fun _ => .pure _).1 done
      exact List.forall_mem_cons.2 ⟨⟨first, foundFirst⟩, ih foundLater⟩

theorem inEntries_error (deeperReads : ∀ q, Reads (deeper q))
    (refused : w.outcome (templates.inEntries recursive deeper entries) = .error e) :
    ∃ entry ∈ entries, w.outcome (templates.atEntry recursive deeper entry) = .error e := by
  induction entries with
  | nil => cases refused
  | cons entry rest ih =>
      have laterReads := reads_inEntries recursive deeperReads rest
      unfold templates.inEntries at refused
      rw [(reads_atEntry deeperReads entry).outcome_bind fun _ => .bind laterReads fun _ => .pure _] at refused
      cases first : w.outcome (templates.atEntry recursive deeper entry) with
      | error e' =>
          rw [first] at refused
          exact ⟨entry, List.mem_cons_self, first.trans refused⟩
      | ok found =>
          rw [first] at refused
          dsimp only at refused
          rw [laterReads.outcome_bind fun _ => .pure _] at refused
          cases later : w.outcome (templates.inEntries recursive deeper rest) with
          | error e' =>
              rw [later] at refused
              obtain ⟨entry, member, refused⟩ := ih (later.trans refused)
              exact ⟨entry, List.mem_cons_of_mem _ member, refused⟩
          | ok _ =>
              rw [later] at refused
              cases refused

theorem of_templates_succ_ok (done : w.outcome (templates recursive (room + 1) p) = .ok paths) :
    w.tree.HasDirectory w.here p ∧ ∀ name ∈ w.tree.names (p.resolve w.here),
      ∃ found, w.outcome (templates.atEntry recursive (templates recursive room) (p.child name)) = .ok found := by
  have deeperReads := reads_templates recursive room
  obtain ⟨entries, listed, done⟩ :=
    ((reads_list p).outcome_bind_eq_ok fun _ => reads_inEntries recursive deeperReads _).1 done
  obtain ⟨present, rfl⟩ := Files.list_iff.1 listed
  exact ⟨present, fun name member => atEntry_of_inEntries_ok deeperReads done _ (List.mem_map_of_mem member)⟩

theorem templates_succ_error (present : w.tree.HasDirectory w.here p)
    (refused : w.outcome (templates recursive (room + 1) p) = .error e) : ∃ name ∈ w.tree.names (p.resolve w.here),
      w.outcome (templates.atEntry recursive (templates recursive room) (p.child name)) = .error e := by
  have deeperReads := reads_templates recursive room
  unfold templates at refused
  rw [(reads_list p).outcome_bind fun _ =>
    reads_inEntries recursive deeperReads _, Files.list_iff.2 ⟨present, rfl⟩] at refused
  obtain ⟨entry, member, refused⟩ := inEntries_error deeperReads refused
  obtain ⟨name, there, rfl⟩ := List.mem_map.1 member
  exact ⟨name, there, refused⟩

theorem keeps_templates {R : Workspace → Workspace → Prop} [IsPreorder Workspace R] (recursive : Bool) (room : Nat)
    (p : Path) : Keeps R (templates recursive room p) := by
  induction room generalizing p with
  | zero => exact .throw _
  | succ room ih =>
      refine .bind (.bind (.storage (.readDirectory p)) fun _ => .pure _) fun entries => ?_
      induction entries with
      | nil => exact .pure _
      | cons entry rest later =>
          refine .bind (.bind (.isDirectory entry) fun answer => ?_) fun _ => .bind later fun _ => .pure _
          cases answer <;> cases recursive
          · exact .pure _
          · exact .pure _
          · exact .pure _
          · exact ih entry

/-- There is a directory, no path of what lies in it is too long, and no directory in it lies too deep. -/
structure Searchable (w : Workspace) (room : Nat) (p : Path) : Prop where
  present : w.tree.HasDirectory w.here p
  short : ∀ names, names ≠ [] → (w.tree.find? (p.resolve w.here ++ names)).isSome →
    w.tree.locate w.here (p.below names) ≠ .error (.system .nameTooLong)
  shallow : ∀ names, w.tree.find? (p.resolve w.here ++ names) = some .directory → names.length < room

theorem Searchable.of_sameFiles {w' : Workspace} (searchable : Searchable w room p) (files : w.SameFiles w') :
    Searchable w' room p := by
  obtain ⟨present, short, shallow⟩ := searchable
  rw [← files.tree, ← files.here] at present short shallow
  exact ⟨present, short, shallow⟩

theorem Searchable.of_children (sound : w.Sound) (present : w.tree.HasDirectory w.here p)
    (short : ∀ name, (w.tree.find? (p.resolve w.here ++ [name])).isSome →
      w.tree.locate w.here (p.child name) ≠ .error (.system .nameTooLong))
    (deeper : ∀ name, w.tree.find? (p.resolve w.here ++ [name]) = some .directory → Searchable w room (p.child name)) :
    Searchable w (room + 1) p := by
  -- what lies deeper lies in one of the directories, which can be searched
  have inner {name : Text} {rest : List Text} {entry : Entry} (nonempty : rest ≠ [])
      (there : w.tree.find? (p.resolve w.here ++ name :: rest) = some entry) : Searchable w room (p.child name) := by
    refine deeper name (sound.tree.directory_of_below nonempty (e := entry) ?_)
    simpa using there
  refine ⟨present, fun names nonempty there => ?_, fun names directory => ?_⟩
  · obtain ⟨name, rest, rfl⟩ := List.exists_cons_of_ne_nil nonempty
    by_cases last : rest = []
    · subst last
      exact short name there
    · obtain ⟨entry, found⟩ := Option.isSome_iff_exists.1 there
      have named : IsName name := sound.tree.name found (by simp)
      rw [← Path.child_below]
      refine (inner last found).short rest last ?_
      rwa [Path.resolve_child_append named.notUp]
  · cases names with
    | nil => exact Nat.succ_pos room
    | cons name rest =>
        have named : IsName name := sound.tree.name directory (by simp)
        have searchable : Searchable w room (p.child name) := by
          by_cases last : rest = []
          · subst last
            exact deeper name directory
          · exact inner last directory
        rw [← Path.resolve_child_append named.notUp] at directory
        exact Nat.succ_lt_succ (searchable.shallow rest directory)

theorem Searchable.child (searchable : Searchable w (room + 1) p) {name : Text} (named : IsName name)
    (present : w.tree.HasDirectory w.here (p.child name)) : Searchable w room (p.child name) := by
  refine ⟨present, fun names nonempty there => ?_, fun names directory => ?_⟩
  · rw [Path.child_below]
    exact searchable.short _ (by simp) (by rwa [← Path.resolve_child_append named.notUp])
  · rw [Path.resolve_child_append named.notUp] at directory
    exact Nat.lt_of_succ_lt_succ (searchable.shallow _ directory)

theorem searchable_succ_iff (sound : w.Sound) : Searchable w (room + 1) p ↔ w.tree.HasDirectory w.here p ∧
    ∀ q ∈ (w.tree.names (p.resolve w.here)).map p.child, w.tree.locate w.here q ≠ .error (.system .nameTooLong) ∧
      (w.tree.find? (q.resolve w.here) = some .directory → Searchable w room q) := by
  have named {name : Text} (there : name ∈ w.tree.names (p.resolve w.here)) : IsName name :=
    isName_of_mem_names sound.tree there
  constructor
  · intro searchable
    refine ⟨searchable.present, fun q member => ?_⟩
    obtain ⟨name, there, rfl⟩ := List.mem_map.1 member
    have short := searchable.short [name] (by simp) ((mem_names sound.tree).1 there)
    refine ⟨short, fun directory => searchable.child (named there) (hasDirectory_of ?_ directory)⟩
    rw [Path.resolve_child (named there).notUp]
    exact (locate_child_cases searchable.present (named there)).resolve_right short
  · rintro ⟨present, each⟩
    refine .of_children sound present (fun name there => ?_) fun name directory => ?_
    · exact (each _ (List.mem_map_of_mem ((mem_names sound.tree).2 there))).1
    · have there : name ∈ w.tree.names (p.resolve w.here) := (mem_names sound.tree).2 (by rw [directory]; rfl)
      refine (each _ (List.mem_map_of_mem there)).2 ?_
      rwa [Path.resolve_child (named there).notUp]

theorem searchable_of_ok (sound : w.Sound) (done : w.outcome (templates true room p) = .ok paths) :
    Searchable w room p := by
  -- By induction on the depth that is left: the search has asked for every entry, and got through every directory.
  induction room generalizing p paths with
  | zero => cases done
  | succ room ih =>
      obtain ⟨present, each⟩ := of_templates_succ_ok done
      have asked {name : Text} (there : (w.tree.find? (p.resolve w.here ++ [name])).isSome) :
          IsName name ∧ ∃ found answer, w.outcome (Action.isDirectory (p.child name)) = .ok answer ∧
            (answer = true → w.outcome (templates true room (p.child name)) = .ok found) := by
        have member := (mem_names sound.tree).2 there
        obtain ⟨found, done⟩ := each name member
        obtain ⟨answer, asked, goesOn⟩ := of_atEntry_ok (reads_templates true room) done
        exact ⟨isName_of_mem_names sound.tree member, found, answer, asked, fun yes => goesOn yes rfl⟩
      refine .of_children sound present (fun name there => ?_) fun name directory => ?_
      · obtain ⟨named, -, answer, asked, -⟩ := asked there
        rw [(Files.isDirectory_child present named asked).1]
        simp
      · obtain ⟨named, found, answer, asked, goesOn⟩ := asked (by rw [directory]; rfl)
        exact ih (goesOn ((Files.isDirectory_child present named asked).2.2 directory))

theorem not_searchable_of_error (sound : w.Sound) (refused : w.outcome (templates true room p) = .error e) :
    ¬Searchable w room p := by
  intro searchable
  induction room generalizing p with
  | zero => exact absurd (searchable.shallow [] (by simpa using searchable.present.found)) (by simp)
  | succ room ih =>
      obtain ⟨name, member, refused⟩ := templates_succ_error searchable.present refused
      rcases atEntry_error (reads_templates true room) refused with refused | ⟨-, asked, refused⟩
      · exact searchable.short [name] (by simp) ((mem_names sound.tree).1 member) (Files.isDirectory_refused refused).1
      · exact ih refused (searchable.child (isName_of_mem_names sound.tree member) (Files.isDirectory_iff.1 asked))

theorem templates_iff (sound : w.Sound) : (∃ paths, w.outcome (templates true room p) = .ok paths) ↔
    Searchable w room p := by
  constructor
  · rintro ⟨paths, done⟩
    exact searchable_of_ok sound done
  · intro searchable
    cases done : w.outcome (templates true room p) with
    | error e => exact absurd searchable (not_searchable_of_error sound done)
    | ok paths => exact ⟨paths, rfl⟩

theorem failsOnly_inEntries {P : Failure → Prop} (deeperReads : ∀ q, Reads (deeper q))
    (asking : ∀ q, FailsOnly P w (Action.isDirectory q))
    (deeperFails : ∀ q, FailsOnly P w (deeper q)) (entries : List Path) :
    FailsOnly P w (templates.inEntries recursive deeper entries) := by
  intro e refused
  obtain ⟨entry, -, refused⟩ := inEntries_error deeperReads refused
  rcases atEntry_error deeperReads refused with refused | ⟨-, -, refused⟩
  · exact asking entry e refused
  · exact deeperFails entry e refused

theorem failsOnly_templates (recursive : Bool) (room : Nat) (w : Workspace) (p : Path) :
    FailsOnly (·.ofTemplate = false) w (templates recursive room p) := by
  induction room generalizing w p with
  | zero => exact .throw rfl
  | succ room ih =>
      refine .bind (.bind (.storage fun r => ?_) fun _ _ => .pure _) fun entries _ => ?_
      · cases r <;> rfl
      · refine failsOnly_inEntries (reads_templates recursive room) (fun q => .storage fun r => ?_) (ih _) entries
        cases r <;> rfl

end Loading
end PageComposer

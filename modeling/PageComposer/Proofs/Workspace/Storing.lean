import PageComposer.Proofs.Workspace.Directories

/-!
# Storing files

A file is written at one location or not at all: `writeText_cases`, `copy_cases`. Where a path accepts a file
depends only on the kinds of the entries (`Accepts.congr`), and the place stays the same while the tree grows
(`Accepts.mono`).
-/

namespace PageComposer

namespace FileTree
variable {tree tree' : FileTree} {l here : Location} {p source target : Path} {content : List UInt8} {changed : Int}

structure Accepts (tree : FileTree) (here : Location) (p : Path) (l : Location) : Prop where
  located : tree.locate here p = .ok l
  free : tree.find? l ≠ some .directory

theorem Accepts.unique {l' : Location} (h : tree.Accepts here p l) (h' : tree.Accepts here p l') : l' = l := by
  have located := h'.located
  rw [h.located] at located
  exact (Except.ok.inj located).symm

theorem Accepts.mono (h : tree.Accepts here p l) (directories : tree.DirectoriesIn tree')
    (free : tree'.find? l ≠ some .directory) : tree'.Accepts here p l :=
  ⟨directories.locate_ok h.located, free⟩

theorem Accepts.congr (same : ∀ m, tree.kind? m = tree'.kind? m) : tree.Accepts here p l ↔ tree'.Accepts here p l := by
  have free : tree.find? l ≠ some .directory ↔ tree'.find? l ≠ some .directory := by
    rw [← not_iff_not, not_not, not_not, ← kind?_eq_true, ← kind?_eq_true, same]
  constructor
  · rintro ⟨located, h⟩
    exact ⟨locate_congr same here p ▸ located, free.1 h⟩
  · rintro ⟨located, h⟩
    exact ⟨(locate_congr same here p).symm ▸ located, free.2 h⟩

theorem Accepts.place (h : tree.Accepts here p l) (sound : tree.Sound)
    (begins : tree.find? (p.start here) = some .directory)
    (proper : p.Proper) : ∃ above part, l = above ++ [part] ∧ tree.find? above = some .directory ∧ IsName part := by
  obtain ⟨noNull, -, walked⟩ := locate_eq_ok.1 h.located
  rcases parent_of_walk sound begins walked with found | ⟨above, part, same, parent, member, notUp⟩
  · exact absurd found h.free
  · have named : IsName part :=
      (proper part member fun null => noNull (Path.mem_toText member null)).resolve_left notUp
    exact ⟨above, part, same, parent, named⟩

end FileTree

namespace Workspace
open FileTree
variable {w : Workspace} {p source target : Path} {l : Location} {content : List UInt8} {changed : Int}

theorem Accepts.sound_put (h : w.tree.Accepts w.here p l) (sound : w.Sound) (proper : p.Proper) :
    (w.put l (.file content changed)).Sound := by
  obtain ⟨above, part, rfl, parent, named⟩ := h.place sound.tree (sound.start p) proper
  have free : ∀ k, w.tree.kind? (above ++ [part]) = some k → k = false := by
    intro k kind
    cases k with
    | false => rfl
    | true => exact absurd (kind?_eq_true.1 kind) h.free
  exact ⟨sound.tree.put parent named (.inl h.free), (grows_put (by simp) free).directories _ sound.here⟩

end Workspace

namespace Storage
open FileTree Workspace
variable {w : Workspace} {p source target : Path} {l : Location}

@[simp] theorem after_writable : w.after (writable p) = w := by
  unfold writable locate
  rw [after_bind]
  simp only [outcome_query, after_query]
  cases w.tree.locate w.here p with
  | error e => rfl
  | ok l =>
      dsimp only
      rw [after_bind]
      simp only [outcome_get, after_get]
      split <;> rfl

theorem writable_iff : w.outcome (writable p) = .ok l ↔ w.tree.Accepts w.here p l := by
  unfold writable locate
  rw [outcome_bind_eq_ok]
  simp only [outcome_query, after_query]
  constructor
  · rintro ⟨m, located, h⟩
    rw [outcome_bind_eq_ok] at h
    obtain ⟨w', got, h⟩ := h
    cases got
    rw [after_get] at h
    split at h
    · cases h
    · rename_i notDirectory
      cases h
      exact ⟨located, notDirectory⟩
  · rintro ⟨located, free⟩
    refine ⟨l, located, ?_⟩
    rw [outcome_bind_of_ok (outcome_get), after_get]
    split
    · rename_i directory
      exact absurd directory free
    · rfl

end Storage

namespace Files
open FileTree Workspace
variable {w : Workspace} {p : Path} {l : Location}

theorem writeText_cases (w : Workspace) (p : Path) (s : Text) :
    (∃ l changed, w.tree.Accepts w.here p l ∧ w.outcome (writeText p s) = .ok () ∧
      (w.after (writeText p s)).SameFiles (w.put l (.file (Utf8.encode s) changed))) ∨
    ((∀ l, ¬w.tree.Accepts w.here p l) ∧ (∃ e, w.outcome (writeText p s) = .error e) ∧
      w.after (writeText p s) = w) := by
  unfold writeText
  rw [outcome_storage, after_storage]
  unfold Storage.writeFile
  rw [outcome_bind, after_bind, Storage.after_writable]
  cases asked : w.outcome (Storage.writable p) with
  | ok l => exact .inl ⟨l, w.clock, Storage.writable_iff.1 asked, rfl, rfl, rfl⟩
  | error e =>
      refine .inr ⟨fun l accepts => ?_, ⟨_, rfl⟩, rfl⟩
      rw [Storage.writable_iff.2 accepts] at asked
      cases asked

end Files

namespace FileTree
variable {tree tree' : FileTree} {l here : Location} {p source target : Path} {content : List UInt8} {changed : Int}

theorem stat_eq_ok {e : Entry} : tree.stat here p = .ok (l, e) ↔ tree.locate here p = .ok l ∧
    tree.find? l = some e := by
  unfold stat
  cases tree.locate here p with
  | error e' => simp [bind, Except.bind]
  | ok m =>
      simp only [bind, Except.bind, Except.ok.injEq]
      cases found : tree.find? m with
      | none =>
          simp only [throw, throwThe, MonadExceptOf.throw, reduceCtorEq, false_iff, not_and]
          rintro rfl
          simp [found]
      | some e' =>
          simp only [pure, Except.pure, Except.ok.injEq, Prod.mk.injEq]
          constructor
          · rintro ⟨rfl, rfl⟩
            exact ⟨rfl, found⟩
          · rintro ⟨rfl, h⟩
            rw [found] at h
            exact ⟨rfl, Option.some.inj h⟩

def receiver (tree : FileTree) (here : Location) (source target : Path) : Path :=
  match tree.stat here target with
  | .ok (_, .directory) => if source.name = [] then target else target.child source.name
  | _ => target

theorem receiver_of_hasDirectory (h : tree.HasDirectory here target) :
    tree.receiver here source target = if source.name = [] then target else target.child source.name := by
  rw [receiver, stat_eq_ok.2 ⟨h.located, h.found⟩]

theorem receiver_of_not_hasDirectory (h : ¬tree.HasDirectory here target) :
    tree.receiver here source target = target := by
  unfold receiver
  split
  · rename_i l found
    exact absurd (hasDirectory_of (stat_eq_ok.1 found).1 (stat_eq_ok.1 found).2) h
  · rfl

structure Copies (tree : FileTree) (here : Location) (source target : Path) (l : Location) (content : List UInt8)
    (changed : Int) : Prop where
  read : tree.stat here source = .ok (source.resolve here, .file content changed)
  apart : l ≠ source.resolve here
  accepts : tree.Accepts here (tree.receiver here source target) l

theorem Copies.unique {l' : Location} {content' : List UInt8} {changed' : Int}
    (copies : tree.Copies here source target l content changed)
    (copies' : tree.Copies here source target l' content' changed') : l' = l ∧ content' = content := by
  have read := copies'.read
  rw [copies.read] at read
  cases read
  exact ⟨copies.accepts.unique copies'.accepts, rfl⟩

theorem Copies.lands (copies : tree.Copies here source target l content changed) (named : IsName source.name) :
    (¬tree.HasDirectory here target ∧ l = target.resolve here) ∨
      (tree.HasDirectory here target ∧ l = target.resolve here ++ [source.name]) := by
  have accepts := copies.accepts
  by_cases present : tree.HasDirectory here target
  · rw [receiver_of_hasDirectory present, if_neg named.nonempty] at accepts
    exact .inr ⟨present, locate_child named.notUp accepts.located⟩
  · rw [receiver_of_not_hasDirectory present] at accepts
    exact .inl ⟨present, resolve_of_locate accepts.located⟩

theorem proper_receiver (proper : target.Proper) (named : IsName source.name) :
    (tree.receiver here source target).Proper := by
  by_cases present : tree.HasDirectory here target
  · rw [receiver_of_hasDirectory present, if_neg named.nonempty]
    exact proper.below (by simpa using named)
  · rw [receiver_of_not_hasDirectory present]
    exact proper

theorem receiver_congr (same : ∀ m, tree.kind? m = tree'.kind? m) (here : Location) (source target : Path) :
    tree.receiver here source target = tree'.receiver here source target := by
  by_cases present : tree.HasDirectory here target
  · rw [receiver_of_hasDirectory present, receiver_of_hasDirectory ((hasDirectory_congr same).1 present)]
  · rw [receiver_of_not_hasDirectory present,
      receiver_of_not_hasDirectory fun there => present ((hasDirectory_congr same).2 there)]

theorem Copies.congr (copies : tree.Copies here source target l content changed)
    (same : ∀ m, tree.kind? m = tree'.kind? m)
    (kept : tree'.find? (source.resolve here) = tree.find? (source.resolve here)) :
    tree'.Copies here source target l content changed := by
  obtain ⟨located, found⟩ := stat_eq_ok.1 copies.read
  refine ⟨stat_eq_ok.2 ⟨locate_congr same here source ▸ located, kept.trans found⟩, copies.apart, ?_⟩
  rw [← receiver_congr same]
  exact (Accepts.congr same).1 copies.accepts

theorem Copies.mono (copies : tree.Copies here source target l content changed) (directories : tree.DirectoriesIn tree')
    (kept : tree'.find? (source.resolve here) = tree.find? (source.resolve here))
    (free : tree'.find? l ≠ some .directory) : tree'.Copies here source target l content changed := by
  obtain ⟨located, found⟩ := stat_eq_ok.1 copies.read
  have accepts := copies.accepts.mono directories free
  refine ⟨stat_eq_ok.2 ⟨directories.locate_ok located, kept.trans found⟩, copies.apart, ?_⟩
  by_cases present : tree.HasDirectory here target
  · rw [receiver_of_hasDirectory (present.mono directories)]
    rwa [receiver_of_hasDirectory present] at accepts
  · rw [receiver_of_not_hasDirectory present] at accepts
    -- a directory made at the target since then would be where the copy lands
    have absent : ¬tree'.HasDirectory here target := fun there => by
      rw [resolve_of_locate accepts.located] at free
      exact free there.found
    rwa [receiver_of_not_hasDirectory absent]

end FileTree

namespace Files
open FileTree Workspace
variable {w : Workspace} {source target : Path} {l : Location} {content : List UInt8} {changed : Int}

theorem destination_run (w : Workspace) (source target : Path) :
    ∃ shown, w.outcome (destination source target) = .ok (w.tree.receiver w.here source target, shown) ∧
      w.after (destination source target) = w := by
  unfold destination receiver
  rw [outcome_bind, after_bind]
  simp only [outcome_query, after_query]
  cases w.tree.stat w.here target with
  | error e => exact ⟨_, rfl, rfl⟩
  | ok found =>
      obtain ⟨l, entry⟩ := found
      cases entry with
      | file content changed => exact ⟨_, rfl, rfl⟩
      | directory => exact ⟨_, rfl, rfl⟩

theorem readFile_iff : w.outcome (Storage.readFile source) = .ok (content, changed) ↔
    w.tree.stat w.here source = .ok (source.resolve w.here, .file content changed) := by
  unfold Storage.readFile Storage.stat
  rw [outcome_bind]
  simp only [outcome_query, after_query]
  cases asked : w.tree.stat w.here source with
  | error e => simp
  | ok found =>
      obtain ⟨l, entry⟩ := found
      have located := resolve_of_locate (stat_eq_ok.1 asked).1
      cases entry <;> simp [located]

theorem after_readFile : w.after (Storage.readFile source) = w := by
  unfold Storage.readFile Storage.stat
  rw [after_bind]
  simp only [outcome_query, after_query]
  cases w.tree.stat w.here source with
  | error e => rfl
  | ok found =>
      obtain ⟨l, entry⟩ := found
      cases entry <;> rfl

theorem sameEntry_of_copies (h : w.tree.Copies w.here source target l content changed) :
    w.outcome (sameEntry source (w.tree.receiver w.here source target)) = .ok false := by
  unfold sameEntry
  rw [outcome_query, h.read]
  cases other : w.tree.stat w.here (w.tree.receiver w.here source target) with
  | error e =>
      cases e with
      | system e => rfl
      | embeddedNull =>
          unfold stat at other
          rw [h.accepts.located] at other
          simp only [bind, Except.bind] at other
          split at other <;> cases other
  | ok found =>
      obtain ⟨m, entry⟩ := found
      have located := (stat_eq_ok.1 other).1
      rw [h.accepts.located] at located
      cases located
      simpa using h.apart.symm

theorem copies_of_run (same : w.outcome (sameEntry source (w.tree.receiver w.here source target)) = .ok false)
    (read : w.outcome (Storage.readFile source) = .ok (content, changed))
    (accepted : w.outcome (Storage.writable (w.tree.receiver w.here source target)) = .ok l) :
    w.tree.Copies w.here source target l content changed := by
  have found := readFile_iff.1 read
  have accepts := Storage.writable_iff.1 accepted
  refine ⟨found, ?_, accepts⟩
  rintro rfl
  have there := stat_eq_ok.2 ⟨accepts.located, (stat_eq_ok.1 found).2⟩
  unfold sameEntry at same
  rw [outcome_query, found, there] at same
  simp at same

theorem copyOrSame_cases (w : Workspace) (source target : Path) :
    (∃ l content changed, w.tree.Copies w.here source target l content changed ∧
      w.outcome (copyOrSame source target) = .ok none ∧
      (w.after (copyOrSame source target)).SameFiles (w.put l (.file content changed))) ∨
    ((∀ l content changed, ¬w.tree.Copies w.here source target l content changed) ∧
      w.outcome (copyOrSame source target) ≠ .ok none ∧ w.after (copyOrSame source target) = w) := by
  obtain ⟨shown, destined, kept⟩ := destination_run w source target
  unfold copyOrSame
  rw [outcome_bind_of_ok destined, after_bind_of_ok destined, kept]
  dsimp only
  have keepsSame : w.after (sameEntry source (w.tree.receiver w.here source target)) = w := after_query _
  cases same : w.outcome (sameEntry source (w.tree.receiver w.here source target)) with
  | error e =>
      right
      rw [outcome_bind_of_error same, after_bind_of_error same, keepsSame]
      refine ⟨fun l content changed copies => ?_, by simp, rfl⟩
      rw [sameEntry_of_copies copies] at same
      cases same
  | ok isSame =>
      rw [outcome_bind_of_ok same, after_bind_of_ok same, keepsSame]
      cases isSame with
      | true =>
          refine .inr ⟨fun l content changed copies => ?_, by simp, rfl⟩
          rw [sameEntry_of_copies copies] at same
          cases same
      | false =>
          rw [if_neg Bool.false_ne_true]
          cases read : w.outcome (Storage.readFile source) with
          | error e =>
              right
              rw [outcome_bind_of_error read, after_bind_of_error read, after_readFile]
              refine ⟨fun l content changed copies => ?_, by simp, rfl⟩
              rw [readFile_iff.2 copies.read] at read
              cases read
          | ok file =>
              obtain ⟨content, changed⟩ := file
              rw [outcome_bind_of_ok read, after_bind_of_ok read, after_readFile]
              dsimp only
              cases accepted : w.outcome (Storage.writable (w.tree.receiver w.here source target)) with
              | error e =>
                  right
                  rw [outcome_bind_of_error accepted, after_bind_of_error accepted, Storage.after_writable]
                  refine ⟨fun l content changed copies => ?_, by simp, rfl⟩
                  rw [Storage.writable_iff.2 copies.accepts] at accepted
                  cases accepted
              | ok l =>
                  rw [outcome_bind_of_ok accepted, after_bind_of_ok accepted, Storage.after_writable]
                  exact .inl ⟨l, content, changed, copies_of_run same read accepted, rfl, rfl, rfl⟩

theorem copy_cases (w : Workspace) (source target : Path) :
    (∃ l content changed, w.tree.Copies w.here source target l content changed ∧
      w.outcome (copy source target) = .ok () ∧
      (w.after (copy source target)).SameFiles (w.put l (.file content changed))) ∨
    ((∀ l content changed, ¬w.tree.Copies w.here source target l content changed) ∧
      (∃ e, w.outcome (copy source target) = .error e) ∧ w.after (copy source target) = w) := by
  unfold copy
  rcases copyOrSame_cases w source target with ⟨l, content, changed, copies, done, run⟩ | ⟨noCopies, notDone, run⟩
  · have done : w.outcome (Action.storage (Action.fileFailure .write target) (copyOrSame source target)) = .ok none :=
      outcome_storage_eq_ok.2 done
    rw [outcome_bind_of_ok done, after_bind_of_ok done, after_storage]
    exact .inl ⟨l, content, changed, copies, rfl, run⟩
  · refine .inr ⟨noCopies, ?_, ?_⟩
    · rw [outcome_bind, outcome_storage]
      cases asked : w.outcome (copyOrSame source target) with
      | error e => exact ⟨_, rfl⟩
      | ok same =>
          cases same with
          | none => exact absurd asked notDone
          | some shown => exact ⟨_, rfl⟩
    · rw [after_bind, outcome_storage, after_storage, run]
      cases w.outcome (copyOrSame source target) with
      | error e => rfl
      | ok same => cases same <;> rfl

end Files
end PageComposer

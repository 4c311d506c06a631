import PageComposer.Proofs.FileTree.Walk
import PageComposer.Workspace

/-!
# Edits

What somebody does to the files of a project while it is watched: files are written, with the directories above them
that are missing, and removed. Edits take no directory away, make directories only on the way to a file, and leave the
files alone that they do not name (`edited_applyAll`).
-/

namespace PageComposer

def Entry.changed? : Entry → Option Int
  | file _ changed => some changed
  | directory => none

inductive Edit where
  | write (l : Location) (content : List UInt8) (stamp : Int)
  | remove (l : Location)
  deriving DecidableEq

namespace Edit
open FileTree

def location : Edit → Location
  | write l .. => l
  | remove l => l

def stamped? : Edit → Option (Location × Int)
  | write l _ stamp => some (l, stamp)
  | remove _ => none

/-- The location is an entry's, and lies below another one. -/
def Below (e : Edit) (l : Location) : Prop :=
  (∃ names, names ≠ [] ∧ e.location = l ++ names) ∧ ∀ part ∈ e.location, IsName part

theorem below_iff {e : Edit} {l : Location} :
    e.Below l ↔ (l <+: e.location ∧ l ≠ e.location) ∧ ∀ part ∈ e.location, IsName part := by
  refine and_congr_left fun _ => ⟨?_, ?_⟩
  · rintro ⟨names, nonempty, location⟩
    rw [location]
    exact ⟨List.prefix_append _ _, by simpa using nonempty.symm⟩
  · rintro ⟨⟨names, location⟩, other⟩
    refine ⟨names, ?_, location.symm⟩
    rintro rfl
    exact other (by simpa using location)

instance (e : Edit) (l : Location) : Decidable (e.Below l) := decidable_of_iff _ below_iff.symm

def makeWay (tree : FileTree) (l : Location) : List Text → Option FileTree
  | [] => some tree
  | part :: rest =>
    match tree.find? (l ++ [part]) with
    | none => makeWay (tree.put (l ++ [part]) .directory) (l ++ [part]) rest
    | some .directory => makeWay tree (l ++ [part]) rest
    | some (.file ..) => none

def apply (tree : FileTree) : Edit → FileTree
  | write l content stamp =>
    match makeWay tree [] l.dropLast with
    | none => tree
    | some ready => if tree.find? l = some .directory then tree else ready.put l (.file content stamp)
  | remove l =>
    match tree.find? l with
    | some (.file ..) => tree.remove l
    | _ => tree

def applyAll (tree : FileTree) (edits : List Edit) : FileTree := edits.foldl apply tree

def perform (edits : List Edit) : Action Unit := modify fun w => { w with tree := applyAll w.tree edits }

variable {tree tree' : FileTree} {l m : Location} {names : List Text} {e : Edit} {edits : List Edit}
  {content : List UInt8} {stamp : Int}

structure WayMade (tree tree' : FileTree) (l : Location) (names : List Text) : Prop where
  sound : tree'.Sound
  directories : tree.DirectoriesIn tree'
  made : ∀ m, tree'.find? m = some .directory → tree.find? m = some .directory ∨ m <+: l ++ names
  files : ∀ m content stamp, tree'.find? m = some (.file content stamp) ↔ tree.find? m = some (.file content stamp)
  reached : tree'.find? (l ++ names) = some .directory

theorem wayMade_of_makeWay (sound : tree.Sound) (begins : tree.find? l = some .directory)
    (named : ∀ part ∈ names, IsName part) (done : makeWay tree l names = some tree') : WayMade tree tree' l names := by
  induction names generalizing tree l with
  | nil =>
      cases done
      exact ⟨sound, fun _ h => h, fun _ h => .inl h, fun _ _ _ => Iff.rfl, by simpa using begins⟩
  | cons part rest ih =>
      obtain ⟨namedFirst, namedLater⟩ := List.forall_mem_cons.1 named
      have split (l : Location) : l ++ part :: rest = (l ++ [part]) ++ rest := by simp
      unfold makeWay at done
      split at done
      · rename_i free
        have rooted := ne_root_of_free free
        have soundNext : (tree.put (l ++ [part]) .directory).Sound := sound.put begins namedFirst (.inr rfl)
        have found (m : Location) : (tree.put (l ++ [part]) .directory).find? m =
            if m = l ++ [part] then some .directory else tree.find? m := by
          by_cases top : m = []
          · subst top
            rw [if_neg (Ne.symm rooted)]
            rfl
          · exact find?_put _ _ _ _ top
        have way := ih soundNext (by rw [found, if_pos rfl]) namedLater done
        refine ⟨way.sound, ?_, fun m h => ?_, fun m content stamp => ?_, by rw [split]; exact way.reached⟩
        · exact (grows_put_free free).directories.trans way.directories
        · rcases way.made m h with h | h
          · rw [found] at h
            split at h
            · rename_i same
              right
              rw [same, split]
              exact List.prefix_append _ _
            · exact .inl h
          · right
            rwa [split]
        · rw [way.files, found]
          split
          · rename_i same
            simp [same, free]
          · rfl
      · rename_i directory
        have way := ih sound directory namedLater done
        refine ⟨way.sound, way.directories, fun m h => ?_, way.files, by rw [split]; exact way.reached⟩
        rw [split]
        exact way.made m h
      · cases done

structure Edited (tree tree' : FileTree) (edits : List Edit) : Prop where
  sound : tree'.Sound
  directories : tree.DirectoriesIn tree'
  made : ∀ m, tree'.find? m = some .directory →
    tree.find? m = some .directory ∨ ∃ e ∈ edits, m <+: e.location ∧ m ≠ e.location
  files : ∀ m content stamp, tree'.find? m = some (.file content stamp) →
    tree.find? m = some (.file content stamp) ∨ .write m content stamp ∈ edits
  kept : ∀ m content stamp, (∀ e ∈ edits, e.location ≠ m) → tree.find? m = some (.file content stamp) →
    tree'.find? m = some (.file content stamp)

theorem Edited.of_unchanged (sound : tree.Sound) : Edited tree tree edits :=
  ⟨sound, fun _ h => h, fun _ h => .inl h, fun _ _ _ h => .inl h, fun _ _ _ _ h => h⟩

theorem Edited.cons {last : FileTree} (first : Edited tree tree' [e]) (later : Edited tree' last edits) :
    Edited tree last (e :: edits) where
  sound := later.sound
  directories := first.directories.trans later.directories
  made m h := by
    rcases later.made m h with h | ⟨e', member, inside⟩
    · rcases first.made m h with h | ⟨e', member, inside⟩
      · exact .inl h
      · exact .inr ⟨e, List.mem_cons_self, List.mem_singleton.1 member ▸ inside⟩
    · exact .inr ⟨e', List.mem_cons_of_mem _ member, inside⟩
  files m content stamp h := by
    rcases later.files m content stamp h with h | member
    · rcases first.files m content stamp h with h | member
      · exact .inl h
      · exact .inr (List.mem_singleton.1 member ▸ List.mem_cons_self)
    · exact .inr (List.mem_cons_of_mem _ member)
  kept m content stamp apart h := by
    obtain ⟨apartFirst, apartLater⟩ := List.forall_mem_cons.1 apart
    exact later.kept m content stamp apartLater (first.kept m content stamp (by simpa using apartFirst) h)

theorem edited_write (sound : tree.Sound) (named : ∀ part ∈ l, IsName part) :
    Edited tree (apply tree (.write l content stamp)) [.write l content stamp] := by
  rw [apply]
  cases made : makeWay tree [] l.dropLast with
  | none => exact .of_unchanged sound
  | some ready =>
      dsimp only
      split
      · exact .of_unchanged sound
      · rename_i notDirectory
        rcases List.eq_nil_or_concat' l with rfl | ⟨above, last, rfl⟩
        · exact absurd (find?_root tree) notDirectory
        · rw [List.dropLast_concat] at made
          have way := wayMade_of_makeWay sound (find?_root tree)
            (fun part member => named part (List.mem_append_left _ member)) made
          have free : ready.find? (above ++ [last]) ≠ some .directory := by
            intro directory
            rcases way.made _ directory with directory | inside
            · exact notDirectory directory
            · have length := inside.length_le
              simp only [List.nil_append, List.length_append, List.length_singleton] at length
              omega
          have found (m : Location) : (ready.put (above ++ [last]) (.file content stamp)).find? m =
              if m = above ++ [last] then some (.file content stamp) else ready.find? m := by
            by_cases top : m = []
            · subst top
              rw [if_neg (by simp)]
              rfl
            · exact find?_put _ _ _ _ top
          refine ⟨way.sound.put way.reached (named last (by simp)) (.inl free), fun m h => ?_, fun m h => ?_,
            fun m content' stamp' h => ?_, fun m content' stamp' apart h => ?_⟩
          · rw [found, if_neg]
            · exact way.directories m h
            · rintro rfl
              exact notDirectory h
          · rw [found] at h
            split at h
            · cases h
            · rename_i other
              refine (way.made m h).imp_right fun inside => ⟨_, List.mem_singleton_self _, ?_, other⟩
              exact inside.trans (List.prefix_append _ _)
          · rw [found] at h
            split at h
            · rename_i same
              cases h
              right
              rw [same]
              exact List.mem_singleton_self _
            · exact .inl ((way.files m content' stamp').1 h)
          · have other : m ≠ above ++ [last] := fun same => apart _ (List.mem_singleton_self _) same.symm
            rw [found, if_neg other]
            exact (way.files m content' stamp').2 h

theorem edited_remove (sound : tree.Sound) : Edited tree (apply tree (.remove l)) [.remove l] := by
  rw [apply]
  split
  · rename_i content changed file
    have notDirectory : tree.find? l ≠ some .directory := by simp [file]
    have gone : (tree.remove l).find? l = none := by
      have rooted : l ≠ [] := by
        rintro rfl
        exact notDirectory (find?_root tree)
      rw [find?_remove _ _ _ rooted, if_pos (by simp)]
    have others {m : Location} (other : m ≠ l) : (tree.remove l).find? m = tree.find? m :=
      find?_remove_file sound notDirectory other
    have back {m : Location} {entry : Entry} (h : (tree.remove l).find? m = some entry) :
        tree.find? m = some entry := by
      by_cases same : m = l
      · subst same
        rw [gone] at h
        cases h
      · rwa [others same] at h
    refine ⟨sound.remove l, fun m h => ?_, fun m h => .inl (back h), fun m _ _ h =>
      .inl (back h), fun m _ _ apart h => ?_⟩
    · rwa [others]
      rintro rfl
      exact notDirectory h
    · rwa [others]
      exact fun same => apart _ (List.mem_singleton_self _) same.symm
  · exact .of_unchanged sound

theorem edited_apply (sound : tree.Sound) (named : ∀ part ∈ e.location, IsName part) :
    Edited tree (apply tree e) [e] := by
  cases e with
  | write l content stamp => exact edited_write sound named
  | remove l => exact edited_remove sound

theorem edited_applyAll (sound : tree.Sound) (named : ∀ e ∈ edits, ∀ part ∈ e.location, IsName part) :
    Edited tree (applyAll tree edits) edits := by
  induction edits generalizing tree with
  | nil => exact .of_unchanged sound
  | cons e edits ih =>
      obtain ⟨namedFirst, namedLater⟩ := List.forall_mem_cons.1 named
      have first := edited_apply sound namedFirst
      exact first.cons (ih first.sound namedLater)

def stamps (script : List (List Edit)) : List (Location × Int) := script.flatten.filterMap stamped?

/-- Whatever is written gets a time that it never had before. -/
structure Fresh (tree : FileTree) (script : List (List Edit)) : Prop where
  distinct : (stamps script).Nodup
  unused : ∀ l stamp, (l, stamp) ∈ stamps script → ∀ content, tree.find? l ≠ some (.file content stamp)

theorem changed?_eq_some_iff : (tree.find? l).bind Entry.changed? = some stamp ↔
    ∃ content, tree.find? l = some (.file content stamp) := by
  cases tree.find? l with
  | none => simp
  | some entry => cases entry <;> simp [Entry.changed?, eq_comm]

theorem fresh_iff {script : List (List Edit)} : Fresh tree script ↔ (stamps script).Nodup ∧
    ∀ x ∈ stamps script, (tree.find? x.1).bind Entry.changed? ≠ some x.2 := by
  constructor
  · rintro ⟨distinct, unused⟩
    refine ⟨distinct, fun ⟨l, stamp⟩ member found => ?_⟩
    obtain ⟨content, found⟩ := changed?_eq_some_iff.1 found
    exact unused l stamp member content found
  · rintro ⟨distinct, unused⟩
    exact ⟨distinct, fun l stamp member content found => unused _ member (changed?_eq_some_iff.2 ⟨content, found⟩)⟩

instance (tree : FileTree) (script : List (List Edit)) : Decidable (Fresh tree script) :=
  decidable_of_iff _ fresh_iff.symm

theorem mem_stamps {edits : List Edit} (member : .write l content stamp ∈ edits) : (l, stamp) ∈ stamps [edits] := by
  rw [stamps, List.flatten_singleton]
  exact List.mem_filterMap.2 ⟨_, member, rfl⟩

theorem stamps_append (script script' : List (List Edit)) :
    stamps (script ++ script') = stamps script ++ stamps script' := by
  rw [stamps, List.flatten_append, List.filterMap_append]
  rfl

theorem Fresh.earlier {script script' : List (List Edit)} (fresh : Fresh tree (script ++ script')) :
    Fresh tree script := by
  have distinct := fresh.distinct
  rw [stamps_append] at distinct
  refine ⟨distinct.of_append_left, fun l stamp member => fresh.unused l stamp ?_⟩
  rw [stamps_append]
  exact List.mem_append_left _ member

theorem Fresh.next {script : List (List Edit)} {edits : List Edit} (fresh : Fresh tree (script ++ [edits]))
    (member : .write l content stamp ∈ edits) :
    (l, stamp) ∉ stamps script ∧ ∀ content, tree.find? l ≠ some (.file content stamp) := by
  have distinct := fresh.distinct
  rw [stamps_append] at distinct
  refine ⟨fun before => ?_, fresh.unused l stamp ?_⟩
  · exact List.disjoint_of_nodup_append distinct before (mem_stamps member)
  · rw [stamps_append]
    exact List.mem_append_right _ (mem_stamps member)

end Edit
end PageComposer

import PageComposer.Proofs.FileTree.Sound

/-!
# Paths in sound trees

Where a path leads depends only on which entries there are and which of them are directories (`walk_congr`).
When a tree keeps its directories, a path that leads somewhere still leads there (`DirectoriesIn.locate_ok`), and when
it grows, one that is refused for more than a missing entry is still refused (`Grows.locate_error`).
-/

namespace PageComposer

namespace FileTree
variable {tree tree' : FileTree} {l m here : Location} {parts names : List Text} {part : Text} {p : Path}

def kind? (tree : FileTree) (l : Location) : Option Bool := (tree.find? l).map Entry.isDirectory

theorem kind?_eq_true : tree.kind? l = some true ↔ tree.find? l = some .directory := by
  rw [kind?, Option.map_eq_some_iff]
  constructor
  · rintro ⟨e, found, isDirectory⟩
    cases e with
    | file => cases isDirectory
    | directory => exact found
  · exact fun found => ⟨_, found, rfl⟩

theorem kind?_eq_false : tree.kind? l = some false ↔
    ∃ content changed, tree.find? l = some (.file content changed) := by
  rw [kind?, Option.map_eq_some_iff]
  constructor
  · rintro ⟨e, found, isDirectory⟩
    cases e with
    | file content changed => exact ⟨content, changed, found⟩
    | directory => cases isDirectory
  · rintro ⟨content, changed, found⟩
    exact ⟨_, found, rfl⟩

theorem kind?_eq_none : tree.kind? l = none ↔ tree.find? l = none := Option.map_eq_none_iff

theorem kind?_put {e : Entry} (hl : l ≠ []) :
    (tree.put l e).kind? m = if m = l then some e.isDirectory else tree.kind? m := by
  by_cases rooted : m = []
  · subst rooted
    rw [if_neg (Ne.symm hl)]
    rfl
  · rw [kind?, find?_put _ _ _ _ rooted]
    split <;> rfl

def Grows (tree tree' : FileTree) : Prop := ∀ l k, tree.kind? l = some k → tree'.kind? l = some k

theorem Grows.refl (tree : FileTree) : tree.Grows tree := fun _ _ h => h

theorem Grows.trans {other : FileTree} (h : tree.Grows tree') (h' : tree'.Grows other) : tree.Grows other :=
  fun l k found => h' l k (h l k found)

theorem Grows.of_kinds (same : ∀ l, tree.kind? l = tree'.kind? l) : tree.Grows tree' :=
  fun l _ found => same l ▸ found

def DirectoriesIn (tree tree' : FileTree) : Prop :=
  ∀ l, tree.find? l = some .directory → tree'.find? l = some .directory

theorem DirectoriesIn.trans {other : FileTree} (h : tree.DirectoriesIn tree') (h' : tree'.DirectoriesIn other) :
    tree.DirectoriesIn other :=
  fun l found => h' l (h l found)

theorem Grows.directories (grows : tree.Grows tree') : tree.DirectoriesIn tree' :=
  fun l found => kind?_eq_true.1 (grows l true (kind?_eq_true.2 found))

theorem grows_put {e : Entry} (hl : l ≠ []) (free : ∀ k, tree.kind? l = some k → k = e.isDirectory) :
    tree.Grows (tree.put l e) := by
  intro m k found
  rw [kind?_put hl]
  split
  · rename_i same
    rw [free k (same ▸ found)]
  · exact found

theorem ne_root_of_free (free : tree.find? l = none) : l ≠ [] := by
  rintro rfl
  rw [find?_root] at free
  cases free

theorem grows_put_free {e : Entry} (free : tree.find? l = none) : tree.Grows (tree.put l e) := by
  refine grows_put (ne_root_of_free free) fun k kind => ?_
  rw [kind?_eq_none.2 free] at kind
  cases kind

theorem walk_cons (tree : FileTree) (l : Location) (part : Text) (rest : List Text) :
    tree.walk l (part :: rest) =
      match tree.kind? l with
      | none => .error .noSuchFile
      | some false => .error .notDirectory
      | some true =>
        if part = ['.', '.'] then tree.walk l.dropLast rest
        else if nameLimit < byteLength part then .error .nameTooLong
        else tree.walk (l ++ [part]) rest := by
  rw [walk, kind?]
  cases tree.find? l with
  | none => rfl
  | some e => cases e <;> rfl

theorem walk_congr (same : ∀ l, tree.kind? l = tree'.kind? l) (l : Location) (parts : List Text) :
    tree.walk l parts = tree'.walk l parts := by
  induction parts generalizing l with
  | nil => rfl
  | cons part rest ih => simp only [walk_cons, same, ih]

theorem DirectoriesIn.walk_ok (directories : tree.DirectoriesIn tree') (h : tree.walk l parts = .ok m) :
    tree'.walk l parts = .ok m := by
  induction parts generalizing l with
  | nil => exact h
  | cons part rest ih =>
      rw [walk_cons] at h ⊢
      split at h
      · cases h
      · cases h
      · rename_i kind
        rw [kind?_eq_true.2 (directories l (kind?_eq_true.1 kind))]
        dsimp only
        split
        · rename_i up
          exact ih (by rwa [if_pos up] at h)
        · rename_i notUp
          rw [if_neg notUp] at h
          split
          · rename_i long
            rwa [if_pos long] at h
          · rename_i short
            exact ih (by rwa [if_neg short] at h)

theorem Grows.walk_error (grows : tree.Grows tree') {e : SystemError} (h : tree.walk l parts = .error e)
    (refused : e ≠ .noSuchFile) : tree'.walk l parts = .error e := by
  induction parts generalizing l with
  | nil => cases h
  | cons part rest ih =>
      rw [walk_cons] at h ⊢
      cases kind : tree.kind? l with
      | none =>
          rw [kind] at h
          exact absurd (Except.error.inj h).symm refused
      | some k =>
          rw [grows l k kind]
          rw [kind] at h
          cases k with
          | false => exact h
          | true =>
              dsimp only at h ⊢
              split
              · rename_i up
                exact ih (by rwa [if_pos up] at h)
              · rename_i notUp
                rw [if_neg notUp] at h
                split
                · rename_i long
                  rwa [if_pos long] at h
                · rename_i short
                  exact ih (by rwa [if_neg short] at h)

theorem walk_append (tree : FileTree) (l : Location) (parts rest : List Text) :
    tree.walk l (parts ++ rest) = (tree.walk l parts).bind fun m => tree.walk m rest := by
  induction parts generalizing l with
  | nil => rfl
  | cons part parts ih =>
      rw [List.cons_append, walk_cons, walk_cons]
      split
      · rfl
      · rfl
      · split
        · exact ih _
        · split
          · rfl
          · exact ih _

end FileTree

namespace FileTree
variable {tree tree' : FileTree} {l m here : Location} {parts names : List Text} {part : Text} {p : Path}

theorem walk_ok (h : tree.walk l parts = .ok m) : m = Path.follow l parts := by
  induction parts generalizing l with
  | nil =>
      cases h
      rfl
  | cons part rest ih =>
      rw [walk_cons] at h
      split at h
      · cases h
      · cases h
      · split at h
        · rename_i up
          rw [ih h]
          simp [Path.follow, up]
        · rename_i notUp
          split at h
          · cases h
          · rw [ih h]
            simp [Path.follow, notUp]

theorem parent_of_walk (sound : tree.Sound) (begins : tree.find? l = some .directory)
    (h : tree.walk l parts = .ok m) :
    tree.find? m = some .directory ∨
      ∃ above part, m = above ++ [part] ∧ tree.find? above = some .directory ∧ part ∈ parts ∧ part ≠ ['.', '.'] := by
  induction parts generalizing l with
  | nil =>
      cases h
      exact .inl begins
  | cons part rest ih =>
      rw [walk_cons, kind?_eq_true.2 begins] at h
      have later {l : Location} (begins : tree.find? l = some .directory) (h : tree.walk l rest = .ok m) :
          tree.find? m = some .directory ∨ ∃ above part', m = above ++ [part'] ∧
            tree.find? above = some .directory ∧ part' ∈ part :: rest ∧ part' ≠ ['.', '.'] :=
        (ih begins h).imp_right fun ⟨above, part', split, parent, member, notUp⟩ =>
          ⟨above, part', split, parent, List.mem_cons_of_mem _ member, notUp⟩
      dsimp only at h
      split at h
      · refine later ?_ h
        rcases List.eq_nil_or_concat' l with rfl | ⟨above, last, rfl⟩
        · exact find?_root tree
        · rw [List.dropLast_concat]
          exact sound.closed _ _ _ begins
      · rename_i notUp
        split at h
        · cases h
        · cases rest with
          | nil =>
              cases h
              exact .inr ⟨l, part, rfl, begins, List.mem_cons_self, notUp⟩
          | cons next rest =>
              refine later ?_ h
              rw [walk_cons] at h
              split at h
              · cases h
              · cases h
              · rename_i kind
                exact kind?_eq_true.1 kind

theorem locate_eq_ok : tree.locate here p = .ok l ↔
    '\x00' ∉ p.toText ∧ byteLength p.toText < pathLimit ∧ tree.walk (p.start here) p.parts = .ok l := by
  unfold locate Path.start
  split
  · rename_i null
    simp [null]
  · rename_i noNull
    split
    · rename_i long
      simp [Nat.not_lt.2 long]
    · rename_i short
      cases tree.walk
        (if p.anchor = [] then here else []) p.parts <;> simp [noNull, Nat.not_le.1 short, Except.mapError]

theorem locate_congr (same : ∀ l, tree.kind? l = tree'.kind? l) (here : Location) (p : Path) :
    tree.locate here p = tree'.locate here p := by
  simp only [locate, walk_congr same]

theorem resolve_of_locate (h : tree.locate here p = .ok l) : l = p.resolve here :=
  walk_ok (locate_eq_ok.1 h).2.2

theorem DirectoriesIn.locate_ok (directories : tree.DirectoriesIn tree') (h : tree.locate here p = .ok l) :
    tree'.locate here p = .ok l := by
  obtain ⟨noNull, short, walked⟩ := locate_eq_ok.1 h
  exact locate_eq_ok.2 ⟨noNull, short, directories.walk_ok walked⟩

theorem Grows.locate_error (grows : tree.Grows tree') {e : Refusal} (h : tree.locate here p = .error e)
    (refused : e ≠ .system .noSuchFile) : tree'.locate here p = .error e := by
  unfold locate at h ⊢
  split
  · rename_i null
    rwa [if_pos null] at h
  · rename_i noNull
    rw [if_neg noNull] at h
    split
    · rename_i long
      rwa [if_pos long] at h
    · rename_i short
      rw [if_neg short] at h
      cases walked : tree.walk (if p.anchor = [] then here else []) p.parts with
      | ok m => simp [walked, Except.mapError] at h
      | error e' =>
          simp only [walked, Except.mapError, Except.error.injEq] at h
          subst h
          rw [grows.walk_error walked fun missing => refused (congrArg Refusal.system missing)]
          rfl

structure HasDirectory (tree : FileTree) (here : Location) (p : Path) : Prop where
  located : tree.locate here p = .ok (p.resolve here)
  found : tree.find? (p.resolve here) = some .directory

theorem hasDirectory_of (located : tree.locate here p = .ok l) (found : tree.find? l = some .directory) :
    tree.HasDirectory here p := by
  have same := resolve_of_locate located
  subst same
  exact ⟨located, found⟩

theorem HasDirectory.mono (h : tree.HasDirectory here p) (directories : tree.DirectoriesIn tree') :
    tree'.HasDirectory here p :=
  ⟨directories.locate_ok h.located, directories _ h.found⟩

theorem hasDirectory_congr (same : ∀ l, tree.kind? l = tree'.kind? l) :
    tree.HasDirectory here p ↔ tree'.HasDirectory here p := by
  constructor
  · exact fun h => h.mono (Grows.of_kinds same).directories
  · exact fun h => h.mono (Grows.of_kinds fun l => (same l).symm).directories

theorem probe_eq_directory : tree.probe here p = .ok (some .directory) ↔ tree.HasDirectory here p := by
  unfold probe stat
  cases located : tree.locate here p with
  | error e =>
      constructor
      · intro h
        cases e with
        | embeddedNull => cases h
        | system e => cases e <;> cases h
      · intro h
        rw [h.located] at located
        cases located
  | ok l =>
      obtain rfl := resolve_of_locate located
      cases found : tree.find? (p.resolve here) with
      | none =>
          constructor
          · intro h
            simp [found, bind, Except.bind, throw, throwThe, MonadExceptOf.throw] at h
          · intro h
            rw [h.found] at found
            cases found
      | some e =>
          simp only [found, bind, Except.bind, pure, Except.pure, Except.ok.injEq, Option.some.injEq]
          constructor
          · rintro rfl
            exact ⟨located, found⟩
          · intro h
            rw [h.found] at found
            exact (Option.some.inj found).symm

instance (tree : FileTree) (here : Location) (p : Path) : Decidable (tree.HasDirectory here p) :=
  decidable_of_iff _ probe_eq_directory

theorem byteLength_append (s t : Text) : byteLength (s ++ t) = byteLength s + byteLength t := by
  have shift (s : Text) (n : Nat) : s.foldl (fun n c => n + c.utf8Size) n = n + byteLength s := by
    unfold byteLength
    induction s generalizing n with
    | nil => rfl
    | cons c s ih =>
        rw [List.foldl_cons, List.foldl_cons, ih, ih (0 + _)]
        omega
  rw [byteLength, List.foldl_append, shift]
  rfl

theorem HasDirectory.parent (h : tree.HasDirectory here (p.child part)) : tree.HasDirectory here p := by
  obtain ⟨noNull, short, walked⟩ := locate_eq_ok.1 h.located
  have above : '\x00' ∉ p.toText ∧ byteLength p.toText < pathLimit := by
    rcases Path.toText_child p part with text | ⟨rest, text⟩
    · rw [text]
      decide
    · rw [← text, List.mem_append, not_or] at noNull
      rw [← text, byteLength_append] at short
      exact ⟨noNull.1, Nat.lt_of_le_of_lt (Nat.le_add_right _ _) short⟩
  have steps : tree.walk (p.start here) p.parts = .ok (p.resolve here) ∧
      tree.find? (p.resolve here) = some .directory := by
    have walked' : tree.walk (p.start here) (p.parts ++ [part]) = .ok ((p.child part).resolve here) := walked
    rw [walk_append] at walked'
    cases first : tree.walk (p.start here) p.parts with
    | error e => simp [first, Except.bind] at walked'
    | ok m =>
        obtain rfl : m = p.resolve here := walk_ok first
        simp only [first, Except.bind, walk_cons] at walked'
        split at walked'
        · cases walked'
        · cases walked'
        · rename_i kind
          exact ⟨rfl, kind?_eq_true.1 kind⟩
  exact ⟨locate_eq_ok.2 ⟨above.1, above.2, steps.1⟩, steps.2⟩

theorem walk_child (h : tree.HasDirectory here p) (part : Text) :
    tree.walk ((p.child part).start here) (p.child part).parts =
      if part = ['.', '.'] then .ok (p.resolve here).dropLast
      else if nameLimit < byteLength part then .error .nameTooLong
      else .ok (p.resolve here ++ [part]) := by
  have walked := (locate_eq_ok.1 h.located).2.2
  have split : tree.walk ((p.child part).start here) (p.child part).parts =
      tree.walk (p.start here) (p.parts ++ [part]) := rfl
  rw [split, walk_append, walked, Except.bind, walk_cons, kind?_eq_true.2 h.found]
  rfl

theorem locate_child_cases (h : tree.HasDirectory here p) (named : IsName part) :
    tree.locate here (p.child part) = .ok (p.resolve here ++ [part]) ∨
      tree.locate here (p.child part) = .error (.system .nameTooLong) := by
  have noNull := Path.noNull_child (locate_eq_ok.1 h.located).1 named.noNull
  have walked := walk_child h part
  unfold Path.start at walked
  unfold locate
  rw [if_neg noNull, walked, if_neg named.notUp]
  split
  · exact .inr rfl
  · split
    · exact .inr rfl
    · exact .inl rfl

theorem locate_child_congr (h : tree.HasDirectory here p) (h' : tree'.HasDirectory here p) (part : Text) :
    tree.locate here (p.child part) = tree'.locate here (p.child part) := by
  have walked := (walk_child h part).trans (walk_child h' part).symm
  unfold Path.start at walked
  simp only [locate, walked]

theorem locate_child_error (h : tree.HasDirectory here p) {e : Refusal}
    (refused : tree.locate here (p.child part) = .error e) : e ≠ .system .noSuchFile := by
  have walked := walk_child h part
  unfold Path.start at walked
  unfold locate at refused
  rw [walked] at refused
  rintro rfl
  split at refused
  · cases refused
  · split at refused
    · cases refused
    · split at refused
      · cases refused
      · split at refused
        · cases refused
        · cases refused

theorem locate_child (notUp : part ≠ ['.', '.']) (located : tree.locate here (p.child part) = .ok l) :
    l = p.resolve here ++ [part] := by
  rw [resolve_of_locate located, Path.resolve_child notUp]

end FileTree
end PageComposer

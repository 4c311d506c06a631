import Mathlib.Data.Char
import Mathlib.Data.List.Induction
import Mathlib.Data.List.Lex
import Mathlib.Data.List.Sort
import PageComposer.FileTree
import PageComposer.Proofs.Path

/-!
# Sound file trees

A tree is sound if its entries are in order, have proper names, and lie in directories. Such a tree is known
by its entries alone (`Sound.ext`), and so are the names in a directory and the files below it (`names_congr`,
`filesBelow_congr`); the files below a directory are those below its entries, one after the other
(`filesBelow_eq_flatMap`).
-/

namespace PageComposer

theorem Text.le_iff {s t : Text} : Text.le s t = true ↔ ¬t < s := by
  induction s generalizing t with
  | nil => simp [Text.le]
  | cons a s ih =>
      cases t with
      | nil => simp [Text.le]
      | cons b t =>
          rw [Text.le, List.cons_lt_cons_iff]
          by_cases same : a = b
          · subst same
            simp [ih]
          · have codes : a.toNat ≠ b.toNat := fun h => same (Char.toNat_inj.1 h)
            have less : b < a ↔ b.toNat < a.toNat := Iff.rfl
            simp only [same, if_false, Ne.symm same, false_and, or_false, less, decide_eq_true_eq]
            omega

theorem Location.le_iff {l l' : Location} : Location.le l l' = true ↔ ¬l' < l := by
  induction l generalizing l' with
  | nil => simp [Location.le]
  | cons a l ih =>
      cases l' with
      | nil => simp [Location.le]
      | cons b l' =>
          rw [Location.le, List.cons_lt_cons_iff]
          by_cases same : a = b
          · subst same
            simp [ih]
          · simp [same, Ne.symm same, Text.le_iff]

theorem append_lt_append {α : Type} [LT α] (s : List α) {t u : List α} (h : t < u) : s ++ t < s ++ u := by
  induction s with
  | nil => exact h
  | cons a s ih => exact List.cons_lt_cons_iff.2 (.inr ⟨rfl, ih⟩)

namespace FileTree

structure Sound (tree : FileTree) : Prop where
  sorted : tree.entries.Pairwise fun a b => a.1 < b.1
  rooted : ∀ e ∈ tree.entries, e.1 ≠ []
  named : ∀ e ∈ tree.entries, ∀ part ∈ e.1, IsName part
  closed : ∀ l part e, tree.find? (l ++ [part]) = some e → tree.find? l = some .directory

variable {tree tree' : FileTree} {l : Location}

@[simp] theorem find?_root (tree : FileTree) : tree.find? [] = some .directory := if_pos rfl

theorem lookup_eq_some_iff {entries : List (Location × Entry)} (sorted : entries.Pairwise fun a b => a.1 < b.1)
    {e : Entry} : entries.lookup l = some e ↔ (l, e) ∈ entries := by
  induction entries with
  | nil => simp
  | cons x rest ih =>
      obtain ⟨k, v⟩ := x
      obtain ⟨first, sorted⟩ := List.pairwise_cons.1 sorted
      by_cases same : l = k
      · subst same
        have notLater : (l, e) ∉ rest := fun h => lt_irrefl _ (first (l, e) h)
        simp [notLater, eq_comm]
      · have apart : (l == k) = false := by simpa using same
        simp [List.lookup_cons, apart, same, ih sorted]

namespace Sound

theorem mem_iff (sound : tree.Sound) {e : Entry} : (l, e) ∈ tree.entries ↔ l ≠ [] ∧ tree.find? l = some e := by
  rw [← lookup_eq_some_iff sound.sorted, find?]
  constructor
  · intro h
    have rooted := sound.rooted (l, e) ((lookup_eq_some_iff sound.sorted).1 h)
    exact ⟨rooted, by rwa [if_neg rooted]⟩
  · rintro ⟨rooted, h⟩
    rwa [if_neg rooted] at h

theorem name (sound : tree.Sound) {e : Entry} {part : Text} (h : tree.find? l = some e) (hp : part ∈ l) :
    IsName part :=
  sound.named (l, e) (sound.mem_iff.2 ⟨List.ne_nil_of_mem hp, h⟩) part hp

theorem directory_of_below (sound : tree.Sound) {names : List Text} {e : Entry} (nonempty : names ≠ [])
    (h : tree.find? (l ++ names) = some e) : tree.find? l = some .directory := by
  induction names using List.reverseRecOn generalizing e with
  | nil => exact absurd rfl nonempty
  | append_singleton names part ih =>
      rw [← List.append_assoc] at h
      have parent := sound.closed _ _ _ h
      by_cases last : names = []
      · simpa [last] using parent
      · exact ih last parent

theorem ext (sound : tree.Sound) (sound' : tree'.Sound) (same : ∀ l, tree.find? l = tree'.find? l) : tree = tree' := by
  obtain ⟨entries⟩ := tree
  obtain ⟨entries'⟩ := tree'
  congr 1
  have trans : ∀ a b c : Location × Entry, a.1 < b.1 → b.1 < c.1 → a.1 < c.1 := fun _ _ _ => lt_trans
  have irrefl : Std.Irrefl fun a b : Location × Entry => a.1 < b.1 := ⟨fun _ => lt_irrefl _⟩
  have antisymm : Std.Antisymm fun a b : Location × Entry => a.1 < b.1 := ⟨fun _ _ h h' => absurd h' (lt_asymm h)⟩
  refine sound.sorted.eq_of_mem_iff sound'.sorted ?_
  rintro ⟨l, e⟩
  rw [sound.mem_iff, sound'.mem_iff, same]

end Sound

theorem sound_iff : tree.Sound ↔ (tree.entries.Pairwise fun a b => a.1 < b.1) ∧ ∀ e ∈ tree.entries,
    e.1 ≠ [] ∧ (∀ part ∈ e.1, IsName part) ∧ tree.find? e.1.dropLast = some .directory := by
  constructor
  · intro sound
    refine ⟨sound.sorted, fun ⟨l, e⟩ member => ⟨sound.rooted _ member, sound.named _ member, ?_⟩⟩
    obtain ⟨rooted, found⟩ := sound.mem_iff.1 member
    rw [← List.dropLast_append_getLast rooted] at found
    exact sound.closed _ _ _ found
  · rintro ⟨sorted, proper⟩
    refine ⟨sorted, fun e member => (proper e member).1, fun e member =>
      (proper e member).2.1, fun l part e found => ?_⟩
    have member : (l ++ [part], e) ∈ tree.entries := by
      rw [← lookup_eq_some_iff sorted]
      simpa [find?] using found
    simpa using (proper _ member).2.2

instance (tree : FileTree) : Decidable tree.Sound := decidable_of_iff _ sound_iff.symm

theorem mem_putIn {e : Entry} {entries : List (Location × Entry)} {x : Location × Entry}
    (h : x ∈ putIn l e entries) : x = (l, e) ∨ x ∈ entries := by
  induction entries with
  | nil => exact .inl (by simpa [putIn] using h)
  | cons y rest ih =>
      obtain ⟨k, v⟩ := y
      unfold putIn at h
      split at h
      · exact (List.mem_cons.1 h).imp_right (List.mem_cons_of_mem _)
      · split at h
        · exact List.mem_cons.1 h
        · rcases List.mem_cons.1 h with here | later
          · exact .inr (here ▸ List.mem_cons_self)
          · exact (ih later).imp_right (List.mem_cons_of_mem _)

theorem sorted_putIn (l : Location) (e : Entry) {entries : List (Location × Entry)}
    (sorted : entries.Pairwise fun a b => a.1 < b.1) :
    (putIn l e entries).Pairwise fun a b => a.1 < b.1 := by
  induction entries with
  | nil => simp [putIn]
  | cons y rest ih =>
      obtain ⟨k, v⟩ := y
      obtain ⟨first, later⟩ := List.pairwise_cons.1 sorted
      unfold putIn
      split
      · rename_i same
        subst same
        exact List.pairwise_cons.2 ⟨first, later⟩
      · rename_i apart
        split
        · rename_i before
          have less : l < k := lt_of_le_of_ne (not_lt.1 (Location.le_iff.1 before)) (Ne.symm apart)
          refine List.pairwise_cons.2 ⟨fun x hx => ?_, sorted⟩
          rcases List.mem_cons.1 hx with rfl | hx
          · exact less
          · exact less.trans (first x hx)
        · rename_i behind
          have less : k < l := not_not.1 (behind ∘ Location.le_iff.2)
          refine List.pairwise_cons.2 ⟨fun x hx => ?_, ih later⟩
          rcases mem_putIn hx with rfl | hx
          · exact less
          · exact first x hx

theorem find?_append_of_not_directory (sound : tree.Sound) (file : tree.find? l ≠ some .directory)
    {names : List Text} (nonempty : names ≠ []) : tree.find? (l ++ names) = none := by
  cases found : tree.find? (l ++ names) with
  | none => rfl
  | some e => exact absurd (sound.directory_of_below nonempty found) file

theorem Sound.put (sound : tree.Sound) {part : Text} {e : Entry} (parent : tree.find? l = some .directory)
    (named : IsName part) (free : tree.find? (l ++ [part]) ≠ some .directory ∨ e = .directory) :
    (tree.put (l ++ [part]) e).Sound where
  sorted := sorted_putIn _ _ sound.sorted
  rooted := by
    intro x hx
    rcases mem_putIn hx with rfl | hx
    · simp
    · exact sound.rooted x hx
  named := by
    intro x hx q hq
    rcases mem_putIn hx with rfl | hx
    · rcases List.mem_append.1 hq with above | last
      · exact sound.name parent above
      · exact List.mem_singleton.1 last ▸ named
    · exact sound.named x hx q hq
  closed := by
    intro l' q e' h
    have below : tree.find? l' = some .directory := by
      rw [find?_put _ _ _ _ (by simp)] at h
      split at h
      · rename_i same
        rw [(List.append_inj' same rfl).1]
        exact parent
      · exact sound.closed l' q e' h
    by_cases rooted : l' = []
    · subst rooted
      exact find?_root _
    · rw [find?_put _ _ _ _ rooted]
      split
      · rename_i same
        subst same
        rcases free with free | rfl
        · exact absurd below free
        · rfl
      · exact below

theorem Sound.remove (sound : tree.Sound) (l : Location) : (tree.remove l).Sound where
  sorted := sound.sorted.sublist List.filter_sublist
  rooted := fun x hx => sound.rooted x (List.mem_of_mem_filter hx)
  named := fun x hx => sound.named x (List.mem_of_mem_filter hx)
  closed := by
    intro l' q e h
    rw [find?_remove _ _ _ (by simp)] at h
    split at h
    · cases h
    · have below := sound.closed l' q e h
      by_cases rooted : l' = []
      · subst rooted
        exact find?_root _
      · rename_i apart
        rw [find?_remove _ _ _ rooted, if_neg, below]
        intro start
        rw [List.isPrefixOf_iff_prefix] at start apart
        exact apart (start.trans (List.prefix_append _ _))

theorem find?_remove_file (sound : tree.Sound) (file : tree.find? l ≠ some .directory) {l' : Location}
    (other : l' ≠ l) : (tree.remove l).find? l' = tree.find? l' := by
  by_cases rooted : l' = []
  · simp [rooted]
  · rw [find?_remove _ _ _ rooted]
    split
    · rename_i start
      obtain ⟨names, rfl⟩ := List.isPrefixOf_iff_prefix.1 start
      exact (find?_append_of_not_directory sound file (by simpa using other)).symm
    · rfl

theorem nameBelow_iff {k : Location} {part : Text} :
    (match l.isPrefixOf? k with
      | some [name] => some name
      | _ => none) = some part ↔ k = l ++ [part] := by
  rw [eq_comm (a := k), ← List.isPrefixOf?_eq_some_iff_append_eq]
  cases l.isPrefixOf? k with
  | none => simp
  | some rest =>
      cases rest with
      | nil => simp
      | cons name rest => cases rest <;> simp

theorem fileBelow_iff {k : Location} {e : Entry} {names : List Text} {content : List UInt8} {changed : Int} :
    (match l.isPrefixOf? k, e with
      | some (name :: rest), .file content changed => some (name :: rest, content, changed)
      | _, _ => none) = some (names, content, changed) ↔
      names ≠ [] ∧ k = l ++ names ∧ e = .file content changed := by
  rw [eq_comm (a := k), ← List.isPrefixOf?_eq_some_iff_append_eq]
  cases l.isPrefixOf? k with
  | none => simp
  | some rest =>
      cases e with
      | directory => cases rest <;> simp
      | file content' changed' =>
          cases rest with
          | nil => simp +contextual [eq_comm]
          | cons name rest =>
              simp only [Option.some.injEq, Prod.mk.injEq, Entry.file.injEq]
              constructor
              · rintro ⟨rfl, rfl, rfl⟩
                exact ⟨by simp, rfl, rfl, rfl⟩
              · rintro ⟨-, rfl, rfl, rfl⟩
                exact ⟨rfl, rfl, rfl⟩

theorem mem_names (sound : tree.Sound) {part : Text} : part ∈ tree.names l ↔ (tree.find? (l ++ [part])).isSome := by
  rw [names, List.mem_filterMap, Option.isSome_iff_exists]
  constructor
  · rintro ⟨⟨k, e⟩, member, h⟩
    obtain rfl := nameBelow_iff.1 h
    exact ⟨e, (sound.mem_iff.1 member).2⟩
  · rintro ⟨e, h⟩
    exact ⟨(l ++ [part], e), sound.mem_iff.2 ⟨by simp, h⟩, nameBelow_iff.2 rfl⟩

theorem isName_of_mem_names (sound : tree.Sound) {part : Text} (member : part ∈ tree.names l) : IsName part := by
  obtain ⟨entry, found⟩ := Option.isSome_iff_exists.1 ((mem_names sound).1 member)
  exact sound.name found (by simp)

theorem mem_filesBelow (sound : tree.Sound) {names : List Text} {content : List UInt8} {changed : Int} :
    (names, content, changed) ∈ tree.filesBelow l ↔
      names ≠ [] ∧ tree.find? (l ++ names) = some (.file content changed) := by
  rw [filesBelow, List.mem_filterMap]
  constructor
  · rintro ⟨⟨k, e⟩, member, h⟩
    obtain ⟨nonempty, rfl, rfl⟩ := fileBelow_iff.1 h
    exact ⟨nonempty, (sound.mem_iff.1 member).2⟩
  · rintro ⟨nonempty, h⟩
    exact ⟨_, sound.mem_iff.2 ⟨by simp [nonempty], h⟩, fileBelow_iff.2 ⟨nonempty, rfl, rfl⟩⟩

theorem sorted_filterMap {α : Type} {f : Location × Entry → Option α} {key : α → List Text} (sound : tree.Sound)
    (below : ∀ e a, f e = some a → e.1 = l ++ key a) :
    (tree.entries.filterMap f).Pairwise fun a b => key a < key b := by
  refine List.Pairwise.filterMap f (fun x y less a ha b hb => ?_) sound.sorted
  rw [below x a ha, below y b hb] at less
  by_contra notLess
  rcases lt_or_eq_of_le (not_lt.1 notLess) with greater | same
  · exact lt_asymm less (append_lt_append l greater)
  · rw [same] at less
    exact lt_irrefl _ less

theorem sorted_names (sound : tree.Sound) : (tree.names l).Pairwise (· < ·) := by
  have sorted : (tree.names l).Pairwise fun a b => [a] < [b] :=
    sorted_filterMap sound fun e name h => nameBelow_iff.1 h
  refine sorted.imp fun less => ?_
  simpa using List.cons_lt_cons_iff.1 less

theorem sorted_filesBelow (sound : tree.Sound) : (tree.filesBelow l).Pairwise fun a b => a.1 < b.1 :=
  sorted_filterMap sound fun _ _ h => (fileBelow_iff.1 h).2.1

theorem names_congr (sound : tree.Sound) (sound' : tree'.Sound)
    (same : ∀ part, (tree.find? (l ++ [part])).isSome = (tree'.find? (l ++ [part])).isSome) :
    tree.names l = tree'.names l := by
  refine (sorted_names sound).eq_of_mem_iff (sorted_names sound') fun part => ?_
  rw [mem_names sound, mem_names sound', same]

theorem eq_of_mem_filesBelow {files files' : List (List Text × List UInt8 × Int)}
    (sorted : files.Pairwise fun a b => a.1 < b.1) (sorted' : files'.Pairwise fun a b => a.1 < b.1)
    (same : ∀ f, f ∈ files ↔ f ∈ files') : files = files' := by
  have irrefl : Std.Irrefl fun a b : List Text × List UInt8 × Int => a.1 < b.1 := ⟨fun _ => lt_irrefl _⟩
  have antisymm : Std.Antisymm fun a b : List Text × List UInt8 × Int => a.1 < b.1 :=
    ⟨fun _ _ h h' => absurd h' (lt_asymm h)⟩
  exact sorted.eq_of_mem_iff sorted' same

theorem filesBelow_congr (sound : tree.Sound) (sound' : tree'.Sound)
    (same : ∀ names content changed, names ≠ [] →
      (tree.find? (l ++ names) = some (.file content changed) ↔
        tree'.find? (l ++ names) = some (.file content changed))) :
    tree.filesBelow l = tree'.filesBelow l := by
  refine eq_of_mem_filesBelow (sorted_filesBelow sound) (sorted_filesBelow sound') ?_
  rintro ⟨names, content, changed⟩
  rw [mem_filesBelow sound, mem_filesBelow sound']
  exact and_congr_right (same names content changed)

def filesFrom (tree : FileTree) (l : Location) (part : Text) : List (List Text × List UInt8 × Int) :=
  match tree.find? (l ++ [part]) with
  | some (.file content changed) => [([part], content, changed)]
  | _ => (tree.filesBelow (l ++ [part])).map fun f => (part :: f.1, f.2)

theorem mem_filesFrom (sound : tree.Sound) {part : Text} {names : List Text} {content : List UInt8} {changed : Int} :
    (names, content, changed) ∈ tree.filesFrom l part ↔
      ∃ rest, names = part :: rest ∧ tree.find? (l ++ part :: rest) = some (.file content changed) := by
  have deeper (rest : List Text) : l ++ part :: rest = (l ++ [part]) ++ rest := by simp
  unfold filesFrom
  split
  · rename_i content' changed' found
    constructor
    · intro h
      obtain ⟨rfl, rfl, rfl⟩ : names = [part] ∧ content = content' ∧ changed = changed' := by simpa using h
      exact ⟨[], rfl, found⟩
    · rintro ⟨rest, rfl, h⟩
      by_cases last : rest = []
      · subst last
        rw [found] at h
        cases h
        simp
      · rw [deeper, find?_append_of_not_directory sound (by simp [found]) last] at h
        cases h
  · rename_i notFile
    rw [List.mem_map]
    constructor
    · rintro ⟨⟨rest, c, t⟩, member, same⟩
      cases same
      exact ⟨rest, rfl, by rw [deeper]; exact ((mem_filesBelow sound).1 member).2⟩
    · rintro ⟨rest, rfl, h⟩
      refine ⟨(rest, content, changed), (mem_filesBelow sound).2 ⟨?_, deeper rest ▸ h⟩, rfl⟩
      rintro rfl
      exact notFile _ _ h

theorem filesBelow_eq_flatMap (sound : tree.Sound) : tree.filesBelow l = (tree.names l).flatMap (tree.filesFrom l) := by
  refine eq_of_mem_filesBelow (sorted_filesBelow sound) ?_ ?_
  · rw [List.pairwise_flatMap]
    constructor
    · intro part _
      unfold filesFrom
      split
      · exact List.pairwise_singleton _ _
      · rw [List.pairwise_map]
        exact (sorted_filesBelow sound).imp fun less => List.cons_lt_cons_iff.2 (.inr ⟨rfl, less⟩)
    · refine (sorted_names sound).imp fun {part part'} less => ?_
      rintro ⟨names, content, changed⟩ h ⟨names', content', changed'⟩ h'
      obtain ⟨rest, rfl, -⟩ := (mem_filesFrom sound).1 h
      obtain ⟨rest', rfl, -⟩ := (mem_filesFrom sound).1 h'
      exact List.cons_lt_cons_iff.2 (.inl less)
  · rintro ⟨names, content, changed⟩
    rw [mem_filesBelow sound, List.mem_flatMap]
    constructor
    · rintro ⟨nonempty, h⟩
      obtain ⟨part, rest, rfl⟩ := List.exists_cons_of_ne_nil nonempty
      refine ⟨part, (mem_names sound).2 ?_, (mem_filesFrom sound).2 ⟨rest, rfl, h⟩⟩
      by_cases last : rest = []
      · simp [last ▸ h]
      · rw [sound.directory_of_below last (by simpa using h)]
        rfl
    · rintro ⟨part, -, h⟩
      obtain ⟨rest, rfl, found⟩ := (mem_filesFrom sound).1 h
      exact ⟨by simp, found⟩

end FileTree
end PageComposer

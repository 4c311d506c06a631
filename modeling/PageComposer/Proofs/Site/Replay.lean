import PageComposer.Proofs.Site.Plan

/-!
# Runs side by side

What is published is written at or below one location (`Published`). A second run that begins where a first one has
ended does step by step what the first one did, onto entries of the same kinds (`Replays`), so that it ends with the
same contents (`Settles`). An action that writes one file at most is such an action if it writes the same again
(`Stores.replays`).
-/

namespace PageComposer

open FileTree Workspace

namespace Site

structure Published (out : Location) (w w' : Workspace) : Prop where
  here : w'.here = w.here
  grows : w.tree.Grows w'.tree
  apart : ∀ l, ¬out <+: l → w'.tree.find? l = w.tree.find? l
  sound : w.Sound → w'.Sound

variable {out l : Location} {w t s : Workspace} {final : FileTree}

theorem Published.of_sameFiles {w' : Workspace} (files : w.SameFiles w') : Published out w w' where
  here := files.here
  grows := .of_kinds fun _ => by rw [files.tree]
  apart := fun _ _ => by rw [files.tree]
  sound := fun sound => sound.of_sameFiles files

instance : IsPreorder Workspace (Published out) where
  refl _ := .of_sameFiles (refl_of _ _)
  trans _ _ _ h h' :=
    ⟨h'.here.trans h.here, h.grows.trans h'.grows, fun l apart => (h'.apart l apart).trans (h.apart l apart),
      fun sound => h'.sound (h.sound sound)⟩

/-- A second run beside a first one that will end with the final tree. -/
structure Beside (out : Location) (final : FileTree) (t s : Workspace) : Prop where
  here : s.here = t.here
  sound : t.Sound
  sound' : s.Sound
  kinds : ∀ l, s.tree.kind? l = final.kind? l
  apart : ∀ l, ¬out <+: l → s.tree.find? l = t.tree.find? l
  content : ∀ l, s.tree.content? l = final.content? l ∨ s.tree.content? l = t.tree.content? l

theorem Beside.grows (beside : Beside out final t s) (grows : t.tree.Grows final) : t.tree.Grows s.tree :=
  fun l k kind => by
    rw [beside.kinds]
    exact grows l k kind

theorem Beside.of_sameFiles {t' s' : Workspace} (beside : Beside out final t s) (files : t.SameFiles t')
    (files' : s.SameFiles s') : Beside out final t' s' where
  here := by rw [files'.here, files.here, beside.here]
  sound := beside.sound.of_sameFiles files
  sound' := beside.sound'.of_sameFiles files'
  kinds := fun l => by rw [files'.tree, beside.kinds]
  apart := fun l apart => by rw [files'.tree, files.tree, beside.apart l apart]
  content := fun l => by
    rw [files'.tree, files.tree]
    exact beside.content l

theorem Beside.contents (beside : Beside out t.tree t s) (l : Location) : s.tree.content? l = t.tree.content? l := by
  rcases beside.content l with content | content
  · exact content
  · exact content

/-- An action that publishes, and does the same again beside a first run. -/
structure Replays {α : Type} (out : Location) (t : Workspace) (x : Action α) : Prop where
  published : Published out t (t.after x)
  ok : ∀ a, t.outcome x = .ok a → ∀ final s, Beside out final t s → (t.after x).tree.Grows final →
    s.outcome x = .ok a ∧ Beside out final (t.after x) (s.after x)
  failed : ∀ e, t.outcome x = .error e → ∀ s, Beside out (t.after x).tree t s →
    (∃ e', s.outcome x = .error e') ∧ ∀ l, (s.after x).tree.content? l = (t.after x).tree.content? l

structure Settles {α : Type} (out : Location) (t : Workspace) (x : Action α) : Prop where
  published : Published out t (t.after x)
  ok : ∀ a, t.outcome x = .ok a → ∀ s, Beside out (t.after x).tree t s →
    s.outcome x = .ok a ∧ Beside out (t.after x).tree (t.after x) (s.after x)
  failed : ∀ e, t.outcome x = .error e → ∀ s, Beside out (t.after x).tree t s →
    ∀ l, (s.after x).tree.content? l = (t.after x).tree.content? l

theorem Settles.contents {α : Type} {x : Action α} (h : Settles out t x) (beside : Beside out (t.after x).tree t s)
    (l : Location) :
    (s.after x).tree.content? l = (t.after x).tree.content? l := by
  cases done : t.outcome x with
  | error e => exact h.failed e done s beside l
  | ok a => exact (h.ok a done s beside).2.contents l

namespace Replays
variable {α β : Type} {x : Action α} {f : α → Action β}

theorem of_reads (reads : Reads x)
    (same : ∀ final s, Beside out final t s → t.tree.Grows final → s.outcome x = t.outcome x) : Replays out t x where
  published := .of_sameFiles (reads.keeps t)
  ok a done final s beside grows := by
    rw [(reads.keeps t).tree] at grows
    exact ⟨(same final s beside grows).trans done, beside.of_sameFiles (reads.keeps t) (reads.keeps s)⟩
  failed e refused s beside := by
    rw [(reads.keeps t).tree] at beside ⊢
    refine ⟨⟨e, (same _ s beside (.refl _)).trans refused⟩, fun l => ?_⟩
    rw [(reads.keeps s).tree]
    exact beside.contents l

theorem of_fileless (h : Fileless x) : Replays out t x :=
  .of_reads h.reads fun _ s _ _ => h.same t s

theorem bind (first : Replays out t x) (next : ∀ a, t.outcome x = .ok a → Replays out (t.after x) (f a)) :
    Replays out t (x >>= f) where
  published := related_bind first.published fun a done => (next a done).published
  ok b done final s beside grows := by
    obtain ⟨a, done, doneNext⟩ := outcome_bind_eq_ok.1 done
    rw [after_bind_of_ok done] at grows ⊢
    obtain ⟨done', beside⟩ := first.ok a done final s beside ((next a done).published.grows.trans grows)
    rw [outcome_bind_of_ok done', after_bind_of_ok done']
    exact (next a done).ok b doneNext final _ beside grows
  failed e refused s beside := by
    rcases outcome_bind_eq_error.1 refused with refused | ⟨a, done, refused⟩
    · rw [after_bind_of_error refused] at beside ⊢
      obtain ⟨⟨e', refused'⟩, contents⟩ := first.failed e refused s beside
      rw [outcome_bind_of_error refused', after_bind_of_error refused']
      exact ⟨⟨e', rfl⟩, contents⟩
    · rw [after_bind_of_ok done] at beside ⊢
      obtain ⟨done', beside⟩ := first.ok a done _ s beside (next a done).published.grows
      rw [outcome_bind_of_ok done', after_bind_of_ok done']
      exact (next a done).failed e refused _ beside

theorem settles (h : Replays out t x) : Settles out t x where
  published := h.published
  ok a done s beside := h.ok a done _ s beside (.refl _)
  failed e refused s beside := (h.failed e refused s beside).2

theorem bind_settles (first : Replays out t x) (next : ∀ a, t.outcome x = .ok a → Settles out (t.after x) (f a)) :
    Settles out t (x >>= f) where
  published := related_bind first.published fun a done => (next a done).published
  ok b done s beside := by
    obtain ⟨a, done, doneNext⟩ := outcome_bind_eq_ok.1 done
    rw [after_bind_of_ok done] at beside ⊢
    obtain ⟨done', beside⟩ := first.ok a done _ s beside (next a done).published.grows
    rw [outcome_bind_of_ok done', after_bind_of_ok done']
    exact (next a done).ok b doneNext _ beside
  failed e refused s beside l := by
    rcases outcome_bind_eq_error.1 refused with refused | ⟨a, done, refused⟩
    · rw [after_bind_of_error refused] at beside ⊢
      obtain ⟨⟨e', refused'⟩, contents⟩ := first.failed e refused s beside
      rw [after_bind_of_error refused']
      exact contents l
    · rw [after_bind_of_ok done] at beside ⊢
      obtain ⟨done', beside⟩ := first.ok a done _ s beside (next a done).published.grows
      rw [after_bind_of_ok done']
      exact (next a done).failed e refused _ beside l

end Replays

structure Stores (out : Location) (t : Workspace) (x : Action Unit)
    (Writes : Workspace → Location → List UInt8 → Prop) :
    Prop where
  cases : ∀ w : Workspace, (∃ l content changed, Writes w l content ∧ w.outcome x = .ok () ∧
      (w.after x).SameFiles (w.put l (.file content changed))) ∨
    ((∀ l content, ¬Writes w l content) ∧ (∃ e, w.outcome x = .error e) ∧ w.after x = w)
  unique : ∀ w l l' content content', Writes w l content → Writes w l' content' → l' = l ∧ content' = content
  place : ∀ w l content, Writes w l content → w.here = t.here → out <+: l ∧ w.tree.find? l ≠ some .directory ∧
    (w.Sound → ∀ changed, (w.put l (.file content changed)).Sound)
  again : ∀ final s l content, Beside out final t s → t.tree.Grows final → final.kind? l = some false →
    Writes t l content → Writes s l content
  back : ∀ s l content, Beside out t.tree t s → Writes s l content → Writes t l content

theorem published_put {content : List UInt8} {changed : Int} {w' : Workspace} (inside : out <+: l)
    (free : w.tree.find? l ≠ some .directory) (sound : w.Sound → (w.put l (.file content changed)).Sound)
    (files : w'.SameFiles (w.put l (.file content changed))) : Published out w w' := by
  have rooted : l ≠ [] := by
    rintro rfl
    exact free (find?_root _)
  have tree : w'.tree = w.tree.put l (.file content changed) := files.tree.symm
  refine ⟨files.here.symm, ?_, fun m apart => ?_, fun h => (sound h).of_sameFiles files.symm⟩
  · rw [tree]
    refine grows_put rooted fun k kind => ?_
    cases k with
    | false => rfl
    | true => exact absurd (kind?_eq_true.1 kind) free
  · rw [tree]
    by_cases top : m = []
    · subst top
      simp
    · rw [find?_put _ _ _ _ top, if_neg]
      rintro rfl
      exact apart inside

theorem Beside.put {content : List UInt8} {changed changed' : Int} {t' s' : Workspace} (beside : Beside out final t s)
    (inside : out <+: l) (rooted : l ≠ []) (sound : (t.put l (.file content changed)).Sound)
    (sound' : (s.put l (.file content changed')).Sound) (kind : final.kind? l = some false)
    (files : t'.SameFiles (t.put l (.file content changed)))
    (files' : s'.SameFiles (s.put l (.file content changed'))) :
    Beside out final t' s' := by
  refine Beside.of_sameFiles (t := t.put l (.file content changed)) (s :=
    s.put l (.file content changed')) ?_ files.symm
    files'.symm
  refine ⟨beside.here, sound, sound', fun m => ?_, fun m apart => ?_, fun m => ?_⟩
  · rw [tree_put, kind?_put rooted]
    split
    · rename_i same
      rw [same, kind]
      rfl
    · exact beside.kinds m
  · by_cases top : m = []
    · subst top
      simp
    · have other : m ≠ l := by
        rintro rfl
        exact apart inside
      rw [tree_put, tree_put, find?_put _ _ _ _ top, find?_put _ _ _ _ top, if_neg other, if_neg other]
      exact beside.apart m apart
  · rw [tree_put, tree_put, content?_put rooted, content?_put rooted]
    split
    · exact .inr rfl
    · exact beside.content m

theorem Stores.replays {x : Action Unit} {Writes : Workspace → Location → List UInt8 → Prop}
    (stores : Stores out t x Writes) : Replays out t x := by
  rcases stores.cases t with ⟨l, content, changed, writes, done, files⟩ | ⟨noWrites, ⟨e, refused⟩, run⟩
  · obtain ⟨inside, free, sound⟩ := stores.place t l content writes rfl
    have rooted : l ≠ [] := by
      rintro rfl
      exact free (find?_root _)
    refine ⟨published_put inside free (fun h => sound h changed) files, fun u _ final s beside grows => ?_,
      fun e refused => ?_⟩
    · have kind : final.kind? l = some false := by
        refine grows l false ?_
        rw [← files.tree, tree_put, kind?_put rooted, if_pos rfl]
        rfl
      have published := published_put inside free (fun h => sound h changed) files
      have writesAgain := stores.again final s l content beside (published.grows.trans grows) kind writes
      rcases stores.cases s with ⟨l', content', changed', writes', done', files'⟩ | ⟨noWrites, -, -⟩
      · obtain ⟨rfl, rfl⟩ := stores.unique s _ _ _ _ writesAgain writes'
        obtain ⟨-, -, sound'⟩ := stores.place s _ _ writes' beside.here
        exact ⟨done', beside.put inside rooted (sound beside.sound _) (sound' beside.sound' _) kind files files'⟩
      · exact absurd writesAgain (noWrites l content)
    · rw [done] at refused
      cases refused
  · refine ⟨by rw [run]; exact refl_of _ t, fun u done => ?_, fun e' _ s beside => ?_⟩
    · rw [refused] at done
      cases done
    · rw [run] at beside ⊢
      rcases stores.cases s with ⟨l, content, changed, writes, -, -⟩ | ⟨-, refused', run'⟩
      · exact absurd (stores.back s l content beside writes) (noWrites l content)
      · refine ⟨refused', fun l => ?_⟩
        rw [run']
        exact beside.contents l

theorem stores_writeText {p : Path} (text : Text) (proper : p.Proper) (inside : out <+: p.resolve t.here) :
    Stores out t (Files.writeText p text) fun w l content => w.tree.Accepts w.here p l ∧
      content = Utf8.encode text where
  cases w := by
    rcases Files.writeText_cases w p text with ⟨l, changed, accepts, done, files⟩ | ⟨refuses, refused, run⟩
    · exact .inl ⟨l, _, changed, ⟨accepts, rfl⟩, done, files⟩
    · exact .inr ⟨fun l content writes => refuses l writes.1, refused, run⟩
  unique _ _ _ _ _ writes writes' := ⟨writes.1.unique writes'.1, writes'.2.trans writes.2.symm⟩
  place w l content writes here := by
    refine ⟨?_, writes.1.free, fun sound changed => Accepts.sound_put writes.1 sound proper⟩
    rw [resolve_of_locate writes.1.located, here]
    exact inside
  again final s l content beside grows kind writes := by
    refine ⟨?_, writes.2⟩
    rw [beside.here]
    refine writes.1.mono (beside.grows grows).directories fun directory => ?_
    rw [← kind?_eq_true, beside.kinds, kind] at directory
    cases directory
  back s l content beside writes := by
    rw [beside.here] at writes
    exact ⟨(Accepts.congr beside.kinds).1 writes.1, writes.2⟩

theorem stores_copy {source target : Path} (proper : target.Proper) (named : IsName source.name)
    (elsewhere : ¬out <+: source.resolve t.here) (inside : out <+: target.resolve t.here) :
    Stores out t (Files.copy source target) fun w l content =>
      ∃ changed, w.tree.Copies w.here source target l content changed where
  cases w := by
    rcases Files.copy_cases w source target with ⟨l, content, changed, copies, done, files⟩ | ⟨noCopies, refused, run⟩
    · exact .inl ⟨l, content, changed, ⟨changed, copies⟩, done, files⟩
    · exact .inr ⟨fun l content ⟨changed, copies⟩ => noCopies l content changed copies, refused, run⟩
  unique := by
    rintro w l l' content content' ⟨changed, copies⟩ ⟨changed', copies'⟩
    exact copies.unique copies'
  place := by
    rintro w l content ⟨changed, copies⟩ here
    refine ⟨?_, copies.accepts.free, fun sound _ =>
      Accepts.sound_put copies.accepts sound (proper_receiver proper named)⟩
    rcases copies.lands named with ⟨-, rfl⟩ | ⟨-, rfl⟩
    · exact here ▸ inside
    · exact (here ▸ inside).trans (List.prefix_append _ _)
  again := by
    rintro final s l content beside grows kind ⟨changed, copies⟩
    refine ⟨changed, beside.here ▸ copies.mono (beside.grows grows).directories (beside.apart _ elsewhere) ?_⟩
    intro directory
    rw [← kind?_eq_true, beside.kinds, kind] at directory
    cases directory
  back := by
    rintro s l content beside ⟨changed, copies⟩
    rw [beside.here] at copies
    exact ⟨changed, copies.congr beside.kinds (beside.apart _ elsewhere).symm⟩

end Site
end PageComposer

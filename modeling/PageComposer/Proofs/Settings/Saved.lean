import PageComposer.Proofs.Settings.Written
import PageComposer.Proofs.Workspace.Storing

/-!
# Saved settings

What has been written to a path is found there (`stat_of_written`), so settings that have been saved can be loaded from
where they are (`load_of_saved`). Whether they can be saved depends on the path alone (`outcome_save_iff`).
-/

namespace PageComposer

namespace Storage
open FileTree Workspace
variable {w : Workspace} {p : Path} {content : List UInt8}

theorem outcome_writeFile_iff :
    w.outcome (writeFile p content) = .ok () ↔ ∃ l, w.tree.Accepts w.here p l := by
  unfold writeFile
  rw [outcome_bind_eq_ok]
  constructor
  · rintro ⟨l, asked, -⟩
    exact ⟨l, writable_iff.1 asked⟩
  · rintro ⟨l, accepts⟩
    exact ⟨l, writable_iff.2 accepts, rfl⟩

theorem stat_of_written (done : w.outcome (writeFile p content) = .ok ()) :
    ∃ l changed, (w.after (writeFile p content)).tree.stat (w.after (writeFile p content)).here p =
      .ok (l, .file content changed) := by
  obtain ⟨l, accepts⟩ := outcome_writeFile_iff.1 done
  have rooted : l ≠ [] := by
    rintro rfl
    exact accepts.free (find?_root _)
  have grows : w.tree.Grows (w.tree.put l (.file content w.clock)) := by
    refine grows_put rooted fun k kind => ?_
    cases k with
    | false => rfl
    | true => exact absurd (kind?_eq_true.1 kind) accepts.free
  have stored : w.after (writeFile p content) =
      { w with tree := w.tree.put l (.file content w.clock), clock := w.clock + 1 } := by
    unfold writeFile
    rw [after_bind_of_ok (writable_iff.2 accepts), after_writable]
    rfl
  refine ⟨l, w.clock, ?_⟩
  rw [stored]
  exact stat_eq_ok.2 ⟨grows.directories.locate_ok accepts.located, by rw [find?_put _ _ _ _ rooted, if_pos rfl]⟩

end Storage

namespace Settings
open FileTree Workspace
variable {w : Workspace} {s : Settings} {p : Path} {directory : Path}

theorem outcome_save_iff : w.outcome (s.save p) = .ok () ↔
    w.outcome (Storage.ensureDirectory p.parent) = .ok () ∧
      ∃ l, (w.after (Storage.ensureDirectory p.parent)).tree.Accepts
        (w.after (Storage.ensureDirectory p.parent)).here p l := by
  unfold save
  rw [outcome_bind_eq_ok]
  simp only [outcome_storage_eq_ok, after_storage, Storage.outcome_writeFile_iff]
  exact ⟨fun ⟨_, made, accepts⟩ => ⟨made, accepts⟩, fun ⟨made, accepts⟩ => ⟨(), made, accepts⟩⟩

theorem load_of_stat {l : Location} {content : List UInt8} {changed : Int}
    (found : w.tree.stat w.here p = .ok (l, .file content changed)) (directory : Path) :
    w.outcome (load (some p) directory) = ofContent p.toText content ∧ w.after (load (some p) directory) = w := by
  have located := resolve_of_locate (stat_eq_ok.1 found).1
  have present : w.outcome (Action.isPresent p) = .ok true := by
    rw [outcome_isPresent, probe, found]
    rfl
  have content' : w.outcome (Action.storage (unreadable p) (Storage.readFile p)) = .ok (content, changed) :=
    outcome_storage_eq_ok.2 (Files.readFile_iff.2 (located ▸ found))
  unfold load
  dsimp only
  rw [outcome_bind_of_ok present, after_bind_of_ok present, after_isPresent, if_pos rfl]
  unfold read
  rw [outcome_bind_of_ok content', after_bind_of_ok content', after_storage, Files.after_readFile]
  exact ⟨outcome_ofExcept _, after_ofExcept _⟩

/-- Saved settings are loaded as they were. -/
theorem load_of_saved (finite : s.interval.isFinite = true) (positive : s.interval.isPositive = true)
    (saved : w.outcome (s.save p) = .ok ()) (directory : Path) :
    (w.after (s.save p)).outcome (load (some p) directory) = .ok s ∧
      (w.after (s.save p)).after (load (some p) directory) = w.after (s.save p) := by
  unfold save at saved ⊢
  obtain ⟨_, made, written⟩ := outcome_bind_eq_ok.1 saved
  obtain ⟨l, changed, found⟩ := Storage.stat_of_written (outcome_storage_eq_ok.1 written)
  rw [after_bind_of_ok made, after_storage]
  obtain ⟨loaded, kept⟩ := load_of_stat found directory
  exact ⟨loaded.trans (ofContent_write _ finite positive), kept⟩

def odd : Settings where
  directories := ⟨"0x1F".toList, "# it's: null ".toList, [], "d\u00e9j\u00e0\n\tvu".toList⟩
  watch := true
  verbose := false
  interval := ⟨false, 1⟩

theorem load_of_saved_odd :
    let w := Workspace.holding [("conf", none)]
    let p := Path.ofText "conf/site/tessel.yaml".toList
    odd.interval.isFinite = true ∧ odd.interval.isPositive = true ∧ w.outcome (odd.save p) = .ok () ∧
      (w.after (odd.save p)).outcome (load (some p) ⟨[], []⟩) = .ok odd ∧
        (w.after (odd.save p)).after (load (some p) ⟨[], []⟩) = w.after (odd.save p) := by
  have finite : odd.interval.isFinite = true := by decide
  have positive : odd.interval.isPositive = true := by decide
  have saved :
      (Workspace.holding [("conf", none)]).outcome (odd.save (Path.ofText "conf/site/tessel.yaml".toList)) = .ok () :=
    rfl
  exact ⟨finite, positive, saved, load_of_saved finite positive saved ⟨[], []⟩⟩

end Settings
end PageComposer

import Mathlib.Order.Defs.Unbundled
import PageComposer.Proofs.FileTree.Walk
import PageComposer.Workspace

/-!
# Runs of actions

An action leads from a workspace to another one (`after`) and to a result or a failure (`outcome`). `Keeps R x`
says that each run of `x` moves the workspace along `R`, a reflexive and transitive relation; `Reads x` says that
`x` leaves the files alone and that its outcome depends on them only, `Fileless x` that not even they matter.
`FailsOnly P w x` says that each failure that `x` can have in `w` is one of the failures `P`.
-/

namespace PageComposer

namespace Workspace
variable {ε α β : Type} {w : Workspace}

def after (w : Workspace) (x : EStateM ε Workspace α) : Workspace :=
  match x.run w with
  | .ok _ w' => w'
  | .error _ w' => w'

def outcome (w : Workspace) (x : EStateM ε Workspace α) : Except ε α :=
  match x.run w with
  | .ok a _ => .ok a
  | .error e _ => .error e

theorem run_eq_ok {x : EStateM ε Workspace α} {a : α} {w' : Workspace} :
    x.run w = .ok a w' ↔ w.outcome x = .ok a ∧ w.after x = w' := by
  unfold after outcome
  cases x.run w <;> simp

theorem run_eq_error {x : EStateM ε Workspace α} {e : ε} {w' : Workspace} :
    x.run w = .error e w' ↔ w.outcome x = .error e ∧ w.after x = w' := by
  unfold after outcome
  cases x.run w <;> simp

@[simp] theorem after_pure (a : α) : w.after (pure a : EStateM ε Workspace α) = w := rfl

@[simp] theorem outcome_pure (a : α) : w.outcome (pure a : EStateM ε Workspace α) = .ok a := rfl

@[simp] theorem after_throw (e : ε) : w.after (throw e : EStateM ε Workspace α) = w := rfl

@[simp] theorem outcome_throw (e : ε) : w.outcome (throw e : EStateM ε Workspace α) = .error e := rfl

@[simp] theorem after_get : w.after (get : EStateM ε Workspace Workspace) = w := rfl

@[simp] theorem outcome_get : w.outcome (get : EStateM ε Workspace Workspace) = .ok w := rfl

@[simp] theorem after_modify (f : Workspace → Workspace) : w.after (modify f : EStateM ε Workspace Unit) = f w := rfl

@[simp] theorem outcome_modify (f : Workspace → Workspace) :
    w.outcome (modify f : EStateM ε Workspace Unit) = .ok () := rfl

theorem after_bind (x : EStateM ε Workspace α) (f : α → EStateM ε Workspace β) :
    w.after (x >>= f) = match w.outcome x with
      | .ok a => (w.after x).after (f a)
      | .error _ => w.after x := by
  simp only [after, outcome, EStateM.run_bind]
  cases x.run w <;> rfl

theorem outcome_bind (x : EStateM ε Workspace α) (f : α → EStateM ε Workspace β) :
    w.outcome (x >>= f) = match w.outcome x with
      | .ok a => (w.after x).outcome (f a)
      | .error e => .error e := by
  simp only [after, outcome, EStateM.run_bind]
  cases x.run w <;> rfl

variable {x : EStateM ε Workspace α} {f : α → EStateM ε Workspace β} {a : α} {b : β} {e : ε}

theorem after_bind_of_ok (h : w.outcome x = .ok a) : w.after (x >>= f) = (w.after x).after (f a) := by
  rw [after_bind, h]

theorem after_bind_of_error (h : w.outcome x = .error e) : w.after (x >>= f) = w.after x := by
  rw [after_bind, h]

theorem outcome_bind_of_ok (h : w.outcome x = .ok a) : w.outcome (x >>= f) = (w.after x).outcome (f a) := by
  rw [outcome_bind, h]

theorem outcome_bind_of_error (h : w.outcome x = .error e) : w.outcome (x >>= f) = .error e := by
  rw [outcome_bind, h]

theorem outcome_bind_eq_ok :
    w.outcome (x >>= f) = .ok b ↔ ∃ a, w.outcome x = .ok a ∧ (w.after x).outcome (f a) = .ok b := by
  rw [outcome_bind]
  cases w.outcome x <;> simp

theorem outcome_bind_eq_error :
    w.outcome (x >>= f) = .error e ↔
      w.outcome x = .error e ∨ ∃ a, w.outcome x = .ok a ∧ (w.after x).outcome (f a) = .error e := by
  rw [outcome_bind]
  cases w.outcome x <;> simp

theorem related_bind {R : Workspace → Workspace → Prop} [IsPreorder Workspace R] (first : R w (w.after x))
    (next : ∀ a, w.outcome x = .ok a → R (w.after x) ((w.after x).after (f a))) : R w (w.after (x >>= f)) := by
  rw [after_bind]
  cases done : w.outcome x with
  | error e => exact first
  | ok a => exact trans_of R first (next a done)

theorem after_tryCatch (x : EStateM ε Workspace α) (handle : ε → EStateM ε Workspace α) :
    w.after (tryCatch x handle) = match w.outcome x with
      | .ok _ => w.after x
      | .error e => (w.after x).after (handle e) := by
  simp only [after, outcome, EStateM.run, tryCatch, tryCatchThe, MonadExceptOf.tryCatch, EStateM.tryCatch]
  cases x w <;> rfl

theorem outcome_tryCatch (x : EStateM ε Workspace α) (handle : ε → EStateM ε Workspace α) :
    w.outcome (tryCatch x handle) = match w.outcome x with
      | .ok a => .ok a
      | .error e => (w.after x).outcome (handle e) := by
  simp only [after, outcome, EStateM.run, tryCatch, tryCatchThe, MonadExceptOf.tryCatch, EStateM.tryCatch]
  cases x w <;> rfl

@[simp] theorem after_attempt (x : Action α) : w.after (Action.attempt x) = w.after x := by
  simp only [after, Action.attempt, EStateM.run]
  cases x w <;> rfl

@[simp] theorem outcome_attempt (x : Action α) : w.outcome (Action.attempt x) = .ok (w.outcome x) := by
  simp only [outcome, Action.attempt, EStateM.run]
  cases x w <;> rfl

@[simp] theorem after_storage (explain : Refusal → Failure) (x : Storage α) :
    w.after (Action.storage explain x) = w.after x := by
  simp only [after, Action.storage, EStateM.run]
  cases x w <;> rfl

@[simp] theorem outcome_storage (explain : Refusal → Failure) (x : Storage α) :
    w.outcome (Action.storage explain x) = (w.outcome x).mapError explain := by
  simp only [outcome, Action.storage, EStateM.run]
  cases x w <;> rfl

theorem outcome_storage_eq_ok {explain : Refusal → Failure} {x : Storage α} {a : α} :
    w.outcome (Action.storage explain x) = .ok a ↔ w.outcome x = .ok a := by
  rw [outcome_storage]
  cases w.outcome x <;> simp [Except.mapError]

theorem outcome_storage_eq_error {explain : Refusal → Failure} {x : Storage α} {e : Failure} :
    w.outcome (Action.storage explain x) = .error e ↔ ∃ refusal, w.outcome x = .error refusal ∧
      explain refusal = e := by
  rw [outcome_storage]
  cases w.outcome x <;> simp [Except.mapError]

@[simp] theorem after_query (ask : FileTree → Location → Except Refusal α) : w.after (Storage.query ask) = w := by
  rw [Storage.query, after_bind, outcome_get, after_get]
  dsimp only
  cases ask w.tree w.here <;> rfl

@[simp] theorem outcome_query (ask : FileTree → Location → Except Refusal α) :
    w.outcome (Storage.query ask) = ask w.tree w.here := by
  rw [Storage.query, outcome_bind, outcome_get, after_get]
  dsimp only
  cases ask w.tree w.here <;> rfl

theorem after_isPresent (p : Path) : w.after (Action.isPresent p) = w := by
  unfold Action.isPresent Storage.isPresent Storage.probe
  rw [after_storage, after_bind, after_query]
  cases w.outcome (Storage.query fun tree here => tree.probe here p) <;> rfl

theorem outcome_isPresent (p : Path) :
    w.outcome (Action.isPresent p) = ((w.tree.probe w.here p).map Option.isSome).mapError (Action.plainFailure p) := by
  unfold Action.isPresent Storage.isPresent Storage.probe
  rw [outcome_storage, outcome_bind, outcome_query]
  cases w.tree.probe w.here p <;> rfl

@[simp] theorem after_ofExcept (r : Except Failure α) : w.after (Action.ofExcept r) = w := by
  cases r <;> rfl

@[simp] theorem outcome_ofExcept (r : Except Failure α) : w.outcome (Action.ofExcept r) = r := by
  cases r <;> rfl

@[simp] theorem outcome_record (r : Record) : w.outcome (Action.record r) = .ok () := rfl

@[simp] theorem outcome_records (rs : List Record) : w.outcome (rs.forM Action.record) = .ok () := by
  induction rs generalizing w with
  | nil => rfl
  | cons r rs ih =>
      change w.outcome (Action.record r >>= fun _ => rs.forM Action.record) = .ok ()
      rw [outcome_bind, outcome_record]
      exact ih

end Workspace

def Keeps {ε α : Type} (R : Workspace → Workspace → Prop) (x : EStateM ε Workspace α) : Prop :=
  ∀ w : Workspace, R w (w.after x)

namespace Keeps
variable {ε α β : Type} {R : Workspace → Workspace → Prop}

theorem storage {explain : Refusal → Failure} {x : Storage α} (h : Keeps R x) :
    Keeps R (Action.storage explain x) := by
  intro w
  rw [Workspace.after_storage]
  exact h w

theorem attempt {x : Action α} (h : Keeps R x) : Keeps R (Action.attempt x) := by
  intro w
  rw [Workspace.after_attempt]
  exact h w

variable [IsPreorder Workspace R]

theorem pure (a : α) : Keeps R (pure a : EStateM ε Workspace α) := fun w => refl_of R w

theorem throw (e : ε) : Keeps R (throw e : EStateM ε Workspace α) := fun w => refl_of R w

theorem get : Keeps R (get : EStateM ε Workspace Workspace) := fun w => refl_of R w

theorem bind {x : EStateM ε Workspace α} {f : α → EStateM ε Workspace β} (first : Keeps R x)
    (later : ∀ a, Keeps R (f a)) : Keeps R (x >>= f) :=
  fun w => Workspace.related_bind (first w) fun a _ => later a _

theorem tryCatch {x : EStateM ε Workspace α} {handle : ε → EStateM ε Workspace α} (first : Keeps R x)
    (later : ∀ e, Keeps R (handle e)) : Keeps R (tryCatch x handle) := by
  intro w
  rw [Workspace.after_tryCatch]
  cases w.outcome x with
  | ok a => exact first w
  | error e => exact trans_of R (first w) (later e _)

theorem query (ask : FileTree → Location → Except Refusal α) : Keeps R (Storage.query ask) := by
  intro w
  rw [Workspace.after_query]
  exact refl_of R w

theorem ofExcept (r : Except Failure α) : Keeps R (Action.ofExcept r) := by
  intro w
  rw [Workspace.after_ofExcept]
  exact refl_of R w

theorem isDirectory (p : Path) : Keeps R (Action.isDirectory p) :=
  .storage (.bind (.query _) fun _ => .pure _)

theorem readDirectory (p : Path) : Keeps R (Storage.readDirectory p) := by
  refine .bind (.query _) fun (l, entry) => ?_
  cases entry with
  | file content changed => exact .throw _
  | directory => exact .bind .get fun _ => .pure _

end Keeps

namespace Workspace

structure SameFiles (w w' : Workspace) : Prop where
  tree : w'.tree = w.tree
  here : w'.here = w.here

instance : IsPreorder Workspace SameFiles where
  refl _ := ⟨rfl, rfl⟩
  trans _ _ _ h h' := ⟨h'.tree.trans h.tree, h'.here.trans h.here⟩

theorem SameFiles.symm {w w' : Workspace} (h : w.SameFiles w') : w'.SameFiles w := ⟨h.tree.symm, h.here.symm⟩

end Workspace

structure Fileless {ε α : Type} (x : EStateM ε Workspace α) : Prop where
  keeps : Keeps Workspace.SameFiles x
  same : ∀ w w' : Workspace, w'.outcome x = w.outcome x

/-- The files are left alone, and nothing else matters. -/
structure Reads {ε α : Type} (x : EStateM ε Workspace α) : Prop where
  keeps : Keeps Workspace.SameFiles x
  same : ∀ w w' : Workspace, w.SameFiles w' → w'.outcome x = w.outcome x

namespace Fileless
variable {ε α β : Type}

theorem reads {x : EStateM ε Workspace α} (h : Fileless x) : Reads x := ⟨h.keeps, fun w w' _ => h.same w w'⟩

theorem pure (a : α) : Fileless (pure a : EStateM ε Workspace α) := ⟨.pure a, fun _ _ => rfl⟩

theorem throw (e : ε) : Fileless (throw e : EStateM ε Workspace α) := ⟨.throw e, fun _ _ => rfl⟩

theorem ofExcept (r : Except Failure α) : Fileless (Action.ofExcept r) := ⟨.ofExcept r, fun _ _ => by simp⟩

theorem bind {x : EStateM ε Workspace α} {f : α → EStateM ε Workspace β} (first : Fileless x)
    (later : ∀ a, Fileless (f a)) : Fileless (x >>= f) where
  keeps := first.keeps.bind fun a => (later a).keeps
  same := by
    intro w w'
    rw [Workspace.outcome_bind, Workspace.outcome_bind, first.same w w']
    cases w.outcome x with
    | error e => rfl
    | ok a => exact (later a).same _ _

theorem record (r : Record) : Fileless (Action.record r) where
  keeps := by
    intro w
    rw [Action.record, Workspace.after_modify]
    split
    · exact ⟨rfl, rfl⟩
    · exact ⟨rfl, rfl⟩
  same _ _ := rfl

theorem records (rs : List Record) : Fileless (rs.forM Action.record) := by
  induction rs with
  | nil => exact .pure ()
  | cons r rs ih => exact .bind (.record r) fun _ => ih

end Fileless

namespace Reads
variable {ε α β : Type}

theorem pure (a : α) : Reads (pure a : EStateM ε Workspace α) := (Fileless.pure a).reads

theorem throw (e : ε) : Reads (throw e : EStateM ε Workspace α) := (Fileless.throw e).reads

theorem query (ask : FileTree → Location → Except Refusal α) : Reads (Storage.query ask) :=
  ⟨.query ask, fun _ _ files => by simp [files.tree, files.here]⟩

theorem bind {x : EStateM ε Workspace α} {f : α → EStateM ε Workspace β} (first : Reads x)
    (later : ∀ a, Reads (f a)) : Reads (x >>= f) where
  keeps := first.keeps.bind fun a => (later a).keeps
  same := by
    intro w w' files
    rw [Workspace.outcome_bind, Workspace.outcome_bind, first.same w w' files]
    cases w.outcome x with
    | error e => rfl
    | ok a =>
        have before := first.keeps w
        have after := first.keeps w'
        exact (later a).same _ _ (trans_of _ (trans_of _ before.symm files) after)

theorem outcome_after {x : EStateM ε Workspace α} {y : EStateM ε Workspace β} (hx : Reads x) (hy : Reads y)
    (w : Workspace) : (w.after x).outcome y = w.outcome y :=
  hy.same _ _ (hx.keeps w)

theorem outcome_bind {x : EStateM ε Workspace α} {f : α → EStateM ε Workspace β} (first : Reads x)
    (later : ∀ a, Reads (f a)) (w : Workspace) :
    w.outcome (x >>= f) = match w.outcome x with
      | .ok a => w.outcome (f a)
      | .error e => .error e := by
  rw [Workspace.outcome_bind]
  cases w.outcome x with
  | error e => rfl
  | ok a => exact first.outcome_after (later a) w

theorem outcome_bind_eq_ok {x : EStateM ε Workspace α} {f : α → EStateM ε Workspace β} (first : Reads x)
    (later : ∀ a, Reads (f a)) {w : Workspace} {b : β} :
    w.outcome (x >>= f) = .ok b ↔ ∃ a, w.outcome x = .ok a ∧ w.outcome (f a) = .ok b := by
  rw [first.outcome_bind later]
  cases w.outcome x <;> simp

theorem bind_congr {x : EStateM ε Workspace α} {f : α → EStateM ε Workspace β} (first : Reads x)
    (later : ∀ a, Reads (f a)) {w w' : Workspace} (same : w.outcome x = w'.outcome x)
    (sameLater : ∀ a, w.outcome (f a) = w'.outcome (f a)) : w.outcome (x >>= f) = w'.outcome (x >>= f) := by
  rw [first.outcome_bind later, first.outcome_bind later, same]
  cases w'.outcome x with
  | error e => rfl
  | ok a => exact sameLater a

theorem storage {explain : Refusal → Failure} {x : Storage α} (h : Reads x) : Reads (Action.storage explain x) :=
  ⟨h.keeps.storage, fun w w' files => by simp [h.same w w' files]⟩

theorem attempt {x : Action α} (h : Reads x) : Reads (Action.attempt x) :=
  ⟨h.keeps.attempt, fun w w' files => by simp [h.same w w' files]⟩

theorem ite {c : Prop} [Decidable c] {x y : EStateM ε Workspace α} (first : Reads x) (second : Reads y) :
    Reads (if c then x else y) := by
  split
  · exact first
  · exact second

theorem stat (p : Path) : Reads (Storage.stat p) := .query _

theorem isDirectory (p : Path) : Reads (Action.isDirectory p) :=
  .storage (.bind (.query _) fun _ => .pure _)

theorem isPresent (p : Path) : Reads (Action.isPresent p) :=
  .storage (.bind (.query _) fun _ => .pure _)

theorem readFile (p : Path) : Reads (Storage.readFile p) := by
  refine .bind (.stat p) fun (_, entry) => ?_
  cases entry with
  | file content changed => exact .pure _
  | directory => exact .throw _

theorem readDirectory (p : Path) : Reads (Storage.readDirectory p) where
  keeps := .readDirectory p
  same := by
    intro w w' files
    unfold Storage.readDirectory Storage.stat
    rw [Workspace.outcome_bind, Workspace.outcome_bind]
    simp only [Workspace.outcome_query, Workspace.after_query, files.tree, files.here]
    cases w.tree.stat w.here p with
    | error e => rfl
    | ok found =>
        obtain ⟨l, entry⟩ := found
        cases entry with
        | file content changed => rfl
        | directory =>
            dsimp only
            rw [Workspace.outcome_bind, Workspace.outcome_bind]
            simp [files.tree]

end Reads

structure Determined {ε α : Type} (x : EStateM ε Workspace α) : Prop where
  outcome : ∀ w w' : Workspace, w.SameFiles w' → w'.outcome x = w.outcome x
  after : ∀ w w' : Workspace, w.SameFiles w' → (w.after x).SameFiles (w'.after x)

namespace Determined
variable {ε α β : Type}

theorem of_reads {x : EStateM ε Workspace α} (h : Reads x) : Determined x where
  outcome := h.same
  after w w' files := trans_of _ (trans_of _ (h.keeps w).symm files) (h.keeps w')

theorem bind {x : EStateM ε Workspace α} {f : α → EStateM ε Workspace β} (first : Determined x)
    (later : ∀ a, Determined (f a)) : Determined (x >>= f) where
  outcome w w' files := by
    rw [Workspace.outcome_bind, Workspace.outcome_bind, first.outcome w w' files]
    cases w.outcome x with
    | error e => rfl
    | ok a => exact (later a).outcome _ _ (first.after w w' files)
  after w w' files := by
    rw [Workspace.after_bind, Workspace.after_bind, first.outcome w w' files]
    cases w.outcome x with
    | error e => exact first.after w w' files
    | ok a => exact (later a).after _ _ (first.after w w' files)

theorem tryCatch {x : EStateM ε Workspace α} {handle : ε → EStateM ε Workspace α} (first : Determined x)
    (later : ∀ e, Determined (handle e)) : Determined (tryCatch x handle) where
  outcome w w' files := by
    rw [Workspace.outcome_tryCatch, Workspace.outcome_tryCatch, first.outcome w w' files]
    cases w.outcome x with
    | ok a => rfl
    | error e => exact (later e).outcome _ _ (first.after w w' files)
  after w w' files := by
    rw [Workspace.after_tryCatch, Workspace.after_tryCatch, first.outcome w w' files]
    cases w.outcome x with
    | ok a => exact first.after w w' files
    | error e => exact (later e).after _ _ (first.after w w' files)

theorem storage {explain : Refusal → Failure} {x : Storage α} (h : Determined x) :
    Determined (Action.storage explain x) where
  outcome w w' files := by simp [h.outcome w w' files]
  after w w' files := by
    rw [Workspace.after_storage, Workspace.after_storage]
    exact h.after w w' files

end Determined

def FailsOnly {α : Type} (P : Failure → Prop) (w : Workspace) (x : Action α) : Prop := ∀ e, w.outcome x = .error e → P e

namespace FailsOnly
variable {α β : Type} {P : Failure → Prop} {w : Workspace} {x : Action α} {f : α → Action β}

theorem pure (a : α) : FailsOnly P w (pure a : Action α) := fun _ h => nomatch h

theorem throw {e : Failure} (h : P e) : FailsOnly P w (throw e : Action α) := by
  intro e' failed
  cases failed
  exact h

theorem bind (first : FailsOnly P w x) (next : ∀ a, w.outcome x = .ok a → FailsOnly P (w.after x) (f a)) :
    FailsOnly P w (x >>= f) := by
  intro e failed
  rcases Workspace.outcome_bind_eq_error.1 failed with failed | ⟨a, done, failed⟩
  · exact first e failed
  · exact next a done e failed

theorem storage {explain : Refusal → Failure} {x : Storage α} (explained : ∀ r, P (explain r)) :
    FailsOnly P w (Action.storage explain x) := by
  intro e failed
  obtain ⟨r, -, rfl⟩ := Workspace.outcome_storage_eq_error.1 failed
  exact explained r

theorem ofExcept {r : Except Failure α} (h : ∀ e, r = .error e → P e) : FailsOnly P w (Action.ofExcept r) := by
  intro e failed
  rw [Workspace.outcome_ofExcept] at failed
  exact h e failed

theorem attempt (x : Action α) : FailsOnly P w (Action.attempt x) := by
  intro e failed
  rw [Workspace.outcome_attempt] at failed
  cases failed

theorem record (r : Record) : FailsOnly P w (Action.record r) := fun _ h => nomatch h

theorem records (rs : List Record) : FailsOnly P w (rs.forM Action.record) := by
  intro e failed
  rw [Workspace.outcome_records] at failed
  cases failed

end FailsOnly
end PageComposer

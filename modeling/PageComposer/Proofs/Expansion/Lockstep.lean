import PageComposer.Proofs.Expansion.Outcome

/-!
# Two expansions in step

Two expansions of the same text go in step if they look up the same names and go on alike with the answers. A relation
between traced computations that the operations keep (`Lockstep`) therefore relates the expansions of a text as soon
as it relates those of the texts inside it (`Lockstep.resolveText`). Runs that differ in what bounds them are in step
until the bound stops one of them (`SameUnless`); so more room on the call stack makes no other difference.
-/

namespace PageComposer

namespace Traced
variable {α β : Type}

theorem bind_of_ok {x : Traced α} {f : α → Traced β} {a : α} (done : x.outcome = .ok a) :
    x >>= f = ⟨x.trace ++ (f a).trace, (f a).outcome⟩ := by
  change x.andThen f = _
  simp [andThen, done]

theorem bind_of_error {x : Traced α} {f : α → Traced β} {e : ExpansionFault} (failed : x.outcome = .error e) :
    x >>= f = ⟨x.trace, .error e⟩ := by
  change x.andThen f = _
  simp [andThen, failed]

end Traced

namespace Expansion

/-- The operations of an expansion keep a relation between computations with two registries. -/
structure Lockstep (registry other : Registry) (R : ∀ {α : Type}, Traced α → Traced α → Prop) : Prop where
  refl : ∀ {α : Type} (x : Traced α), R x x
  bind : ∀ {α β : Type} {x y : Traced α} {f g : α → Traced β}, R x y → (∀ a, R (f a) (g a)) → R (x >>= f) (y >>= g)
  lookUp : ∀ {α : Type} {name : Text} {x y : Traced α}, (other.find? name = registry.find? name → R x y) →
    R (Traced.emit (.lookedUp name) >>= fun _ => x) (Traced.emit (.lookedUp name) >>= fun _ => y)
  orMissing : ∀ {α : Type} {x y : Traced α}, R x y → R x.orMissing y.orMissing
  between : ∀ {α : Type} {first last : Event} {x y : Traced α}, R x y →
    R (Traced.between first last x) (Traced.between first last y)

namespace Lockstep
variable {registry other : Registry} {R : ∀ {α : Type}, Traced α → Traced α → Prop} (step : Lockstep registry other R)
  {inner innerOther : Place → Text → Traced Text} (deeper : ∀ place text, R (inner place text) (innerOther place text))
include step deeper

theorem resolveTag (place : Place) (progress : Progress) (tag : Text) :
    R (resolveTag registry inner place progress tag) (resolveTag other innerOther place progress tag) := by
  refine step.bind (step.refl _) fun ref => step.lookUp fun answer => ?_
  rw [answer]
  cases registry.find? ref.name with
  | none => exact step.refl _
  | some fragment =>
      dsimp only
      split
      · refine step.bind (step.orMissing (deeper _ _)) fun result => ?_
        cases result <;> exact step.refl _
      · exact step.refl _

theorem resolveTags (place : Place) (progress : Progress) (tags : List Text) :
    R (resolveTags registry inner place progress tags) (resolveTags other innerOther place progress tags) := by
  induction tags generalizing progress with
  | nil => exact step.refl _
  | cons tag tags ih => exact step.bind (step.resolveTag deeper place progress tag) ih

theorem resolveText (place : Place) (text : Text) :
    R (resolveText registry inner place text) (resolveText other innerOther place text) := by
  refine step.bind (step.resolveTags deeper place _ _) fun progress => ?_
  have ended : R (if Tag.occursIn progress.text then inner place.again progress.text else pure progress.text)
      (if Tag.occursIn progress.text then innerOther place.again progress.text else pure progress.text) := by
    split
    · exact deeper _ _
    · exact step.refl _
  dsimp only
  split
  · exact step.bind (step.refl _) fun _ => ended
  · exact ended

end Lockstep

/-- The second computation is the first one again, unless that one ends with a fault of this kind. -/
def SameUnless (stop : ExpansionFault → Prop) {α : Type} (x y : Traced α) : Prop :=
  (∀ e, x.outcome = .error e → ¬stop e) → y = x

namespace SameUnless
variable {α β : Type} {stop : ExpansionFault → Prop}

theorem refl (x : Traced α) : SameUnless stop x x := fun _ => rfl

theorem bind {x y : Traced α} {f g : α → Traced β} (first : SameUnless stop x y)
    (next : ∀ a, SameUnless stop (f a) (g a)) : SameUnless stop (x >>= f) (y >>= g) := by
  intro goes
  cases done : x.outcome with
  | error e =>
      rw [Traced.bind_of_error done] at goes ⊢
      obtain rfl : y = x := first fun e' failed => Except.error.inj (done.symm.trans failed) ▸ goes e rfl
      exact Traced.bind_of_error done
  | ok a =>
      rw [Traced.bind_of_ok done] at goes ⊢
      obtain rfl : y = x := first (by simp [done])
      rw [Traced.bind_of_ok done, next a goes]

theorem orMissing (other : ∀ context missing, ¬stop (.unresolved context missing)) {x y : Traced α}
    (h : SameUnless stop x y) : SameUnless stop x.orMissing y.orMissing := by
  intro goes
  have first : ∀ e, x.outcome = .error e → ¬stop e := by
    intro e failed stopped
    refine goes e ?_ stopped
    rw [Traced.outcome_orMissing, Traced.takeMissing_eq_error]
    refine ⟨failed, ?_⟩
    rintro context missing rfl
    exact other context missing stopped
  rw [h first]

theorem between {first last : Event} {x y : Traced α} (h : SameUnless stop x y) :
    SameUnless stop (Traced.between first last x) (Traced.between first last y) := by
  intro goes
  rw [h goes]

theorem lockstep (registry : Registry) (other : ∀ context missing, ¬stop (.unresolved context missing)) :
    Lockstep registry registry (SameUnless stop) where
  refl := refl
  bind := bind
  lookUp next := bind (refl _) fun _ => next rfl
  orMissing := orMissing other
  between := between

end SameUnless

theorem sameUnless_within_of_stack (registry : Registry) (limit : Int) {stack stack' : Nat} (more : stack ≤ stack')
    (place : Place) (text : Text) :
    SameUnless (· = .outOfStack) (within registry limit stack place text)
    (within registry limit stack' place text) := by
  induction stack generalizing stack' place text with
  | zero => exact fun goes => absurd rfl (goes _ rfl)
  | succ stack ih =>
      obtain ⟨stack', rfl⟩ : ∃ less, stack' = less + 1 := Nat.exists_eq_succ_of_ne_zero (by omega)
      rcases Int.lt_or_le place.depth limit with shallow | deep
      · rw [within_of_lt shallow, within_of_lt shallow]
        have deeper := ih (Nat.le_of_succ_le_succ more)
        exact .between ((SameUnless.lockstep registry (by simp)).resolveText deeper place text)
      · rw [within_of_le deep, within_of_le deep]
        exact .refl _

end Expansion
end PageComposer

import PageComposer.Expansion

/-!
# Traced computations

The outcome of a computation comes from the outcomes of its parts alone, and its trace is put together
from their traces. `Ensures` says of a computation what its trace, its result and its fault satisfy;
the rules for it follow the operations.
-/

namespace PageComposer.Traced
variable {α β : Type}

@[simp] theorem mapError_ok {ε δ : Type} (f : ε → δ) (a : α) :
    (Except.ok a : Except ε α).mapError f = .ok a := rfl

@[simp] theorem mapError_error {ε δ : Type} (f : ε → δ) (e : ε) :
    (Except.error e : Except ε α).mapError f = .error (f e) := rfl

@[simp] theorem outcome_pure (a : α) : (pure a : Traced α).outcome = .ok a := rfl

@[simp] theorem outcome_emit (e : Event) : (emit e).outcome = .ok () := rfl

@[simp] theorem outcome_fail (e : ExpansionFault) : (fail e : Traced α).outcome = .error e := rfl

@[simp] theorem outcome_ofExcept (x : Except ExpansionFault α) : (ofExcept x).outcome = x := rfl

@[simp] theorem outcome_between (first last : Event) (x : Traced α) :
    (between first last x).outcome = x.outcome := rfl

@[simp] theorem outcome_bind (x : Traced α) (f : α → Traced β) :
    (x >>= f).outcome = x.outcome.bind fun a => (f a).outcome := by
  change (x.andThen f).outcome = _
  cases h : x.outcome <;> simp [andThen, Except.bind, h]

/-- Missing components become a result; every other fault stays one. -/
def takeMissing : Except ExpansionFault α → Except ExpansionFault (α ⊕ List Missing)
  | .ok a => .ok (.inl a)
  | .error (.unresolved _ missing) => .ok (.inr missing)
  | .error e => .error e

@[simp] theorem outcome_orMissing (x : Traced α) : x.orMissing.outcome = takeMissing x.outcome := by
  unfold orMissing takeMissing
  cases x.outcome with
  | ok a => rfl
  | error e => cases e <;> rfl

theorem takeMissing_eq_inl {x : Except ExpansionFault α} {a : α} :
    takeMissing x = .ok (.inl a) ↔ x = .ok a := by
  cases x with
  | ok b => simp [takeMissing]
  | error e => cases e <;> simp [takeMissing]

theorem takeMissing_eq_inr {x : Except ExpansionFault α} {missing : List Missing} :
    takeMissing x = .ok (.inr missing) ↔ ∃ context, x = .error (.unresolved context missing) := by
  cases x with
  | ok b => simp [takeMissing]
  | error e => cases e <;> simp [takeMissing]

theorem takeMissing_eq_error {x : Except ExpansionFault α} {e : ExpansionFault} :
    takeMissing x = .error e ↔ x = .error e ∧ ∀ context missing, e ≠ .unresolved context missing := by
  cases x with
  | ok b => simp [takeMissing]
  | error e' => cases e' <;> simp +contextual [takeMissing, eq_comm]

structure Ensures (T : List Event → Prop) (Q : α → Prop) (E : ExpansionFault → Prop)
    (x : Traced α) : Prop where
  trace : T x.trace
  result : ∀ a, x.outcome = .ok a → Q a
  fault : ∀ e, x.outcome = .error e → E e

structure Additive (T : List Event → Prop) : Prop where
  nil : T []
  append : ∀ {s t}, T s → T t → T (s ++ t)

variable {T : List Event → Prop} {Q : α → Prop} {R : β → Prop} {E : ExpansionFault → Prop}

namespace Ensures

theorem pure {a : α} (additive : Additive T) (h : Q a) : Ensures T Q E (pure a) :=
  ⟨additive.nil, fun b hb => by cases hb; exact h, fun _ he => nomatch he⟩

theorem fail {e : ExpansionFault} (additive : Additive T) (h : E e) :
    Ensures T Q E (Traced.fail e) :=
  ⟨additive.nil, fun _ hb => (nomatch hb), fun e' he => by cases he; exact h⟩

theorem emit {e : Event} (h : T [e]) : Ensures T (fun _ => True) E (Traced.emit e) :=
  ⟨h, fun _ _ => trivial, fun _ he => nomatch he⟩

theorem ofExcept {x : Except ExpansionFault α} (additive : Additive T)
    (result : ∀ a, x = .ok a → Q a) (fault : ∀ e, x = .error e → E e) :
    Ensures T Q E (Traced.ofExcept x) :=
  ⟨additive.nil, result, fault⟩

theorem bind {x : Traced α} {f : α → Traced β} (additive : Additive T) (hx : Ensures T Q E x)
    (hf : ∀ a, Q a → Ensures T R E (f a)) : Ensures T R E (x >>= f) := by
  change Ensures T R E (x.andThen f)
  cases h : x.outcome with
  | ok a =>
      have next := hf a (hx.result a h)
      have same : x.andThen f = ⟨x.trace ++ (f a).trace, (f a).outcome⟩ := by simp [andThen, h]
      rw [same]
      exact ⟨additive.append hx.trace next.trace, next.result, next.fault⟩
  | error e =>
      have same : x.andThen f = ⟨x.trace, .error e⟩ := by simp [andThen, h]
      rw [same]
      exact ⟨hx.trace, fun _ hb => (nomatch hb), fun e' he => by cases he; exact hx.fault e h⟩

theorem orMissing {x : Traced α} (hx : Ensures T Q E x) :
    Ensures T (fun r => ∀ a, r = .inl a → Q a) E x.orMissing := by
  have same : x.orMissing = ⟨x.trace, takeMissing x.outcome⟩ := by
    unfold Traced.orMissing takeMissing
    cases x.outcome with
    | ok a => rfl
    | error e => cases e <;> rfl
  rw [same]
  refine ⟨hx.trace, ?_, ?_⟩
  · rintro r hr a rfl
    cases h : x.outcome with
    | ok b =>
        simp only [h, takeMissing, Except.ok.injEq, Sum.inl.injEq] at hr
        exact hr ▸ hx.result b h
    | error e => cases e <;> simp [h, takeMissing] at hr
  · intro e he
    cases h : x.outcome with
    | ok b => simp [h, takeMissing] at he
    | error e' =>
        have kept : e' = e := by cases e' <;> simp_all [takeMissing]
        exact kept ▸ hx.fault e' h

theorem between {U : List Event → Prop} {first last : Event} {x : Traced α}
    (hx : Ensures T Q E x) (around : T x.trace → U (first :: (x.trace ++ [last]))) :
    Ensures U Q E (Traced.between first last x) :=
  ⟨around hx.trace, hx.result, hx.fault⟩

end Ensures
end PageComposer.Traced

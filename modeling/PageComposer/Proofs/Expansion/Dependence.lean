import PageComposer.Proofs.Expansion.Lockstep

/-!
# What an expansion depends on

A registry matters to an expansion only by its answers to the look-ups of the expansion: with another registry that
gives the same answers, everything happens again (`compose_of_agreement`). The look-ups are found in the trace of the
first run, and two runs go in step from one look-up to the next (`Mimics`).
-/

namespace PageComposer

namespace Traced
variable {α β : Type}

theorem mem_trace_bind {x : Traced α} {f : α → Traced β} {e : Event} (member : e ∈ x.trace) : e ∈ (x >>= f).trace := by
  cases done : x.outcome with
  | ok a =>
      rw [bind_of_ok done]
      exact List.mem_append_left _ member
  | error fault =>
      rw [bind_of_error done]
      exact member

theorem trace_orMissing (x : Traced α) : x.orMissing.trace = x.trace := by
  unfold orMissing
  cases x.outcome with
  | ok a => rfl
  | error e => cases e <;> rfl

end Traced

namespace Expansion
variable {α β : Type} {registry other : Registry}

/-- The second computation is the first one again, if the other registry gives the same answers to what the first one
has looked up. -/
def Mimics (registry other : Registry) (x y : Traced α) : Prop :=
  (∀ name, .lookedUp name ∈ x.trace → other.find? name = registry.find? name) → y = x

namespace Mimics

theorem refl (x : Traced α) : Mimics registry other x x := fun _ => rfl

theorem bind {x y : Traced α} {f g : α → Traced β} (first : Mimics registry other x y)
    (next : ∀ a, Mimics registry other (f a) (g a)) : Mimics registry other (x >>= f) (y >>= g) := by
  intro agree
  obtain rfl : y = x := first fun name member => agree name (Traced.mem_trace_bind member)
  cases done : y.outcome with
  | error e => rw [Traced.bind_of_error done, Traced.bind_of_error done]
  | ok a =>
      rw [Traced.bind_of_ok done] at agree
      have same : g a = f a := next a fun name member => agree name (List.mem_append_right _ member)
      rw [Traced.bind_of_ok done, Traced.bind_of_ok done, same]

theorem lookUp {name : Text} {x y : Traced α}
    (next : other.find? name = registry.find? name → Mimics registry other x y) :
    Mimics registry other (Traced.emit (.lookedUp name) >>= fun _ => x)
    (Traced.emit (.lookedUp name) >>= fun _ => y) := by
  intro agree
  have answer : other.find? name = registry.find? name :=
    agree name (Traced.mem_trace_bind (List.mem_singleton_self _))
  exact Mimics.bind (.refl _) (fun _ => next answer) agree

theorem orMissing {x y : Traced α} (h : Mimics registry other x y) : Mimics registry other x.orMissing y.orMissing := by
  intro agree
  rw [Traced.trace_orMissing] at agree
  rw [h agree]

theorem between {first last : Event} {x y : Traced α} (h : Mimics registry other x y) :
    Mimics registry other (Traced.between first last x) (Traced.between first last y) := by
  intro agree
  rw [h fun name member => agree name (List.mem_cons_of_mem _ (List.mem_append_left _ member))]

theorem lockstep (registry other : Registry) : Lockstep registry other (Mimics registry other) where
  refl := refl
  bind := bind
  lookUp := lookUp
  orMissing := orMissing
  between := between

end Mimics

theorem mimics_within (registry other : Registry) (limit : Int) (stack : Nat) (place : Place) (text : Text) :
    Mimics registry other (within registry limit stack place text) (within other limit stack place text) := by
  induction stack generalizing place text with
  | zero => exact .refl _
  | succ stack ih =>
      rcases Int.lt_or_le place.depth limit with shallow | deep
      · rw [within_of_lt shallow, within_of_lt shallow]
        exact .between ((Mimics.lockstep registry other).resolveText ih place text)
      · rw [within_of_le deep, within_of_le deep]
        exact .refl _

end Expansion

namespace Registry

theorem get_eq_iff {registry other : Registry} {name : Text} :
    other.get (.text name) = registry.get (.text name) ↔ other.find? name = registry.find? name := by
  have answer (r : Registry) :
      r.get (.text name) = ((r.find? name).map .ok).getD (.error (.componentNotFound (.text name))) :=
    rfl
  rw [answer, answer]
  cases other.find? name <;> cases registry.find? name <;> simp

end Registry

def Event.lookedUp? : Event → Option Text
  | lookedUp name => some name
  | _ => none

namespace Composer

def withRegistry (composer : Composer) (registry : Registry) : Composer := { composer with registry := registry }

def lookUps (composer : Composer) (stack : Nat) (name given : Option Text) : List Text :=
  (composer.compose stack name given).1.filterMap Event.lookedUp?

variable {composer : Composer} {other : Registry} {stack : Nat} {name given : Option Text} {component : Text}

theorem mem_lookUps : component ∈ composer.lookUps stack name given ↔
    .lookedUp component ∈ (composer.compose stack name given).1 := by
  unfold lookUps
  rw [List.mem_filterMap]
  constructor
  · rintro ⟨e, member, found⟩
    cases e <;> cases found
    exact member
  · exact fun member => ⟨_, member, rfl⟩

theorem compose_congr (same : ∀ component ∈ composer.lookUps stack name given,
    other.find? component = composer.registry.find? component) :
    (composer.withRegistry other).compose stack name given = composer.compose stack name given := by
  simp only [mem_lookUps] at same
  cases body : composer.body? name given with
  | none =>
      have body' : (composer.withRegistry other).body? name given = none := body
      simp only [compose, body, body']
  | some text =>
      have body' : (composer.withRegistry other).body? name given = some text := body
      rw [trace_compose body] at same
      have again := Expansion.mimics_within _ other _ _ _ _ same
      apply Prod.ext
      · rw [trace_compose body, trace_compose body']
        exact congrArg Traced.trace again
      · rw [outcome_compose body, outcome_compose body']
        exact congrArg (fun x : Traced Text => x.outcome.mapError CompositionFault.expansion) again

theorem compose_insert_unreferenced (unreferenced : component ∉ composer.lookUps stack name given) (content : Text) :
    (composer.withRegistry (composer.registry.insert component content)).compose stack name given =
      composer.compose stack name given := by
  apply compose_congr
  intro other member
  rw [Registry.find?_insert, if_neg]
  rintro rfl
  exact unreferenced member

theorem compose_insert_overridden (composer : Composer) (stack : Nat) (name given : Option Text)
    (component old new : Text) :
    (composer.withRegistry ((composer.registry.insert component old).insert component new)).compose stack name given =
      (composer.withRegistry (composer.registry.insert component new)).compose stack name given := by
  change ((composer.withRegistry (composer.registry.insert component new)).withRegistry _).compose stack name given = _
  apply compose_congr
  intro other _
  simp only [withRegistry, Registry.find?_insert]
  split <;> rfl

theorem compose_insert_comm (composer : Composer) (stack : Nat) (name given : Option Text) {first second : Text}
    (apart : first ≠ second)
    (one two : Text) :
    (composer.withRegistry ((composer.registry.insert first one).insert second two)).compose stack name given =
      (composer.withRegistry ((composer.registry.insert second two).insert first one)).compose stack name given := by
  change ((composer.withRegistry ((composer.registry.insert second two).insert first one)).withRegistry _).compose
    stack name given = _
  apply compose_congr
  intro other _
  simp only [withRegistry, Registry.find?_insert]
  by_cases isFirst : other = first
  · simp [isFirst, apart]
  · simp [isFirst]

/-- Composing a page depends only on the components that are looked up. With another registry that answers these
look-ups alike, whichever components it holds besides and in whichever order they have come, the same is traced (so
the same references are recorded as resolved) and the outcome is the same: the text, or the fault with all its
details. -/
theorem compose_of_agreement (composer : Composer) (other : Registry) (stack : Nat) (name given : Option Text)
    (agree : ∀ component ∈ composer.lookUps stack name given,
      other.get (.text component) = composer.registry.get (.text component)) :
    (composer.withRegistry other).compose stack name given = composer.compose stack name given :=
  compose_congr fun component member => Registry.get_eq_iff.1 (agree component member)

def card : Composer :=
  .new ((Registry.empty.insert "Card".toList "<b>\x7b\x7bMark n=1\x7d\x7d\x7b\x7bNope\x7d\x7d</b>".toList).insert
    "Mark".toList
    "*${n}".toList) Composer.defaultLimit

def rearranged : Registry :=
  (((Registry.empty.insert "Mark".toList "old".toList).insert "Hero".toList "unused".toList).insert "Card".toList
    "<b>\x7b\x7bMark n=1\x7d\x7d\x7b\x7bNope\x7d\x7d</b>".toList).insert "Mark".toList "*${n}".toList

theorem compose_of_agreement_rearranged :
    (∀ component ∈ card.lookUps 10 none (some "\x7b\x7bCard\x7d\x7d".toList),
      rearranged.get (.text component) = card.registry.get (.text component)) ∧
    (card.withRegistry rearranged).compose 10 none (some "\x7b\x7bCard\x7d\x7d".toList) =
      card.compose 10 none (some "\x7b\x7bCard\x7d\x7d".toList) := by
  have same : ∀ component ∈ card.lookUps 10 none (some "\x7b\x7bCard\x7d\x7d".toList),
      rearranged.find? component = card.registry.find? component := by decide +kernel
  have agree := fun component member => Registry.get_eq_iff.2 (same component member)
  exact ⟨agree, compose_of_agreement _ _ _ _ _ agree⟩

/-- Only what the page leads to is looked up, registered or not. -/
example :
    card.lookUps 10 none (some "\x7b\x7bCard\x7d\x7d".toList) = ["Card".toList, "Mark".toList, "Nope".toList] := by
  decide +kernel

end Composer
end PageComposer

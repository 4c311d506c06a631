import PageComposer.Proofs.Expansion.Outcome

/-!
# Settled texts

A text that an expansion results in holds no tag, whatever braces its parts brought along, and composing
it again changes nothing (`settled_of_outcome_ok`).
-/

namespace PageComposer

namespace Expansion

theorem tagless_of_outcome_ok {registry : Registry} {limit : Int} {stack : Nat} {place : Place}
    {text result : Text} (h : outcomeWithin registry limit stack place text = .ok result) :
    Tag.occursIn result = false := by
  induction stack generalizing place text with
  | zero => cases h
  | succ stack ih =>
      cases start : Tag.occursIn text with
      | false =>
          rw [outcome_within_of_tagless start] at h
          cases h
          exact start
      | true =>
          have came := comes registry stack text (shallow_of_ok start h)
          rw [h] at came
          cases came with
          | @complete formed _ _ last =>
              cases tagged : Tag.occursIn formed with
              | true =>
                  rw [if_pos tagged] at last
                  exact ih last
              | false =>
                  simp only [tagged] at last
                  cases last
                  exact tagged

end Expansion

structure Settled (text : Text) : Prop where
  tagless : Tag.occursIn text = false
  kept : ∀ (composer : Composer) (stack : Nat) (name given : Option Text),
    composer.body? name given = some text → (composer.compose stack name given).2 = .ok text

theorem settled_of_tagless {text : Text} (tagless : Tag.occursIn text = false) : Settled text where
  tagless := tagless
  kept := by
    intro composer stack name given page
    rw [Composer.compose_eq_ok page]
    exact Expansion.outcome_within_of_tagless tagless

/-- What an expansion or a composition results in is settled. -/
theorem settled_of_outcome_ok (registry : Registry) (limit : Int) (stack : Nat) :
    (∀ (place : Expansion.Place) (text result : Text),
      (expand registry limit stack place text).outcome = .ok result → Settled result) ∧
    ∀ (pages : OrderedMap Text) (name given : Option Text) (result : Text),
      (Composer.compose ⟨registry, limit, pages⟩ stack name given).2 = .ok result → Settled result := by
  constructor
  · intro place text result h
    rw [Expansion.outcome_expand] at h
    exact settled_of_tagless (Expansion.tagless_of_outcome_ok h)
  · intro pages name given result h
    cases page : Composer.body? ⟨registry, limit, pages⟩ name given with
    | none =>
        simp only [Composer.compose, page] at h
        cases h
    | some body =>
        rw [Composer.compose_eq_ok page] at h
        exact settled_of_tagless (Expansion.tagless_of_outcome_ok h)

theorem settled_of_formed_tag : Settled "<h1/>".toList :=
  (settled_of_outcome_ok ⟨⟨[("Hero".toList, "<h1/>".toList), ("Name".toList, "Hero".toList)]⟩⟩ 10 10).2 .empty
    none (some "\x7b\x7b\x7b\x7bName\x7d\x7d\x7d\x7d".toList) _ rfl

end PageComposer

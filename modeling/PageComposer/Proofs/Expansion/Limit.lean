import PageComposer.Proofs.Expansion.Lockstep
import PageComposer.Proofs.Expansion.Reported

/-!
# Larger limits

An expansion that does not end because texts lie too deep goes the same way with every larger limit, since two runs
with different limits go in step until one of them is refused (`sameUnless_within_of_limit`). And where a text is
opened that is refused, the whole expansion is refused, whatever goes wrong around that text (`Opens.ended`). Both
together: `expand_of_larger_limit`.
-/

namespace PageComposer

namespace Expansion

def IsTooDeep {α : Type} (outcome : Except ExpansionFault α) : Prop :=
  ∃ context limit, outcome = .error (.tooDeep context limit)

def ExceedsLimit (e : ExpansionFault) : Prop := ∃ context limit, e = .tooDeep context limit

variable {registry : Registry} {limit limit' : Int} {place : Place} {text : Text}

theorem resolveText_of_tagless {inner : Place → Text → Traced Text} (tagless : Tag.occursIn text = false) :
    resolveText registry inner place text = pure text := by
  have tags := all_eq_nil_iff.2 tagless
  have ended : (if Tag.occursIn text then inner place.again text else pure text) = (pure text : Traced Text) := by
    rw [tagless, if_neg Bool.false_ne_true]
  unfold resolveText
  rw [tags]
  exact ended

theorem sameUnless_refuse (registry : Registry) (limit : Int) (inner : Place → Text → Traced Text) (place : Place)
    (text : Text) : SameUnless ExceedsLimit (refuse limit place text) (resolveText registry inner place text) := by
  intro goes
  unfold refuse at goes ⊢
  cases tags : Tag.all text with
  | nil => exact resolveText_of_tagless (all_eq_nil_iff.1 tags)
  | cons tag rest =>
      rw [tags] at goes
      dsimp only at goes ⊢
      cases found : (reference place tag).outcome with
      | ok ref =>
          rw [Traced.bind_of_ok found] at goes
          exact absurd ⟨_, _, rfl⟩ (goes _ rfl)
      | error e =>
          have first : resolveTag registry inner place ⟨text, []⟩ tag = ⟨(reference place tag).trace, .error e⟩ :=
            Traced.bind_of_error found
          have all :
              resolveTags registry inner place ⟨text, []⟩ (tag :: rest) = ⟨(reference place tag).trace, .error e⟩ := by
            rw [resolveTags, Traced.bind_of_error (by rw [first]), first]
          rw [resolveText, tags, Traced.bind_of_error (by rw [all]), all, Traced.bind_of_error found]

theorem sameUnless_refuse_again (limit limit' : Int) (place : Place) (text : Text) :
    SameUnless ExceedsLimit (refuse limit place text) (refuse limit' place text) := by
  unfold refuse
  split
  · exact .refl _
  · exact .bind (.refl _) fun _ goes => absurd ⟨_, _, rfl⟩ (goes _ rfl)

theorem sameUnless_within_of_limit (registry : Registry) (larger : limit ≤ limit') (stack : Nat) (place : Place)
    (text : Text) :
    SameUnless ExceedsLimit (within registry limit stack place text) (within registry limit' stack place text) := by
  induction stack generalizing place text with
  | zero => exact .refl _
  | succ stack ih =>
      rcases Int.lt_or_le place.depth limit with shallow | deep
      · rw [within_of_lt shallow, within_of_lt (Int.lt_of_lt_of_le shallow larger)]
        exact .between ((SameUnless.lockstep registry (by simp [ExceedsLimit])).resolveText ih place text)
      · rw [within_of_le deep]
        rcases Int.lt_or_le place.depth limit' with shallow | deep
        · rw [within_of_lt shallow]
          exact .between (sameUnless_refuse registry limit _ place text)
        · rw [within_of_le deep]
          exact .between (sameUnless_refuse_again limit limit' place text)

end Expansion

open Expansion in
/-- Raising the limit changes nothing but refusals for the depth: an expansion that ends otherwise, be it with a text,
a circle or missing components, ends the same with the larger limit, and so does a composition. And a refusal is never
lost: if a text that is opened on the way is refused, all is. -/
theorem expand_of_larger_limit (registry : Registry) (limit limit' : Int) (larger : limit ≤ limit') (stack : Nat) :
    (∀ place text, ¬IsTooDeep (expand registry limit stack place text).outcome →
      expand registry limit' stack place text = expand registry limit stack place text) ∧
    (∀ pages name given, (∀ context l, (Composer.compose ⟨registry, limit, pages⟩ stack name given).2 ≠
        .error (.expansion (.tooDeep context l))) →
      Composer.compose ⟨registry, limit', pages⟩ stack name given =
        Composer.compose ⟨registry, limit, pages⟩ stack name given) ∧
    ∀ place text left place' text' context l, Opens registry limit (stack + 1) place text left place' text' →
      outcomeWithin registry limit left place' text' = .error (.tooDeep context l) →
      (expand registry limit stack place text).outcome = .error (.tooDeep context l) := by
  have same (place : Place) (text : Text) (shallow : ¬IsTooDeep (expand registry limit stack place text).outcome) :
      expand registry limit' stack place text = expand registry limit stack place text := by
    refine sameUnless_within_of_limit registry larger (stack + 1) place text fun e failed deep => shallow ?_
    obtain ⟨context, l, rfl⟩ := deep
    exact ⟨context, l, failed⟩
  refine ⟨same, fun pages name given shallow => ?_, fun place text _ _ _ context l opens refused =>
    opens.ended refused (by simp)⟩
  have page :
      Composer.body? ⟨registry, limit', pages⟩ name given = Composer.body? ⟨registry, limit, pages⟩ name given := rfl
  unfold Composer.compose at shallow ⊢
  rw [page]
  cases body : Composer.body? ⟨registry, limit, pages⟩ name given with
  | none => rfl
  | some body =>
      simp only [body] at shallow ⊢
      rw [same _ _ fun ⟨context, l, deep⟩ => shallow context l (by rw [deep]; rfl)]

def headings : Registry :=
  ⟨⟨[("Hero".toList, "<h1/>".toList), ("Name".toList, "Hero".toList), ("Top".toList, "\x7b\x7bHero\x7d\x7d".toList)]⟩⟩

def formed : Text := "\x7b\x7b\x7b\x7bName\x7d\x7d\x7d\x7d".toList

def broken : Text := "\x7b\x7bNope\x7d\x7d\x7b\x7bTop\x7d\x7d".toList

open Expansion in
theorem expand_of_larger_limit_formed :
    (1 : Int) ≤ 2 ∧ (2 : Int) ≤ 10 ∧
    ¬IsTooDeep (expand headings 2 20 ⟨[], 0, []⟩ formed).outcome ∧
    expand headings 10 20 ⟨[], 0, []⟩ formed = expand headings 2 20 ⟨[], 0, []⟩ formed ∧
    (Composer.compose ⟨headings, 2, .empty⟩ 20 none (some formed)).2 = .ok "<h1/>".toList ∧
    Composer.compose ⟨headings, 10, .empty⟩ 20 none (some formed) =
      Composer.compose ⟨headings, 2, .empty⟩ 20 none (some formed) ∧
    Opens headings 1 21 ⟨[], 0, []⟩ broken 20 ⟨"Top".toList, 1, ["Top".toList]⟩ "\x7b\x7bHero\x7d\x7d".toList ∧
    (expand headings 1 20 ⟨[], 0, []⟩ broken).outcome = .error (.tooDeep "Top".toList 1) := by
  have shallow : ¬IsTooDeep (expand headings 2 20 ⟨[], 0, []⟩ formed).outcome := by
    rintro ⟨context, l, deep⟩
    cases deep
  have composed : (Composer.compose ⟨headings, 2, .empty⟩ 20 none (some formed)).2 = .ok "<h1/>".toList := rfl
  have opens :
      Opens headings 1 21 ⟨[], 0, []⟩ broken 20 ⟨"Top".toList, 1, ["Top".toList]⟩ "\x7b\x7bHero\x7d\x7d".toList := by
    have tags : Tag.all broken = ["\x7b\x7bNope\x7d\x7d".toList] ++ "\x7b\x7bTop\x7d\x7d".toList :: [] := rfl
    have inTurn : InTurn headings 1 21 ⟨[], 0, []⟩ broken "\x7b\x7bTop\x7d\x7d".toList := by
      refine .after (by decide) tags fun t member => ?_
      rw [List.mem_singleton.1 member]
      exact ⟨.inr [⟨"Nope".toList, none⟩], rfl⟩
    have read : Reference.ofTag "\x7b\x7bTop\x7d\x7d".toList = .ok ⟨"Top".toList, .empty⟩ := rfl
    exact .inside (by decide) inTurn read List.not_mem_nil rfl rfl .here
  obtain ⟨same, sameComposed, -⟩ := expand_of_larger_limit headings 2 10 (by decide) 20
  obtain ⟨-, -, refused⟩ := expand_of_larger_limit headings 1 2 (by decide) 20
  exact ⟨by decide, by decide, shallow, same _ _ shallow, composed,
    sameComposed .empty none (some formed) (by rw [composed]; simp), opens, refused _ _ _ _ _ _ _ opens rfl⟩

end PageComposer

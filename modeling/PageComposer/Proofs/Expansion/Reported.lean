import PageComposer.Proofs.Expansion.Outcome
import PageComposer.Proofs.Reference

/-!
# Reported failures

A composition ends with a text or with a fault that names the page, the missing components, the circle or
the limit, whatever texts are composed, unless it reads a tag with an integer numeral that is too long or
opens a text when the call stack is used up (`compose_reported_iff`). `Opens` says which texts are opened:
the page, the components that its tags stand for, and those that substitution has formed, as far as nothing
before them ends the expansion.
-/

namespace PageComposer

inductive Reported : Except CompositionFault Text → Prop
  | composed (text) : Reported (.ok text)
  | noPage (name) : Reported (.error (.noPage name))
  | unresolved (context missing) : Reported (.error (.expansion (.unresolved context missing)))
  | circular (context path) : Reported (.error (.expansion (.circular context path)))
  | tooDeep (context limit) : Reported (.error (.expansion (.tooDeep context limit)))

instance : DecidablePred Reported
  | .ok text => .isTrue (.composed text)
  | .error (.noPage name) => .isTrue (.noPage name)
  | .error (.expansion (.unresolved context missing)) => .isTrue (.unresolved context missing)
  | .error (.expansion (.circular context path)) => .isTrue (.circular context path)
  | .error (.expansion (.tooDeep context limit)) => .isTrue (.tooDeep context limit)
  | .error (.expansion (.numeral _)) => .isFalse nofun
  | .error (.expansion .outOfStack) => .isFalse nofun

theorem reported_iff {outcome : Except CompositionFault Text} : Reported outcome ↔
    (∀ e, outcome ≠ .error (.expansion (.numeral e))) ∧ outcome ≠ .error (.expansion .outOfStack) := by
  constructor
  · intro h
    constructor
    · rintro e rfl
      cases h
    · rintro rfl
      cases h
  · rintro ⟨noNumeral, enough⟩
    cases outcome with
    | ok text => exact .composed text
    | error f =>
        cases f with
        | noPage name => exact .noPage name
        | expansion e =>
            cases e with
            | unresolved context missing => exact .unresolved context missing
            | circular context path => exact .circular context path
            | tooDeep context limit => exact .tooDeep context limit
            | numeral e => exact absurd rfl (noNumeral e)
            | outOfStack => exact absurd rfl enough

namespace Property

theorem coerce_of_long {raw : Text} (integer : Numeral.isInteger raw = true)
    (long : Numeral.digitLimit < (Numeral.sign raw).2.length) : ∃ e, coerce raw = .error e := by
  have noTrue : raw ≠ "true".toList := by
    rintro rfl
    cases integer
  have noFalse : raw ≠ "false".toList := by
    rintro rfl
    cases integer
  refine ⟨⟨(Numeral.sign raw).2.length⟩, ?_⟩
  rw [coerce, if_neg noTrue, if_neg noFalse, if_pos integer, Numeral.readInteger]
  simp [long, Except.map]

theorem foldlM_assign_error {as : List Assignment} {start : Properties} {a : Assignment} (member : a ∈ as)
    (unread : ∃ e, coerce a.raw = .error e) : ∃ e, as.foldlM assign start = .error e := by
  induction as generalizing start with
  | nil => cases member
  | cons b as ih =>
      rw [List.foldlM_cons]
      cases read : coerce b.raw with
      | error e => exact ⟨e, by simp [assign, read, Except.map, bind, Except.bind]⟩
      | ok value =>
          rcases List.mem_cons.1 member with rfl | later
          · obtain ⟨e, failed⟩ := unread
            rw [read] at failed
            cases failed
          · simp only [assign, read, Except.map, bind, Except.bind]
            exact ih later

theorem ofClause_error_iff {s : Text} : (∃ e, ofClause s = .error e) ↔ isReadable s = false := by
  constructor
  · rintro ⟨e, failed⟩
    by_contra readable
    obtain ⟨props, read⟩ := ofClause_of_readable (by simpa using readable)
    rw [read] at failed
    cases failed
  · intro unreadable
    obtain ⟨a, member, long⟩ := List.all_eq_false.1 unreadable
    simp only [Bool.or_eq_true, Bool.not_eq_true', decide_eq_true_eq, not_or, Bool.not_eq_false,
      Nat.not_le] at long
    exact foldlM_assign_error member (coerce_of_long long.1 long.2)

end Property

theorem Reference.ofTag_error_iff {tag : Text} :
    (∃ e, ofTag tag = .error e) ↔ Property.isReadable (Tag.clause tag) = false := by
  rw [← Property.ofClause_error_iff, ofTag_eq]
  cases Property.ofClause (Tag.clause tag) <;> simp [Except.map]

namespace Expansion

/-- The tags of a text are read one after the other, as long as each of them comes to something. At the limit
only the first one is. -/
inductive InTurn (registry : Registry) (limit : Int) : Nat → Place → Text → Text → Prop
  | first {stack place text tag rest} : limit ≤ place.depth → Tag.all text = tag :: rest →
      InTurn registry limit (stack + 1) place text tag
  | after {stack place text before tag rest} : place.depth < limit → Tag.all text = before ++ tag :: rest →
      (∀ t ∈ before, ∃ r, resolution registry (outcomeWithin registry limit stack) place t = .ok r) →
      InTurn registry limit (stack + 1) place text tag

/-- The texts that the expansion of a text opens, itself among them, each with what is then left of the stack:
those of the components that its tags stand for in turn, and the text that substitution has formed. -/
inductive Opens (registry : Registry) (limit : Int) : Nat → Place → Text → Nat → Place → Text → Prop
  | here {stack place text} : Opens registry limit stack place text stack place text
  | inside {stack place text tag ref fragment left place' text'} : place.depth < limit →
      InTurn registry limit (stack + 1) place text tag → Reference.ofTag tag = .ok ref → ref.name ∉ place.path →
      registry.find? ref.name = some fragment → Tag.occursIn (interpolate ref.props fragment) = true →
      Opens registry limit stack (place.inside ref.name) (interpolate ref.props fragment) left place' text' →
      Opens registry limit (stack + 1) place text left place' text'
  | again {stack place text results left place' text'} : place.depth < limit →
      resolutions registry (outcomeWithin registry limit stack) place (Tag.all text) = .ok results →
      (results.foldl settle ⟨text, []⟩).missing = [] → Tag.occursIn (results.foldl settle ⟨text, []⟩).text = true →
      Opens registry limit stack place.again (results.foldl settle ⟨text, []⟩).text left place' text' →
      Opens registry limit (stack + 1) place text left place' text'

/-- The tags that the expansion of a text reads, in all the texts that it opens. -/
def Reads (registry : Registry) (limit : Int) (stack : Nat) (place : Place) (text tag : Text) : Prop :=
  ∃ left place' text', Opens registry limit stack place text left place' text' ∧
    InTurn registry limit left place' text' tag

inductive Fails (registry : Registry) (limit : Int) : Nat → Place → Text → ExpansionFault → Prop
  | unread {stack place text tag e} : InTurn registry limit stack place text tag →
      Reference.ofTag tag = .error e → Fails registry limit stack place text (.numeral e)
  | circular {stack place text tag ref} : InTurn registry limit stack place text tag →
      Reference.ofTag tag = .ok ref → ref.name ∈ place.path →
      Fails registry limit stack place text (.circular place.owner (place.path ++ [ref.name]))
  | tooDeep {stack place text} : Fails registry limit stack place text (.tooDeep place.owner limit)
  | outOfStack {place text} : Fails registry limit 0 place text .outOfStack

variable {registry : Registry} {limit : Int} {stack left : Nat} {place place' : Place} {text text' tag : Text}

theorem resolutions_error_iff {inner : Place → Text → Except ExpansionFault Text} {tags : List Text}
    {e : ExpansionFault} : resolutions registry inner place tags = .error e ↔
      ∃ before tag rest, tags = before ++ tag :: rest ∧
        (∀ t ∈ before, ∃ r, resolution registry inner place t = .ok r) ∧
        resolution registry inner place tag = .error e := by
  induction tags with
  | nil => simp [resolutions]
  | cons tag tags ih =>
      rw [resolutions]
      cases first : resolution registry inner place tag with
      | error e' =>
          simp only [Except.bind, Except.error.injEq]
          constructor
          · rintro rfl
            exact ⟨[], tag, tags, rfl, by simp, first⟩
          · rintro ⟨before, tag', rest, split, ok, failed⟩
            cases before with
            | nil =>
                cases split
                rw [first] at failed
                exact Except.error.inj failed
            | cons t before =>
                cases split
                obtain ⟨r, resolved⟩ := ok tag List.mem_cons_self
                rw [first] at resolved
                cases resolved
      | ok r =>
          have later : ((resolutions registry inner place tags).map ((tag, r) :: ·) = .error e) ↔
              resolutions registry inner place tags = .error e := by
            cases resolutions registry inner place tags <;> simp [Except.map]
          simp only [Except.bind, later, ih]
          constructor
          · rintro ⟨before, tag', rest, rfl, ok, failed⟩
            exact ⟨tag :: before, tag', rest, rfl, List.forall_mem_cons.2 ⟨⟨r, first⟩, ok⟩, failed⟩
          · rintro ⟨before, tag', rest, split, ok, failed⟩
            cases before with
            | nil =>
                cases split
                rw [first] at failed
                cases failed
            | cons t before =>
                cases split
                exact ⟨before, tag', rest, rfl, (List.forall_mem_cons.1 ok).2, failed⟩

theorem InTurn.ended {e : ExpansionFault} (inTurn : InTurn registry limit (stack + 1) place text tag)
    (shallow : place.depth < limit)
    (failed : resolution registry (outcomeWithin registry limit stack) place tag = .error e) :
    outcomeWithin registry limit (stack + 1) place text = .error e := by
  cases inTurn with
  | first deep => omega
  | after _ tags ok =>
      rw [outcome_within_of_lt shallow, resolutions_error_iff.2 ⟨_, _, _, tags, ok, failed⟩]
      rfl

theorem InTurn.unread {e : NumeralTooLong} (inTurn : InTurn registry limit stack place text tag)
    (unread : Reference.ofTag tag = .error e) :
    outcomeWithin registry limit stack place text = .error (.numeral e) := by
  have failed : (reference place tag).outcome = .error (.numeral e) := by
    simp [reference, unread, Except.bind]
  cases stack with
  | zero => cases inTurn
  | succ stack =>
      rcases Int.lt_or_le place.depth limit with shallow | deep
      · refine inTurn.ended shallow ?_
        rw [resolution, failed]
        rfl
      · cases inTurn with
        | after shallow => omega
        | first _ tags =>
            rw [outcome_within_of_le deep tags, failed]
            rfl

theorem Opens.ended (opens : Opens registry limit stack place text left place' text') {e : ExpansionFault}
    (failed : outcomeWithin registry limit left place' text' = .error e)
    (final : ∀ context missing, e ≠ .unresolved context missing) :
    outcomeWithin registry limit stack place text = .error e := by
  -- What ends the expansion of a text ends all those around it, unless it is that components are missing.
  induction opens with
  | here => exact failed
  | @inside stack place text tag ref fragment _ _ _ shallow inTurn read new known tagged _ ih =>
      have ended : resolution registry (outcomeWithin registry limit stack) place tag = .error e := by
        have found : (reference place tag).outcome = .ok ref := by
          simp [reference, read, new, Except.bind]
        rw [resolution, found]
        simp only [Except.bind, known, tagged, if_true]
        exact Traced.takeMissing_eq_error.2 ⟨ih failed, final⟩
      exact inTurn.ended shallow ended
  | again shallow all complete tagged _ ih =>
      rw [outcome_within_of_lt shallow, all]
      simp only [Except.bind, complete, ne_eq, not_true_eq_false, if_false, tagged, if_true]
      exact ih failed

theorem opens_of_refused {e : ExpansionFault} (deep : limit ≤ place.depth)
    (failed : outcomeWithin registry limit (stack + 1) place text = .error e) :
    Fails registry limit (stack + 1) place text e := by
  cases tagged : Tag.occursIn text with
  | false =>
      rw [outcome_within_of_tagless tagged] at failed
      cases failed
  | true =>
      obtain ⟨tag, rest, tags⟩ := exists_all_eq_cons tagged
      rw [outcome_within_of_le deep tags] at failed
      have found := refers place tag
      generalize (reference place tag).outcome = r at found failed
      cases found with
      | numeral read =>
          cases failed
          exact .unread (.first deep tags) read
      | circular read old =>
          cases failed
          exact .circular (.first deep tags) read old
      | new =>
          cases failed
          exact .tooDeep

theorem exists_opens_of_error {e : ExpansionFault} (failed : outcomeWithin registry limit stack place text = .error e)
    (final : ∀ context missing, e ≠ .unresolved context missing) :
    ∃ left place' text', Opens registry limit stack place text left place' text' ∧
      Fails registry limit left place' text' e := by
  induction stack generalizing place text with
  | zero =>
      cases failed
      exact ⟨0, place, text, .here, .outOfStack⟩
  | succ stack ih =>
      rcases Int.lt_or_le place.depth limit with shallow | deep
      · rw [outcome_within_of_lt shallow] at failed
        cases all : resolutions registry (outcomeWithin registry limit stack) place (Tag.all text) with
        | error e' =>
            rw [all] at failed
            cases failed
            obtain ⟨before, tag, rest, tags, ok, failed⟩ := resolutions_error_iff.1 all
            have inTurn : InTurn registry limit (stack + 1) place text tag := .after shallow tags ok
            have found := resolves registry (outcomeWithin registry limit stack) place tag
            rw [failed] at found
            cases found with
            | numeral read => exact ⟨_, _, _, .here, .unread inTurn read⟩
            | circular read old => exact ⟨_, _, _, .here, .circular inTurn read old⟩
            | nested read new known tagged came =>
                obtain ⟨left, place', text', opens, fails⟩ := ih (Traced.takeMissing_eq_error.1 came).1
                exact ⟨left, place', text', .inside shallow inTurn read new known tagged opens, fails⟩
        | ok results =>
            rw [all] at failed
            simp only [Except.bind] at failed
            split at failed
            · cases failed
              exact absurd rfl (final _ _)
            · rename_i complete
              split at failed
              · rename_i tagged
                obtain ⟨left, place', text', opens, fails⟩ := ih failed
                exact ⟨left, place', text', .again shallow all (Classical.not_not.1 complete) tagged opens, fails⟩
              · cases failed
      · exact ⟨_, _, _, .here, opens_of_refused deep failed⟩

theorem Opens.levels (opens : Opens registry limit stack place text left place' text') :
    place'.depth + left = place.depth + stack ∧ place'.depth ≤ max place.depth limit := by
  induction opens with
  | here => omega
  | inside shallow _ _ _ _ _ _ ih =>
      simp only [Place.inside] at ih
      omega
  | again shallow _ _ _ _ ih =>
      simp only [Place.again] at ih
      omega

theorem outcome_eq_numeral_iff : (∃ e, outcomeWithin registry limit stack place text = .error (.numeral e)) ↔
    ∃ tag, Reads registry limit stack place text tag ∧ Property.isReadable (Tag.clause tag) = false := by
  constructor
  · rintro ⟨e, failed⟩
    obtain ⟨left, place', text', opens, fails⟩ := exists_opens_of_error failed (by simp)
    cases fails with
    | @unread _ _ _ tag _ inTurn unread =>
        exact ⟨tag, ⟨left, place', text', opens, inTurn⟩, Reference.ofTag_error_iff.1 ⟨e, unread⟩⟩
  · rintro ⟨tag, ⟨left, place', text', opens, inTurn⟩, unreadable⟩
    obtain ⟨e, unread⟩ := Reference.ofTag_error_iff.2 unreadable
    exact ⟨e, opens.ended (inTurn.unread unread) (by simp)⟩

theorem outcome_eq_outOfStack_iff : outcomeWithin registry limit stack place text = .error .outOfStack ↔
    ∃ place' text', Opens registry limit stack place text 0 place' text' := by
  constructor
  · intro failed
    obtain ⟨left, place', text', opens, fails⟩ := exists_opens_of_error failed (by simp)
    cases fails with
    | outOfStack => exact ⟨place', text', opens⟩
  · rintro ⟨place', text', opens⟩
    exact opens.ended rfl (by simp)

end Expansion

theorem compose_ne_outOfStack (composer : Composer) {stack : Nat} (within : composer.limit ≤ stack)
    (name given : Option Text) : (composer.compose stack name given).2 ≠ .error (.expansion .outOfStack) := by
  intro exhausted
  cases page : composer.body? name given with
  | none => simp [Composer.compose, page] at exhausted
  | some body =>
      rw [Composer.compose_eq_error page, Expansion.outcome_eq_outOfStack_iff] at exhausted
      obtain ⟨place, text, opens⟩ := exhausted
      have levels := opens.levels
      simp only [Expansion.pagePlace] at levels
      omega

end PageComposer

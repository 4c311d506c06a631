import PageComposer.Composer
import PageComposer.Proofs.Tracing

/-!
# Outcomes of expansions

What an expansion comes to, without its trace. The tags of a text are resolved apart from each other
(`resolution`); only then are the texts put in their places and the missing components collected
(`outcome_within_succ`, `foldl_settle`).
-/

namespace PageComposer

namespace Expansion
variable {registry : Registry} {limit : Int} {stack : Nat} {place : Place} {text tag : Text}

/-- What a tag comes to at a place: a text to put for it, or components found missing. -/
def resolution (registry : Registry) (inner : Place → Text → Except ExpansionFault Text) (place : Place)
    (tag : Text) : Except ExpansionFault (Text ⊕ List Missing) :=
  (reference place tag).outcome.bind fun ref =>
    match registry.find? ref.name with
    | none => .ok (.inr [place.missing ref.name])
    | some fragment =>
      let filled := interpolate ref.props fragment
      if Tag.occursIn filled then Traced.takeMissing (inner (place.inside ref.name) filled)
      else .ok (.inl filled)

inductive Refers (place : Place) (tag : Text) : Except ExpansionFault Reference → Prop
  | numeral {e} : Reference.ofTag tag = .error e → Refers place tag (.error (.numeral e))
  | circular {ref} : Reference.ofTag tag = .ok ref → ref.name ∈ place.path →
      Refers place tag (.error (.circular place.owner (place.path ++ [ref.name])))
  | new {ref} : Reference.ofTag tag = .ok ref → ref.name ∉ place.path → Refers place tag (.ok ref)

theorem refers (place : Place) (tag : Text) : Refers place tag (reference place tag).outcome := by
  unfold reference
  rw [Traced.outcome_bind, Traced.outcome_ofExcept]
  cases read : Reference.ofTag tag with
  | error e => exact .numeral read
  | ok ref =>
      by_cases known : ref.name ∈ place.path
      · simpa [Except.bind, known] using Refers.circular read known
      · simpa [Except.bind, known] using Refers.new read known

inductive Resolves (registry : Registry) (inner : Place → Text → Except ExpansionFault Text)
    (place : Place) (tag : Text) : Except ExpansionFault (Text ⊕ List Missing) → Prop
  | numeral {e} : Reference.ofTag tag = .error e → Resolves registry inner place tag (.error (.numeral e))
  | circular {ref} : Reference.ofTag tag = .ok ref → ref.name ∈ place.path →
      Resolves registry inner place tag (.error (.circular place.owner (place.path ++ [ref.name])))
  | missing {ref} : Reference.ofTag tag = .ok ref → ref.name ∉ place.path →
      registry.find? ref.name = none →
      Resolves registry inner place tag (.ok (.inr [place.missing ref.name]))
  | nested {ref fragment r} : Reference.ofTag tag = .ok ref → ref.name ∉ place.path →
      registry.find? ref.name = some fragment → Tag.occursIn (interpolate ref.props fragment) = true →
      Traced.takeMissing (inner (place.inside ref.name) (interpolate ref.props fragment)) = r →
      Resolves registry inner place tag r
  | plain {ref fragment} : Reference.ofTag tag = .ok ref → ref.name ∉ place.path →
      registry.find? ref.name = some fragment → Tag.occursIn (interpolate ref.props fragment) = false →
      Resolves registry inner place tag (.ok (.inl (interpolate ref.props fragment)))

theorem resolves (registry : Registry) (inner : Place → Text → Except ExpansionFault Text) (place : Place)
    (tag : Text) : Resolves registry inner place tag (resolution registry inner place tag) := by
  unfold resolution
  have found := refers place tag
  generalize (reference place tag).outcome = r at found ⊢
  cases found with
  | numeral read => exact .numeral read
  | circular read known => exact .circular read known
  | @new ref read new =>
      cases known : registry.find? ref.name with
      | none => simpa only [Except.bind, known] using Resolves.missing read new known
      | some fragment =>
          simp only [Except.bind, known]
          split
          · rename_i tagged
            exact .nested read new known tagged rfl
          · rename_i tagless
            exact .plain read new known (Bool.eq_false_iff.2 tagless)

abbrev Resolved := List (Text × (Text ⊕ List Missing))

def resolutions (registry : Registry) (inner : Place → Text → Except ExpansionFault Text)
    (place : Place) : List Text → Except ExpansionFault Resolved
  | [] => .ok []
  | tag :: tags =>
    (resolution registry inner place tag).bind fun r =>
      (resolutions registry inner place tags).map ((tag, r) :: ·)

def settle (progress : Progress) : Text × (Text ⊕ List Missing) → Progress
  | (tag, .inl body) => { progress with text := Text.replace tag body progress.text }
  | (_, .inr more) => { progress with missing := progress.missing ++ more }

abbrev outcomeWithin (registry : Registry) (limit : Int) (stack : Nat) (place : Place) (text : Text) :
    Except ExpansionFault Text :=
  (within registry limit stack place text).outcome

theorem outcome_resolveTag (expandInner : Place → Text → Traced Text) (progress : Progress) :
    (resolveTag registry expandInner place progress tag).outcome =
      (resolution registry (fun p t => (expandInner p t).outcome) place tag).map
        fun r => settle progress (tag, r) := by
  unfold resolveTag resolution
  rw [Traced.outcome_bind]
  cases (reference place tag).outcome with
  | error e => rfl
  | ok ref =>
      simp only [Except.bind, Traced.outcome_bind, Traced.outcome_emit]
      cases registry.find? ref.name with
      | none => rfl
      | some fragment =>
          by_cases nested : Tag.occursIn (interpolate ref.props fragment) = true
          · simp only [nested, if_true, Traced.outcome_bind, Traced.outcome_orMissing]
            cases Traced.takeMissing
              (expandInner (place.inside ref.name) (interpolate ref.props fragment)).outcome with
            | error e => rfl
            | ok r => cases r <;> rfl
          · simp only [nested]
            rfl

theorem outcome_resolveTags (expandInner : Place → Text → Traced Text) (progress : Progress)
    (tags : List Text) :
    (resolveTags registry expandInner place progress tags).outcome =
      (resolutions registry (fun p t => (expandInner p t).outcome) place tags).map
        (List.foldl settle progress) := by
  induction tags generalizing progress with
  | nil => rfl
  | cons tag tags ih =>
      unfold resolveTags resolutions
      rw [Traced.outcome_bind, outcome_resolveTag]
      cases resolution registry (fun p t => (expandInner p t).outcome) place tag with
      | error e => rfl
      | ok r =>
          have rest := ih (settle progress (tag, r))
          simp only [Except.map, Except.bind] at rest ⊢
          rw [rest]
          cases resolutions registry (fun p t => (expandInner p t).outcome) place tags <;> rfl

theorem foldl_settle (results : Resolved) (progress : Progress) :
    results.foldl settle progress =
      ⟨results.foldl (fun s r => r.2.elim (fun body => Text.replace r.1 body s) fun _ => s) progress.text,
        progress.missing ++ results.flatMap fun r => r.2.elim (fun _ => []) id⟩ := by
  induction results generalizing progress with
  | nil => simp
  | cons r results ih =>
      obtain ⟨tag, r⟩ := r
      rw [List.foldl_cons, ih]
      cases r <;> simp [settle]

theorem resolutions_ok {inner : Place → Text → Except ExpansionFault Text} {tags : List Text}
    {results : Resolved} (h : resolutions registry inner place tags = .ok results) :
    results.map (·.1) = tags ∧ ∀ r ∈ results, resolution registry inner place r.1 = .ok r.2 := by
  induction tags generalizing results with
  | nil =>
      cases h
      exact ⟨rfl, fun r hr => nomatch hr⟩
  | cons tag tags ih =>
      rw [resolutions] at h
      cases first : resolution registry inner place tag with
      | error e => simp [first, Except.bind] at h
      | ok r =>
          cases rest : resolutions registry inner place tags with
          | error e => simp [first, rest, Except.bind, Except.map] at h
          | ok rs =>
              obtain ⟨names, ok⟩ := ih rest
              simp only [first, rest, Except.bind, Except.map, Except.ok.injEq] at h
              subst h
              exact ⟨congrArg (tag :: ·) names, List.forall_mem_cons.2 ⟨first, ok⟩⟩

theorem resolutions_error {inner : Place → Text → Except ExpansionFault Text} {tags : List Text}
    {e : ExpansionFault} (h : resolutions registry inner place tags = .error e) :
    ∃ tag ∈ tags, resolution registry inner place tag = .error e := by
  induction tags with
  | nil => cases h
  | cons tag tags ih =>
      rw [resolutions] at h
      cases first : resolution registry inner place tag with
      | error e' =>
          simp only [first, Except.bind, Except.error.injEq] at h
          exact ⟨tag, List.mem_cons_self, h ▸ first⟩
      | ok r =>
          cases rest : resolutions registry inner place tags with
          | error e' =>
              simp only [first, rest, Except.bind, Except.map, Except.error.injEq] at h
              obtain ⟨t, ht, he⟩ := ih (h ▸ rest)
              exact ⟨t, List.mem_cons_of_mem _ ht, he⟩
          | ok rs => simp [first, rest, Except.bind, Except.map] at h

theorem all_eq_nil_iff {s : Text} : Tag.all s = [] ↔ Tag.occursIn s = false := by
  unfold Tag.all Tag.occursIn
  cases h : Tag.occurrences s with
  | nil => simp
  | cons t rest => simp [List.eraseDups_cons]

theorem occursIn_of_mem_all {s t : Text} (member : t ∈ Tag.all s) : Tag.occursIn s = true := by
  cases tagged : Tag.occursIn s with
  | true => rfl
  | false =>
      rw [all_eq_nil_iff.2 tagged] at member
      cases member

theorem exists_all_eq_cons {s : Text} (tagged : Tag.occursIn s = true) :
    ∃ tag rest, Tag.all s = tag :: rest := by
  refine List.exists_cons_of_ne_nil fun empty => ?_
  rw [all_eq_nil_iff.1 empty] at tagged
  cases tagged

theorem outcome_resolveText (expandInner : Place → Text → Traced Text) :
    (resolveText registry expandInner place text).outcome =
      (resolutions registry (fun p t => (expandInner p t).outcome) place (Tag.all text)).bind fun results =>
        let progress := results.foldl settle ⟨text, []⟩
        if progress.missing ≠ [] then .error (.unresolved place.owner progress.missing)
        else if Tag.occursIn progress.text then (expandInner place.again progress.text).outcome
        else .ok progress.text := by
  unfold resolveText
  rw [Traced.outcome_bind, outcome_resolveTags]
  cases resolutions registry (fun p t => (expandInner p t).outcome) place (Tag.all text) with
  | error e => rfl
  | ok results =>
      simp only [Except.map, Except.bind]
      split
      · rfl
      · split <;> rfl

theorem within_of_lt (shallow : place.depth < limit) : within registry limit (stack + 1) place text =
    visit place (resolveText registry (within registry limit stack) place text) := by
  rw [within, if_pos shallow]

theorem within_of_le (deep : limit ≤ place.depth) :
    within registry limit (stack + 1) place text = visit place (refuse limit place text) := by
  rw [within, if_neg (Int.not_lt.2 deep)]

theorem outcome_within_of_lt (shallow : place.depth < limit) :
    outcomeWithin registry limit (stack + 1) place text =
      (resolutions registry (outcomeWithin registry limit stack) place (Tag.all text)).bind fun results =>
        let progress := results.foldl settle ⟨text, []⟩
        if progress.missing ≠ [] then .error (.unresolved place.owner progress.missing)
        else if Tag.occursIn progress.text then outcomeWithin registry limit stack place.again progress.text
        else .ok progress.text := by
  rw [outcomeWithin, within_of_lt shallow]
  exact outcome_resolveText (within registry limit stack)

theorem outcome_within_of_le {tag : Text} {rest : List Text} (deep : limit ≤ place.depth)
    (tags : Tag.all text = tag :: rest) :
    outcomeWithin registry limit (stack + 1) place text = (reference place tag).outcome.bind fun _ =>
      .error (.tooDeep place.owner limit) := by
  rw [outcomeWithin, within_of_le deep, refuse, tags]
  exact Traced.outcome_bind _ _

theorem outcome_within_of_tagless (tagless : Tag.occursIn text = false) :
    outcomeWithin registry limit (stack + 1) place text = .ok text := by
  have tags := all_eq_nil_iff.2 tagless
  rcases Int.lt_or_le place.depth limit with shallow | deep
  · rw [outcome_within_of_lt shallow, tags]
    simp [resolutions, Except.bind, tagless]
  · rw [outcomeWithin, within_of_le deep, refuse, tags]
    rfl

theorem resolution_error {inner : Place → Text → Except ExpansionFault Text} {e : ExpansionFault}
    (h : resolution registry inner place tag = .error e) :
    ∀ context missing, e ≠ .unresolved context missing := by
  have found := resolves registry inner place tag
  rw [h] at found
  cases found with
  | numeral => simp
  | circular => simp
  | nested _ _ _ _ failed => exact (Traced.takeMissing_eq_error.1 failed).2

theorem shallow_of_takeMissing (tagged : Tag.occursIn text = true) {r : Text ⊕ List Missing}
    (h : Traced.takeMissing (outcomeWithin registry limit (stack + 1) place text) = .ok r) :
    place.depth < limit := by
  rcases Int.lt_or_le place.depth limit with shallow | deep
  · exact shallow
  · obtain ⟨tag, rest, tags⟩ := exists_all_eq_cons tagged
    rw [outcome_within_of_le deep tags] at h
    have found := refers place tag
    generalize (reference place tag).outcome = o at found h
    cases found <;> cases h

theorem shallow_of_ok (tagged : Tag.occursIn text = true) {result : Text}
    (h : outcomeWithin registry limit (stack + 1) place text = .ok result) : place.depth < limit :=
  shallow_of_takeMissing tagged (Traced.takeMissing_eq_inl.2 h)

theorem shallow_of_unresolved {context : Text} {missing : List Missing}
    (h : outcomeWithin registry limit (stack + 1) place text = .error (.unresolved context missing)) :
    place.depth < limit := by
  cases tagged : Tag.occursIn text with
  | false =>
      rw [outcome_within_of_tagless tagged] at h
      cases h
  | true => exact shallow_of_takeMissing tagged (Traced.takeMissing_eq_inr.2 ⟨context, h⟩)

theorem missing_of_unresolved {context : Text} {missing : List Missing}
    (h : outcomeWithin registry limit stack place text = .error (.unresolved context missing)) :
    missing ≠ [] := by
  induction stack generalizing place text with
  | zero => cases h
  | succ stack ih =>
      have shallow := shallow_of_unresolved h
      rw [outcome_within_of_lt shallow] at h
      cases results : resolutions registry (outcomeWithin registry limit stack) place (Tag.all text) with
      | error e =>
          obtain ⟨tag, -, error⟩ := resolutions_error results
          simp only [results, Except.bind, Except.error.injEq] at h
          exact absurd h (resolution_error error _ _)
      | ok results' =>
          simp only [results, Except.bind] at h
          split at h
          · rename_i found
            cases h
            exact found
          · split at h
            · exact ih h
            · cases h

theorem missing_of_resolution {missing : List Missing}
    (h : resolution registry (outcomeWithin registry limit stack) place tag = .ok (.inr missing)) :
    missing ≠ [] := by
  have found := resolves registry (outcomeWithin registry limit stack) place tag
  rw [h] at found
  cases found with
  | missing => simp
  | nested _ _ _ _ failed =>
      obtain ⟨context, unresolved⟩ := Traced.takeMissing_eq_inr.1 failed
      exact missing_of_unresolved unresolved

inductive Comes (registry : Registry) (limit : Int) (stack : Nat) (place : Place) (text : Text) :
    Except ExpansionFault Text → Prop
  | stopped {tag e} : tag ∈ Tag.all text →
      resolution registry (outcomeWithin registry limit stack) place tag = .error e →
      Comes registry limit stack place text (.error e)
  | incomplete {tag more missing} :
      (∀ tag ∈ Tag.all text, ∃ r,
        resolution registry (outcomeWithin registry limit stack) place tag = .ok r) →
      tag ∈ Tag.all text →
      resolution registry (outcomeWithin registry limit stack) place tag = .ok (.inr more) →
      Comes registry limit stack place text (.error (.unresolved place.owner missing))
  | complete {formed r} :
      (∀ tag ∈ Tag.all text, ∃ body,
        resolution registry (outcomeWithin registry limit stack) place tag = .ok (.inl body)) →
      (if Tag.occursIn formed then outcomeWithin registry limit stack place.again formed
        else .ok formed) = r →
      Comes registry limit stack place text r

theorem comes (registry : Registry) (stack : Nat) (text : Text) (shallow : place.depth < limit) :
    Comes registry limit stack place text (outcomeWithin registry limit (stack + 1) place text) := by
  rw [outcome_within_of_lt shallow]
  cases all : resolutions registry (outcomeWithin registry limit stack) place (Tag.all text) with
  | error e =>
      obtain ⟨tag, member, failed⟩ := resolutions_error all
      exact .stopped member failed
  | ok results =>
      obtain ⟨names, resolved⟩ := resolutions_ok all
      have found : ∀ tag ∈ Tag.all text, ∃ r ∈ results, r.1 = tag := by
        rw [← names]
        exact fun tag member => List.mem_map.1 member
      simp only [Except.bind, foldl_settle, List.nil_append]
      split
      · rename_i incomplete
        obtain ⟨m, member⟩ := List.exists_mem_of_ne_nil _ incomplete
        obtain ⟨⟨tag, r⟩, hr, held⟩ := List.mem_flatMap.1 member
        have ok : ∀ tag ∈ Tag.all text, ∃ r,
            resolution registry (outcomeWithin registry limit stack) place tag = .ok r := by
          intro tag member
          obtain ⟨r, hr, rfl⟩ := found tag member
          exact ⟨r.2, resolved r hr⟩
        cases r with
        | inl body => cases held
        | inr more => exact .incomplete ok (names ▸ List.mem_map_of_mem hr) (resolved _ hr)
      · rename_i complete
        rw [Classical.not_not, List.flatMap_eq_nil_iff] at complete
        refine .complete (fun tag member => ?_) rfl
        obtain ⟨r, hr, rfl⟩ := found tag member
        have resolution := resolved r hr
        have noMissing := complete r hr
        cases kind : r.2 with
        | inl body => exact ⟨body, kind ▸ resolution⟩
        | inr missing =>
            rw [kind] at resolution noMissing
            exact absurd noMissing (missing_of_resolution resolution)

theorem resolution_of_outcome_ok (shallow : place.depth < limit) {result : Text}
    (h : outcomeWithin registry limit (stack + 1) place text = .ok result) :
    ∀ tag ∈ Tag.all text, ∃ body,
      resolution registry (outcomeWithin registry limit stack) place tag = .ok (.inl body) := by
  have came := comes registry stack text shallow
  rw [h] at came
  cases came with
  | complete resolved _ => exact resolved

/-- How many texts can be opened inside one of this depth: the limit and the call stack bound them. -/
def levels (limit depth : Int) (stack : Nat) : Nat := min (limit - depth).toNat stack

theorem levels_zero (limit depth : Int) : levels limit depth 0 = 0 := Nat.min_zero _

theorem levels_of_lt {depth : Int} (shallow : depth < limit) :
    levels limit depth (stack + 1) = levels limit (depth + 1) stack + 1 := by
  unfold levels
  omega

theorem levels_of_le {depth : Int} (deep : limit ≤ depth) : levels limit depth stack = 0 := by
  unfold levels
  omega

def pagePlace (name : Option Text) : Place := ⟨name.getD [], 0, []⟩

theorem outcome_expand (registry : Registry) (limit : Int) (stack : Nat) (place : Place) (text : Text) :
    (expand registry limit stack place text).outcome =
      outcomeWithin registry limit (stack + 1) place text := rfl

end Expansion

namespace Composer
variable {composer : Composer} {stack : Nat} {name given : Option Text} {body : Text}

theorem trace_compose (page : composer.body? name given = some body) :
    (composer.compose stack name given).1 = (Expansion.within composer.registry composer.limit (stack + 1)
      (Expansion.pagePlace name) body).trace := by
  simp only [compose, page]
  rfl

theorem outcome_compose (page : composer.body? name given = some body) :
    (composer.compose stack name given).2 = (Expansion.outcomeWithin composer.registry composer.limit
      (stack + 1) (Expansion.pagePlace name) body).mapError .expansion := by
  simp only [compose, page]
  rfl

theorem compose_eq_ok (page : composer.body? name given = some body) {result : Text} :
    (composer.compose stack name given).2 = .ok result ↔ Expansion.outcomeWithin composer.registry
      composer.limit (stack + 1) (Expansion.pagePlace name) body = .ok result := by
  rw [outcome_compose page]
  cases Expansion.outcomeWithin composer.registry composer.limit (stack + 1)
    (Expansion.pagePlace name) body <;> simp

theorem compose_eq_error (page : composer.body? name given = some body) {e : ExpansionFault} :
    (composer.compose stack name given).2 = .error (.expansion e) ↔ Expansion.outcomeWithin
      composer.registry composer.limit (stack + 1) (Expansion.pagePlace name) body = .error e := by
  rw [outcome_compose page]
  cases Expansion.outcomeWithin composer.registry composer.limit (stack + 1)
    (Expansion.pagePlace name) body <;> simp

end Composer
end PageComposer

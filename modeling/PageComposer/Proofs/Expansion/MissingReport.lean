import PageComposer.Proofs.Expansion.ReferenceGraph

/-!
# The report of missing components

`Reports` walks through the tags of a text: a tag whose component is not registered is reported with the
component that holds the tag, any other leads to the tags of its component. Of clean texts, what is
reported for a page that stays unresolved is what this walk meets, in its order (`compose_reports`).
-/

namespace PageComposer
open Piece

inductive Reports (registry : Registry) : Option Text → List Text → List Missing → Prop
  | nil (owner) : Reports registry owner [] []
  | missing {owner tag tags more} : registry.find? (Tag.name tag) = none →
      Reports registry owner tags more →
      Reports registry owner (tag :: tags) (⟨Tag.name tag, owner⟩ :: more)
  | inside {owner tag tags fragment inner more} : registry.find? (Tag.name tag) = some fragment →
      Reports registry (some (Tag.name tag)) (Tag.all fragment) inner →
      Reports registry owner tags more → Reports registry owner (tag :: tags) (inner ++ more)

example : Missing.message ⟨"Menu".toList, none⟩ = "Component \"Menu\" not found".toList := by decide

example : Missing.message ⟨"Menu".toList, some "ui/Bar".toList⟩ =
    "Component \"Menu\" not found (in \"ui/Bar\")".toList := by decide

variable {registry : Registry} {limit : Int} {stack : Nat} {owner : Option Text} {tag text : Text}
  {tags : List Text} {missing more : List Missing}

namespace Reports

theorem cons (first : Reports registry owner [tag] missing) (later : Reports registry owner tags more) :
    Reports registry owner (tag :: tags) (missing ++ more) := by
  cases first with
  | missing unknown rest =>
      cases rest
      exact .missing unknown later
  | inside known inner rest =>
      cases rest
      rw [List.append_nil]
      exact .inside known inner later

theorem unique (h : Reports registry owner tags missing) (other : Reports registry owner tags more) :
    missing = more := by
  induction h generalizing more with
  | nil =>
      cases other
      rfl
  | missing unknown _ ih =>
      cases other with
      | missing _ rest => rw [ih rest]
      | inside known =>
          rw [unknown] at known
          cases known
  | inside known _ _ ihInner ih =>
      cases other with
      | missing unknown =>
          rw [known] at unknown
          cases unknown
      | inside known' inner rest =>
          have same := Option.some.inj (known.symm.trans known')
          subst same
          rw [ihInner inner, ih rest]

def Reachable (registry : Registry) (owner : Option Text) (tags : List Text) (m : Missing) : Prop :=
  registry.find? m.name = none ∧ ∃ tag ∈ tags, m = ⟨Tag.name tag, owner⟩ ∨
    ∃ fragment path last, registry.find? (Tag.name tag) = some fragment ∧
      Leads registry fragment path last ∧ Names last m.name ∧
      m.owner = (Tag.name tag :: path).getLast?

theorem reachable_cons {m : Missing} : Reachable registry owner (tag :: tags) m ↔
    Reachable registry owner [tag] m ∨ Reachable registry owner tags m := by
  simp only [Reachable, List.mem_cons, List.not_mem_nil, or_false, exists_eq_or_imp, exists_eq_left]
  exact and_or_left

theorem reachable_inside {fragment : Text} (known : registry.find? (Tag.name tag) = some fragment)
    {m : Missing} : Reachable registry owner [tag] m ↔
      Reachable registry (some (Tag.name tag)) (Tag.all fragment) m := by
  have apart (unknown : registry.find? m.name = none) : m ≠ ⟨Tag.name tag, owner⟩ := by
    rintro rfl
    rw [known] at unknown
    cases unknown
  simp only [Reachable, List.mem_cons, List.not_mem_nil, or_false, exists_eq_left]
  refine and_congr_right fun unknown => ?_
  rw [or_iff_right (apart unknown)]
  constructor
  · rintro ⟨fragment', path, last, known', leads, names, holder⟩
    have same := Option.some.inj (known.symm.trans known')
    subst same
    cases leads with
    | here =>
        obtain ⟨tag', member, named⟩ := names
        refine ⟨tag', member, .inl ?_⟩
        rw [named, ← show m.owner = some (Tag.name tag) by simpa using holder]
    | through first found leads =>
        obtain ⟨tag', member, rfl⟩ := first
        exact ⟨tag', member, .inr ⟨_, _, last, found, leads, names, by simpa using holder⟩⟩
  · rintro ⟨tag', member, rfl | ⟨fragment', path, last, found, leads, names, holder⟩⟩
    · exact ⟨fragment, [], fragment, known, .here fragment, ⟨tag', member, rfl⟩, rfl⟩
    · exact ⟨fragment, _, last, known, .through ⟨tag', member, rfl⟩ found leads, names, by simpa using holder⟩

theorem mem_iff (h : Reports registry owner tags missing) (m : Missing) :
    m ∈ missing ↔ Reachable registry owner tags m := by
  induction h with
  | nil => simp [Reachable]
  | @missing owner tag tags more unknown _ ih =>
      rw [List.mem_cons, ih, reachable_cons]
      refine or_congr_left ?_
      simp only [Reachable, List.mem_cons, List.not_mem_nil, or_false, exists_eq_left, unknown]
      constructor
      · rintro rfl
        exact ⟨unknown, .inl rfl⟩
      · rintro ⟨-, same | ⟨_, _, _, known, -⟩⟩
        · exact same
        · cases known
  | inside known _ _ ihInner ih =>
      rw [List.mem_append, ih, ihInner, reachable_cons, reachable_inside known]

theorem reachable_page {page : Text} {m : Missing} :
    Reachable registry none (Tag.all page) m ↔ registry.find? m.name = none ∧ ∃ path last,
      Leads registry page path last ∧ Names last m.name ∧ m.owner = path.getLast? := by
  refine and_congr_right fun _ => ?_
  constructor
  · rintro ⟨tag, member, rfl | ⟨fragment, path, last, known, leads, names, holder⟩⟩
    · exact ⟨[], page, .here page, ⟨tag, member, rfl⟩, rfl⟩
    · exact ⟨_, last, .through ⟨tag, member, rfl⟩ known leads, names, holder⟩
  · rintro ⟨path, last, leads, names, holder⟩
    cases leads with
    | here =>
        obtain ⟨tag, member, named⟩ := names
        refine ⟨tag, member, .inl ?_⟩
        rw [named, ← show m.owner = none from holder]
    | through first known leads =>
        obtain ⟨tag, member, rfl⟩ := first
        exact ⟨tag, member, .inr ⟨_, _, last, known, leads, names, holder⟩⟩

end Reports

namespace Expansion
variable {place : Place} {inner : Place → Text → Except ExpansionFault Text}

def missingIn (r : Text ⊕ List Missing) : List Missing := r.elim (fun _ => []) id

def Place.holder (place : Place) : Option Text := if place.depth = 0 then none else some place.owner

theorem Place.holder_inside (nonneg : 0 ≤ place.depth) (name : Text) :
    (place.inside name).holder = some name := by
  have deeper : (place.inside name).depth ≠ 0 := by
    simp only [Place.inside]
    omega
  rw [holder, if_neg deeper]
  rfl

theorem reports_of_resolutions {results : Resolved}
    (each : ∀ tag ∈ tags, ∀ r, resolution registry inner place tag = .ok r →
      Reports registry owner [tag] (missingIn r))
    (h : resolutions registry inner place tags = .ok results) :
    Reports registry owner tags (results.flatMap fun r => missingIn r.2) := by
  induction tags generalizing results with
  | nil =>
      cases h
      exact .nil owner
  | cons tag tags ih =>
      obtain ⟨here, later⟩ := List.forall_mem_cons.1 each
      rw [resolutions] at h
      cases first : resolution registry inner place tag with
      | error e => simp [first, Except.bind] at h
      | ok r =>
          cases rest : resolutions registry inner place tags with
          | error e => simp [first, rest, Except.bind, Except.map] at h
          | ok rs =>
              simp only [first, rest, Except.bind, Except.map, Except.ok.injEq] at h
              subst h
              exact (here r first).cons (ih later rest)

def Accounted (registry : Registry) (limit : Int) (stack : Nat) : Prop :=
  ∀ place text shown r, Shows text shown → 0 ≤ place.depth →
    Traced.takeMissing (outcomeWithin registry limit stack place shown) = .ok r →
    Reports registry place.holder (Tag.all text) (missingIn r)

theorem reports_of_resolution (cleanRegistry : registry.All isClean)
    (accounted : Accounted registry limit stack) (isTag : Tag.IsTag tag) (nonneg : 0 ≤ place.depth)
    {r : Text ⊕ List Missing}
    (h : resolution registry (outcomeWithin registry limit stack) place tag = .ok r) :
    Reports registry place.holder [tag] (missingIn r) := by
  have found := resolves registry (outcomeWithin registry limit stack) place tag
  rw [h] at found
  have shows {ref : Reference} {fragment : Text} (read : Reference.ofTag tag = .ok ref)
      (known : registry.find? ref.name = some fragment) :
      Shows fragment (interpolate ref.props fragment) := by
    obtain ⟨clean, tags⟩ := Reference.interpolate_ofTag isTag read (cleanRegistry _ _ known)
    exact ⟨congrArg List.eraseDups tags, clean⟩
  cases found with
  | missing read _ unknown =>
      rw [(Reference.ofTag_ok read).1] at unknown ⊢
      exact .missing unknown (.nil _)
  | @nested ref fragment _ read _ known _ came =>
      have deeper : 0 ≤ (place.inside ref.name).depth := by
        simp only [Place.inside]
        omega
      have reports := accounted (place.inside ref.name) fragment _ r (shows read known) deeper came
      rw [Place.holder_inside nonneg] at reports
      rw [(Reference.ofTag_ok read).1] at known reports
      simpa using Reports.inside known reports (.nil place.holder)
  | @plain ref fragment read _ known tagless =>
      have tags : Tag.all fragment = [] := by
        rw [← (shows read known).tags]
        exact all_eq_nil_iff.2 tagless
      rw [(Reference.ofTag_ok read).1] at known
      have reports : Reports registry (some (Tag.name tag)) (Tag.all fragment) [] := by
        rw [tags]
        exact .nil _
      exact .inside known reports (.nil _)

theorem resolved_of_missing_nil {results : Resolved}
    (h : resolutions registry (outcomeWithin registry limit stack) place tags = .ok results)
    (none : (results.flatMap fun r => missingIn r.2) = []) :
    ∀ tag ∈ tags, ∃ body,
      resolution registry (outcomeWithin registry limit stack) place tag = .ok (.inl body) := by
  obtain ⟨names, resolved⟩ := resolutions_ok h
  intro tag member
  rw [← names] at member
  obtain ⟨r, held, rfl⟩ := List.mem_map.1 member
  have resolution := resolved r held
  have nothing := List.flatMap_eq_nil_iff.1 none r held
  cases kind : r.2 with
  | inl body => exact ⟨body, kind ▸ resolution⟩
  | inr missing =>
      rw [kind] at resolution nothing
      exact absurd nothing (missing_of_resolution resolution)

theorem accounted_of_shallow (cleanRegistry : registry.All isClean) (accounted : Accounted registry limit stack)
    (shallow : place.depth < limit) {shown : Text} {r : Text ⊕ List Missing} (clean : isClean shown = true)
    (nonneg : 0 ≤ place.depth) (h : Traced.takeMissing (outcomeWithin registry limit (stack + 1) place shown) = .ok r) :
    Reports registry place.holder (Tag.all shown) (missingIn r) := by
  cases all : resolutions registry (outcomeWithin registry limit stack) place (Tag.all shown) with
  | error e =>
      obtain ⟨tag, -, failed⟩ := resolutions_error all
      rw [outcome_within_of_lt shallow, all, Except.bind,
        Traced.takeMissing_eq_error.2 ⟨rfl, resolution_error failed⟩] at h
      cases h
  | ok results =>
      have reports : Reports registry place.holder (Tag.all shown)
          (results.flatMap fun r => missingIn r.2) :=
        reports_of_resolutions (fun tag member r =>
          reports_of_resolution cleanRegistry accounted (isTag_of_mem_all member) nonneg) all
      by_cases none : (results.flatMap fun r => missingIn r.2) = []
      · -- The texts put for the tags are clean: nothing is expanded once more, and nothing else is missing.
        choose! bodies resolved using resolved_of_missing_nil all none
        rw [(outcome_eq_ok_iff cleanRegistry shallow clean).2 ⟨bodies, resolved, rfl⟩] at h
        cases h
        rwa [none] at reports
      · have unresolved : outcomeWithin registry limit (stack + 1) place shown =
            .error (.unresolved place.owner (results.flatMap fun r => missingIn r.2)) := by
          rw [outcome_within_of_lt shallow, all]
          simp only [Except.bind, foldl_settle, List.nil_append]
          exact if_pos none
        rw [unresolved] at h
        cases h
        exact reports

theorem accounted (cleanRegistry : registry.All isClean) (limit : Int) (stack : Nat) :
    Accounted registry limit stack := by
  induction stack with
  | zero => exact fun _ _ _ _ _ _ h => nomatch h
  | succ stack ih =>
      intro place text shown r shows nonneg h
      rw [← shows.tags]
      cases tagged : Tag.occursIn shown with
      | false =>
          rw [outcome_within_of_tagless tagged] at h
          cases h
          rw [all_eq_nil_iff.2 tagged]
          exact .nil _
      | true => exact accounted_of_shallow cleanRegistry ih (shallow_of_takeMissing tagged h) shows.clean nonneg h

theorem owner_of_unresolved (cleanRegistry : registry.All isClean) (clean : isClean text = true)
    {context : Text}
    (h : outcomeWithin registry limit stack place text = .error (.unresolved context missing)) :
    context = place.owner := by
  cases stack with
  | zero => cases h
  | succ stack =>
      have shallow := shallow_of_unresolved h
      have came := comes registry stack text shallow
      generalize outcome : outcomeWithin registry limit (stack + 1) place text = o at came h
      cases came with
      | stopped _ failed =>
          cases h
          exact absurd rfl (resolution_error failed _ _)
      | incomplete =>
          cases h
          rfl
      | complete resolved _ =>
          choose! bodies resolved using resolved
          rw [(outcome_eq_ok_iff cleanRegistry shallow clean).2 ⟨bodies, resolved, rfl⟩] at outcome
          subst outcome
          cases h

end Expansion

/-- What is reported for a page: the messages of what the walk through its tags meets, and nothing else. -/
structure PageReport (registry : Registry) (page : Text) (messages : List Text) : Prop where
  walked : ∃ missing, Reports registry none (Tag.all page) missing ∧
    messages = missing.map Missing.message
  only : ∀ missing, Reports registry none (Tag.all page) missing → messages = missing.map Missing.message
  complete : ∀ missing, Reports registry none (Tag.all page) missing → ∀ m, m ∈ missing ↔
    registry.find? m.name = none ∧ ∃ path last, Leads registry page path last ∧ Names last m.name ∧
      m.owner = path.getLast?

/-- A page of clean texts that stays unresolved is blamed by its own name, for every missing component that
its references lead to, in the order of a walk through its tags. -/
theorem compose_reports {composer : Composer} {name given : Option Text} {body : Text}
    (page : composer.body? name given = some body) (clean : isClean body = true)
    (cleanRegistry : composer.registry.All isClean) {stack : Nat} {context : Text} {messages : List Text}
    (unresolved : (composer.compose stack name given).2.mapError CompositionFault.toFailure =
      .error (.fault (.unresolved context messages))) :
    context = name.getD [] ∧ PageReport composer.registry body messages := by
  rw [Composer.outcome_compose page] at unresolved
  generalize outcome : Expansion.outcomeWithin composer.registry composer.limit (stack + 1)
    (Expansion.pagePlace name) body = o at unresolved
  cases o with
  | ok text => cases unresolved
  | error e =>
      cases e with
      | circular => cases unresolved
      | tooDeep => cases unresolved
      | numeral => cases unresolved
      | outOfStack => cases unresolved
      | unresolved context missing =>
          cases unresolved
          have owner := Expansion.owner_of_unresolved cleanRegistry clean outcome
          have reports := Expansion.accounted cleanRegistry composer.limit (stack + 1)
            (Expansion.pagePlace name) body body (.inr missing) ⟨rfl, clean⟩ (Int.le_refl 0)
            (Traced.takeMissing_eq_inr.2 ⟨context, outcome⟩)
          refine ⟨owner, ⟨missing, reports, rfl⟩, fun other h => ?_, fun other h m => ?_⟩
          · exact congrArg (List.map Missing.message) (reports.unique h)
          · exact (h.mem_iff m).trans Reports.reachable_page

theorem report_of_menu :
    (Composer.compose
      ⟨⟨⟨[("Bar".toList, "<b>\x7b\x7bMenu\x7d\x7d\x7b\x7bMenu\x7d\x7d</b>".toList)]⟩⟩, 3, .empty⟩
      10 (some "home".toList) (some
        "\x7b\x7bBar\x7d\x7d\x7b\x7bMenu a=1\x7d\x7d\x7b\x7bBar x=2\x7d\x7d\x7b\x7bBar\x7d\x7d".toList)).2.mapError
        CompositionFault.toFailure = .error (.fault (.unresolved "home".toList
          ["Component \"Menu\" not found (in \"Bar\")".toList, "Component \"Menu\" not found".toList,
            "Component \"Menu\" not found (in \"Bar\")".toList])) ∧
    PageReport ⟨⟨[("Bar".toList, "<b>\x7b\x7bMenu\x7d\x7d\x7b\x7bMenu\x7d\x7d</b>".toList)]⟩⟩
      "\x7b\x7bBar\x7d\x7d\x7b\x7bMenu a=1\x7d\x7d\x7b\x7bBar x=2\x7d\x7d\x7b\x7bBar\x7d\x7d".toList
      ["Component \"Menu\" not found (in \"Bar\")".toList, "Component \"Menu\" not found".toList,
        "Component \"Menu\" not found (in \"Bar\")".toList] :=
  ⟨rfl, (@compose_reports
    ⟨⟨⟨[("Bar".toList, "<b>\x7b\x7bMenu\x7d\x7d\x7b\x7bMenu\x7d\x7d</b>".toList)]⟩⟩, 3, .empty⟩
    (some "home".toList)
    (some "\x7b\x7bBar\x7d\x7d\x7b\x7bMenu a=1\x7d\x7d\x7b\x7bBar x=2\x7d\x7d\x7b\x7bBar\x7d\x7d".toList)
    _ rfl (by decide) (Registry.all_of_entries (by decide)) 10 _ _ rfl).2⟩

end PageComposer

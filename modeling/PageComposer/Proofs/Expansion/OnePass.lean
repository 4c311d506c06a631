import PageComposer.Proofs.Expansion.Clean
import PageComposer.Proofs.Expansion.Lockstep

/-!
# Expansion in one pass

`onePass` expands a text in one pass: it copies what stands outside the tags and puts the expansion of
its component at the place of each tag, and what it has put down it never looks at again. Where all
texts are clean, replacing tag after tag in a changing text comes to the same (`compose_eq_onePass`).
-/

namespace PageComposer
open Piece

def Piece.render (body? : Text → Option Text) : List Piece → Option Text
  | [] => some []
  | char c :: rest => (render body? rest).map (c :: ·)
  | tag t :: rest => (body? t).bind fun body => (render body? rest).map (body ++ ·)

namespace Expansion

def bodyOf? (registry : Registry) (inner : List Text → Text → Option Text) (path : List Text)
    (tag : Text) : Option Text :=
  match Reference.ofTag tag with
  | .error _ => none
  | .ok ref =>
    if path.contains ref.name then none
    else (registry.find? ref.name).bind fun fragment =>
      inner (path ++ [ref.name]) (interpolate ref.props fragment)

/-- Expands a text below the components of a path in one pass, with the given number of levels left. -/
def onePass (registry : Registry) : Nat → List Text → Text → Option Text
  | 0, _, text => if Tag.occursIn text then none else some text
  | room + 1, path, text => render (bodyOf? registry (onePass registry room) path) (split text)

variable {registry : Registry} {limit : Int} {stack room : Nat} {place : Place} {text tag : Text}

theorem render_chars (body? : Text → Option Text) (s : Text) : render body? (s.map char) = some s := by
  induction s with
  | nil => rfl
  | cons c s ih => simp [render, ih]

theorem render_of_forall {body? : Text → Option Text} {bodies : Text → Text} {ts : List Text}
    {pieces : List Piece} (known : ∀ t ∈ tags pieces, t ∈ ts ∧ body? t = some (bodies t)) :
    render body? pieces = some (join (pieces.flatMap (fill (table bodies ts)))) := by
  induction pieces with
  | nil => rfl
  | cons p rest ih =>
      cases p with
      | char c => simp [render, ih known, fill, Piece.text]
      | tag t =>
          obtain ⟨⟨member, body⟩, later⟩ := List.forall_mem_cons.1 known
          simp [render, body, ih later, fill, lookup_table member]

theorem body_of_render {body? : Text → Option Text} {pieces : List Piece} {result : Text}
    (h : render body? pieces = some result) : ∀ t ∈ tags pieces, (body? t).isSome := by
  induction pieces generalizing result with
  | nil => exact fun t ht => nomatch ht
  | cons p rest ih =>
      cases p with
      | char c =>
          obtain ⟨r, hr, -⟩ := Option.map_eq_some_iff.1 h
          exact ih hr
      | tag t =>
          obtain ⟨body, found, h⟩ := Option.bind_eq_some_iff.1 h
          obtain ⟨r, hr, -⟩ := Option.map_eq_some_iff.1 h
          exact List.forall_mem_cons.2 ⟨by simp [found], ih hr⟩

theorem onePass_of_tagless (path : List Text) (tagless : Tag.occursIn text = false) :
    onePass registry room path text = some text := by
  cases room with
  | zero => simp [onePass, tagless]
  | succ room => rw [onePass, split_of_tagless tagless, render_chars]

theorem onePass_succ_eq_some_iff {path : List Text} {result : Text} :
    onePass registry (room + 1) path text = some result ↔
      ∃ bodies : Text → Text, (∀ tag ∈ Tag.all text,
        bodyOf? registry (onePass registry room) path tag = some (bodies tag)) ∧
        join (filled bodies text) = result := by
  have rendered {bodies : Text → Text} (known : ∀ tag ∈ Tag.all text,
      bodyOf? registry (onePass registry room) path tag = some (bodies tag)) :
      onePass registry (room + 1) path text = some (join (filled bodies text)) :=
    render_of_forall fun tag member => ⟨mem_all_iff.2 member, known tag (mem_all_iff.2 member)⟩
  constructor
  · intro h
    have known : ∀ tag ∈ Tag.all text, ∃ body,
        bodyOf? registry (onePass registry room) path tag = some body :=
      fun tag member => Option.isSome_iff_exists.1 (body_of_render h tag (mem_all_iff.1 member))
    choose! bodies known using known
    rw [rendered known] at h
    exact ⟨bodies, known, Option.some.inj h⟩
  · rintro ⟨bodies, known, rfl⟩
    exact rendered known

theorem bodyOf_mono {inner inner' : List Text → Text → Option Text} {path : List Text} {body : Text}
    (more : ∀ path text result, inner path text = some result → inner' path text = some result)
    (h : bodyOf? registry inner path tag = some body) : bodyOf? registry inner' path tag = some body := by
  unfold bodyOf? at h ⊢
  cases read : Reference.ofTag tag with
  | error e => simp [read] at h
  | ok ref =>
      simp only [read] at h ⊢
      split at h
      · cases h
      · rename_i new
        obtain ⟨fragment, known, inside⟩ := Option.bind_eq_some_iff.1 h
        rw [if_neg new, known]
        exact more _ _ _ inside

theorem onePass_mono {room room' : Nat} (more : room ≤ room') {path : List Text} {text result : Text}
    (h : onePass registry room path text = some result) : onePass registry room' path text = some result := by
  induction room generalizing room' path text result with
  | zero =>
      cases tagged : Tag.occursIn text with
      | true => simp [onePass, tagged] at h
      | false =>
          rw [onePass_of_tagless _ tagged] at h ⊢
          exact h
  | succ room ih =>
      obtain ⟨room', rfl⟩ : ∃ less, room' = less + 1 := Nat.exists_eq_succ_of_ne_zero (by omega)
      obtain ⟨bodies, known, filled⟩ := onePass_succ_eq_some_iff.1 h
      refine onePass_succ_eq_some_iff.2 ⟨bodies, fun tag member => ?_, filled⟩
      exact bodyOf_mono (fun _ _ _ => ih (Nat.le_of_succ_le_succ more)) (known tag member)

theorem onePass_min_eq_some_iff {room room' : Nat} {path : List Text} {result : Text} :
    onePass registry (min room room') path text = some result ↔
      onePass registry room path text = some result ∧ (onePass registry room' path text).isSome := by
  constructor
  · intro h
    exact ⟨onePass_mono (Nat.min_le_left _ _) h, by rw [onePass_mono (Nat.min_le_right _ _) h]; rfl⟩
  · rintro ⟨first, second⟩
    obtain ⟨result', second⟩ := Option.isSome_iff_exists.1 second
    rcases Nat.le_total room room' with less | more
    · rwa [Nat.min_eq_left less]
    · have same := (onePass_mono more second).symm.trans first
      rwa [Nat.min_eq_right more, ← same]

def Agreement (registry : Registry) (limit : Int) (stack : Nat) : Prop :=
  ∀ place text result, isClean text = true → Tag.occursIn text = true →
    (outcomeWithin registry limit stack place text = .ok result ↔
      onePass registry (levels limit place.depth stack) place.path text = some result)

theorem agreement_tag (cleanRegistry : registry.All isClean) (agreement : Agreement registry limit stack)
    (place : Place) (isTag : Tag.IsTag tag) (body : Text) :
    resolution registry (outcomeWithin registry limit stack) place tag = .ok (.inl body) ↔
      bodyOf? registry (onePass registry (levels limit (place.depth + 1) stack)) place.path tag = some body := by
  unfold resolution bodyOf?
  have found := refers place tag
  generalize (reference place tag).outcome = r at found ⊢
  cases found with
  | numeral read => simp [read, Except.bind]
  | circular read old => simp [read, old, Except.bind]
  | @new ref read new =>
      simp only [read, Except.bind, List.contains_eq_mem, new]
      cases known : registry.find? ref.name with
      | none => simp
      | some fragment =>
          have clean := (Reference.interpolate_ofTag isTag read (cleanRegistry _ _ known)).1
          cases nested : Tag.occursIn (interpolate ref.props fragment) with
          | true =>
              simp only [nested, if_true, Option.bind_some, Traced.takeMissing_eq_inl]
              exact agreement (place.inside ref.name) _ body clean nested
          | false => simp [nested, onePass_of_tagless _ nested]

theorem agreement (cleanRegistry : registry.All isClean) (limit : Int) (stack : Nat) :
    Agreement registry limit stack := by
  induction stack with
  | zero =>
      intro place text result _ tagged
      simp [outcomeWithin, within, Traced.fail, levels_zero, onePass, tagged]
  | succ stack ih =>
      intro place text result clean tagged
      rcases Int.lt_or_le place.depth limit with shallow | deep
      · rw [levels_of_lt shallow, outcome_eq_ok_iff cleanRegistry shallow clean, onePass_succ_eq_some_iff]
        refine exists_congr fun bodies => and_congr_left fun _ => ?_
        exact forall₂_congr fun tag member =>
          agreement_tag cleanRegistry ih place (isTag_of_mem_all member) (bodies tag)
      · rw [levels_of_le deep, onePass, if_pos tagged]
        exact iff_of_false (fun h => Int.not_lt.2 deep (shallow_of_ok tagged h)) (by simp)

theorem outcome_eq_ok_iff_onePass (cleanRegistry : registry.All isClean) (clean : isClean text = true)
    {result : Text} : outcomeWithin registry limit (stack + 1) place text = .ok result ↔
      onePass registry (levels limit place.depth (stack + 1)) place.path text = some result := by
  cases tagged : Tag.occursIn text with
  | true => exact agreement cleanRegistry limit (stack + 1) place text result clean tagged
  | false => simp [outcome_within_of_tagless tagged, onePass_of_tagless _ tagged]

end Expansion

/-- Of clean texts, a page is composed to a text exactly if one pass expands it to this text, and the call stack has
room for as many levels as one pass needs. Where it has not, the stack is what stops the composition. -/
theorem compose_eq_onePass {composer : Composer} {name given : Option Text} {body : Text}
    (page : composer.body? name given = some body) (clean : Piece.isClean body = true)
    (cleanRegistry : composer.registry.All Piece.isClean) (stack : Nat) (result : Text) :
    ((composer.compose stack name given).2 = .ok result ↔
      Expansion.onePass composer.registry composer.limit.toNat [] body = some result ∧
        (Expansion.onePass composer.registry (stack + 1) [] body).isSome) ∧
    (Expansion.onePass composer.registry composer.limit.toNat [] body = some result →
      Expansion.onePass composer.registry (stack + 1) [] body = none →
      (composer.compose stack name given).2 = .error (.expansion .outOfStack)) := by
  have composed (stack : Nat) : (composer.compose stack name given).2 = .ok result ↔
      Expansion.onePass composer.registry composer.limit.toNat [] body = some result ∧
        (Expansion.onePass composer.registry (stack + 1) [] body).isSome := by
    rw [Composer.compose_eq_ok page, Expansion.outcome_eq_ok_iff_onePass cleanRegistry clean, Expansion.levels,
      show (Expansion.pagePlace name).depth = 0 from rfl, Int.sub_zero]
    exact Expansion.onePass_min_eq_some_iff
  refine ⟨composed stack, fun expanded exhausted => ?_⟩
  -- With room for all levels the page is composed; so with less room, nothing else can stop it.
  have enough := (Composer.compose_eq_ok page).1 ((composed (max stack composer.limit.toNat)).2
    ⟨expanded, by rw [Expansion.onePass_mono (by omega) expanded]; rfl⟩)
  rw [Composer.compose_eq_error page]
  by_contra goes
  have same := Expansion.sameUnless_within_of_stack composer.registry composer.limit
    (show stack + 1 ≤ max stack composer.limit.toNat + 1 by omega) (Expansion.pagePlace name) body
    fun e failed stopped => goes (stopped ▸ failed)
  rw [Expansion.outcomeWithin, same] at enough
  have result := (composed stack).1 ((Composer.compose_eq_ok page).2 enough)
  simp [exhausted] at result

theorem compose_eq_onePass_greeting :
    (Composer.compose ⟨⟨⟨[("Greeting".toList, "Hello $\x7bname\x7d\x7b\x7bMark\x7d\x7d".toList),
        ("Mark".toList, "!".toList)]⟩⟩, 2, .empty⟩ 2 none
      (some "\x7b\x7bGreeting name=Ann\x7d\x7d \x7b\x7bMark\x7d\x7d \x7b\x7bGreeting name=Ann\x7d\x7d".toList)).2 =
      .ok "Hello Ann! ! Hello Ann!".toList :=
  (compose_eq_onePass rfl (by decide) (Registry.all_of_entries (by decide)) _ _).1.2 ⟨rfl, rfl⟩

end PageComposer

import Mathlib.Tactic.Choose
import PageComposer.Proofs.Expansion.Outcome
import PageComposer.Proofs.Expansion.Settled
import PageComposer.Proofs.Piece.Replacement
import PageComposer.Proofs.Reference

/-!
# Expanding clean texts

In a clean text the texts for its tags do not meet: an expansion succeeds exactly if each tag has a
text put for it, and it ends with these texts in the places of the tags; nothing has to be expanded once
more (`outcome_eq_ok_iff`).
-/

namespace PageComposer
open Piece

namespace Piece

theorem split_of_tagless {s : Text} (tagless : Tag.occursIn s = false) : split s = s.map char := by
  have chars (pieces : List Piece) (none : tags pieces = []) : pieces = (join pieces).map char := by
    induction pieces with
    | nil => rfl
    | cons p rest ih =>
        cases p with
        | char c => exact congrArg (char c :: ·) (ih none)
        | tag t => cases none
  have none : tags (split s) = [] := by
    rw [← occurrences_eq_tags]
    simpa [Tag.occursIn] using tagless
  simpa using chars _ none

def table (bodies : Text → Text) (ts : List Text) : List (Text × Text) := ts.map fun t => (t, bodies t)

theorem lookup_table {bodies : Text → Text} {ts : List Text} {t : Text} (h : t ∈ ts) :
    (table bodies ts).lookup t = some (bodies t) := by
  induction ts with
  | nil => cases h
  | cons u ts ih =>
      by_cases same : t = u
      · subst same
        simp [table]
      · have apart : (t == u) = false := by simpa using same
        simpa [table, List.lookup_cons, apart] using ih (List.mem_of_ne_of_mem same h)

theorem tags_flatMap_fill {bodies : Text → Text} {ts : List Text} {pieces : List Piece}
    (h : ∀ t ∈ tags pieces, t ∈ ts) : tags (pieces.flatMap (fill (table bodies ts))) = [] := by
  induction pieces with
  | nil => rfl
  | cons p rest ih =>
      rw [List.flatMap_cons, tags_append]
      cases p with
      | char c => exact ih h
      | tag t =>
          obtain ⟨first, later⟩ := List.forall_mem_cons.1 h
          simp [fill, lookup_table first, ih later]

end Piece

def Registry.All (registry : Registry) (kind : Text → Bool) : Prop :=
  ∀ name fragment, registry.find? name = some fragment → kind fragment = true

theorem Registry.all_of_entries {entries : List (Text × Text)} {kind : Text → Bool}
    (h : ∀ e ∈ entries, kind e.2 = true) : Registry.All ⟨⟨entries⟩⟩ kind := by
  intro name fragment found
  obtain ⟨before, after, rfl, -⟩ := List.lookup_eq_some_iff.1 found
  exact h (name, fragment) (by simp)

namespace Expansion
variable {registry : Registry} {limit : Int} {stack : Nat} {place : Place} {text : Text}

theorem resolutions_of_forall {inner : Place → Text → Except ExpansionFault Text} {tags : List Text}
    {results : Text → Text ⊕ List Missing}
    (h : ∀ tag ∈ tags, resolution registry inner place tag = .ok (results tag)) :
    resolutions registry inner place tags = .ok (tags.map fun tag => (tag, results tag)) := by
  induction tags with
  | nil => rfl
  | cons tag tags ih =>
      obtain ⟨first, later⟩ := List.forall_mem_cons.1 h
      simp [resolutions, first, ih later, Except.bind, Except.map]

structure Finished (body : Text) : Prop where
  clean : isClean body = true
  tagless : Tag.occursIn body = false

def filled (bodies : Text → Text) (text : Text) : List Piece :=
  (split text).flatMap (fill (table bodies (Tag.all text)))

theorem plain_table {bodies : Text → Text} {tags : List Text}
    (finished : ∀ tag ∈ tags, Finished (bodies tag)) : Plain (table bodies tags) := by
  intro e he
  obtain ⟨t, ht, rfl⟩ := List.mem_map.1 he
  have body := finished t ht
  rw [← split_of_tagless body.tagless]
  exact isClean_iff.1 body.clean

theorem finished_filled {bodies : Text → Text} (clean : isClean text = true)
    (finished : ∀ tag ∈ Tag.all text, Finished (bodies tag)) : Finished (join (filled bodies text)) := by
  have cleanFilled := clean_flatMap_fill (plain_table finished) (isClean_iff.1 clean)
  refine ⟨cleanFilled.isClean_join, ?_⟩
  rw [Tag.occursIn, occurrences_eq_tags, filled, split_join cleanFilled,
    tags_flatMap_fill fun t ht => mem_all_iff.2 ht]
  rfl

theorem foldl_replace_eq_filled {bodies : Text → Text} (clean : isClean text = true)
    (finished : ∀ tag ∈ Tag.all text, Finished (bodies tag)) :
    (table bodies (Tag.all text)).foldl (fun s e => Text.replace e.1 e.2 s) text =
      join (filled bodies text) := by
  -- Replacing tag after tag puts every text in its place.
  have isTag : ∀ e ∈ table bodies (Tag.all text), Tag.IsTag e.1 := by
    intro e he
    obtain ⟨t, ht, rfl⟩ := List.mem_map.1 he
    exact isTag_of_mem_all ht
  have replaced := foldl_replace_join isTag (plain_table finished) (isClean_iff.1 clean)
  rwa [join_split] at replaced

theorem outcome_of_bodies {bodies : Text → Text} (shallow : place.depth < limit) (clean : isClean text = true)
    (resolved : ∀ tag ∈ Tag.all text,
      resolution registry (outcomeWithin registry limit stack) place tag = .ok (.inl (bodies tag)))
    (finished : ∀ tag ∈ Tag.all text, Finished (bodies tag)) :
    outcomeWithin registry limit (stack + 1) place text = .ok (join (filled bodies text)) := by
  have replaced := foldl_replace_eq_filled clean finished
  rw [table, List.foldl_map] at replaced
  have progress : ((Tag.all text).map fun tag => (tag, Sum.inl (bodies tag))).foldl settle ⟨text, []⟩ =
      ⟨join (filled bodies text), []⟩ := by
    rw [foldl_settle, List.foldl_map]
    exact congrArg₂ Progress.mk replaced (by simp)
  rw [outcome_within_of_lt shallow, resolutions_of_forall resolved]
  simp only [Except.bind, progress, (finished_filled clean finished).tagless]
  rfl

theorem finished_of_resolution (cleanRegistry : registry.All isClean)
    (inner : ∀ place text result, isClean text = true →
      outcomeWithin registry limit stack place text = .ok result → isClean result = true)
    {tag body : Text} (isTag : Tag.IsTag tag)
    (h : resolution registry (outcomeWithin registry limit stack) place tag = .ok (.inl body)) :
    Finished body := by
  have found := resolves registry (outcomeWithin registry limit stack) place tag
  rw [h] at found
  cases found with
  | nested read _ known _ ok =>
      have clean := (Reference.interpolate_ofTag isTag read (cleanRegistry _ _ known)).1
      rw [Traced.takeMissing_eq_inl] at ok
      exact ⟨inner _ _ _ clean ok, tagless_of_outcome_ok ok⟩
  | plain read _ known tagless =>
      exact ⟨(Reference.interpolate_ofTag isTag read (cleanRegistry _ _ known)).1, tagless⟩

theorem clean_of_outcome_ok (cleanRegistry : registry.All isClean) {result : Text}
    (clean : isClean text = true) (h : outcomeWithin registry limit stack place text = .ok result) :
    isClean result = true := by
  induction stack generalizing place text result with
  | zero => cases h
  | succ stack ih =>
      cases tagged : Tag.occursIn text with
      | false =>
          rw [outcome_within_of_tagless tagged] at h
          cases h
          exact clean
      | true =>
          have shallow := shallow_of_ok tagged h
          choose! bodies resolved using resolution_of_outcome_ok shallow h
          have finished : ∀ tag ∈ Tag.all text, Finished (bodies tag) := fun tag member =>
            finished_of_resolution cleanRegistry (fun _ _ _ => ih) (isTag_of_mem_all member) (resolved tag member)
          rw [outcome_of_bodies shallow clean resolved finished] at h
          cases h
          exact (finished_filled clean finished).clean

theorem outcome_eq_ok_iff (cleanRegistry : registry.All isClean) (shallow : place.depth < limit)
    (clean : isClean text = true) {result : Text} :
    outcomeWithin registry limit (stack + 1) place text = .ok result ↔
      ∃ bodies : Text → Text, (∀ tag ∈ Tag.all text,
        resolution registry (outcomeWithin registry limit stack) place tag = .ok (.inl (bodies tag))) ∧
        join (filled bodies text) = result := by
  have outcome {bodies : Text → Text} (resolved : ∀ tag ∈ Tag.all text,
      resolution registry (outcomeWithin registry limit stack) place tag = .ok (.inl (bodies tag))) :=
    outcome_of_bodies shallow clean resolved fun tag member =>
      finished_of_resolution cleanRegistry (fun _ _ _ => clean_of_outcome_ok cleanRegistry)
        (isTag_of_mem_all member) (resolved tag member)
  constructor
  · intro h
    choose! bodies resolved using resolution_of_outcome_ok shallow h
    rw [outcome resolved] at h
    exact ⟨bodies, resolved, Except.ok.inj h⟩
  · rintro ⟨bodies, resolved, rfl⟩
    exact outcome resolved

end Expansion
end PageComposer

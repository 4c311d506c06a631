import PageComposer.Proofs.Expansion.Clean
import PageComposer.Proofs.Tag.Call
import PageComposer.Proofs.Value.Reading

/-!
# Forwarding a property

In a relay each component hands its property on to the next one, and the last one shows it. At every step
the value is written into a tag, found there and read again; what is shown in the end is what the value looks
like when it has been read once (`compose_relay`).
-/

namespace PageComposer

theorem interpolate_single (key : Text) (value : Value) (s : Text) :
    interpolate ⟨[(key, value)]⟩ s = Text.replace (Property.token key) value.onPage s := by
  have same (skip : Nat) : Interpolation.replaceFrom [(key, value)] skip s =
      Text.replaceFrom (Property.token key) value.onPage skip s := by
    induction s generalizing skip with
    | nil => cases skip <;> rfl
    | cons c s ih =>
        cases skip with
        | succ skip => exact ih skip
        | zero =>
            rw [Interpolation.replaceFrom, Text.replaceFrom, List.find?_cons]
            cases (Property.token key).isPrefixOf (c :: s) with
            | true => exact congrArg (value.onPage ++ ·) (ih _)
            | false => exact congrArg (c :: ·) (ih 0)
  exact same 0

namespace Text
variable {old new s : Text} {c : Char}

theorem mem_replaceFrom (skip : Nat) (h : c ∈ replaceFrom old new skip s) :
    c ∈ new ∨ c ∈ replaceFrom old [] skip s := by
  induction s generalizing skip with
  | nil => cases skip <;> cases h
  | cons d s ih =>
      cases skip with
      | succ skip => exact ih skip h
      | zero =>
          unfold replaceFrom at h ⊢
          split at h
          · rename_i start
            rw [if_pos start]
            exact (List.mem_append.1 h).elim .inl (ih _)
          · rename_i start
            rw [if_neg start]
            rcases List.mem_cons.1 h with here | later
            · exact .inr (here ▸ List.mem_cons_self)
            · exact (ih 0 later).imp_right (List.mem_cons_of_mem _)

theorem mem_replace (h : c ∈ replace old new s) : c ∈ new ∨ c ∈ replace old [] s := mem_replaceFrom 0 h

theorem replace_of_not_mem (inOld : c ∈ old) (missing : c ∉ s) : replace old new s = s := by
  induction s with
  | nil => rfl
  | cons d s ih =>
      have apart : ¬old <+: d :: s := fun start => missing (start.subset inOld)
      rw [replace_cons_of_apart apart, ih fun later => missing (List.mem_cons_of_mem _ later)]

end Text

namespace Property
variable {key s : Text}

theorem replace_token_append (new : Text) (dollarless : '$' ∉ s) (rest : Text) :
    Text.replace (token key) new (s ++ rest) = s ++ Text.replace (token key) new rest := by
  induction s with
  | nil => rfl
  | cons c s ih =>
      obtain ⟨ne, later⟩ := List.ne_and_not_mem_of_not_mem_cons dollarless
      have apart : ¬token key <+: c :: (s ++ rest) := Interpolation.not_token_start_of_ne ne.symm key
      rw [List.cons_append, Text.replace_cons_of_apart apart, ih later, List.cons_append]

theorem replace_token_opening (new : Text) (word : ∀ c ∈ key, isWordChar c = true) (braceless : '\x7b' ∉ s)
    (rest : Text) : Text.replace (token key) new (s ++ '\x7b' :: '\x7b' :: rest) =
      s ++ Text.replace (token key) new ('\x7b' :: '\x7b' :: rest) := by
  induction s with
  | nil => rfl
  | cons c s ih =>
      obtain ⟨-, later⟩ := List.ne_and_not_mem_of_not_mem_cons braceless
      have apart : ¬token key <+: c :: (s ++ '\x7b' :: '\x7b' :: rest) := by
        cases s with
        | cons d s => exact Interpolation.not_token_start (.inr (List.ne_and_not_mem_of_not_mem_cons later).1.symm) key
        | nil =>
            rintro ⟨more, same⟩
            simp only [token, List.cons_append, List.nil_append, List.cons.injEq] at same
            have third := same.2.2
            cases key with
            | nil => exact absurd (List.cons.inj third).1 (by decide)
            | cons d key =>
                have first := (List.cons.inj third).1
                exact absurd (word d (by simp)) (by rw [first]; decide)
      rw [List.cons_append, Text.replace_cons_of_apart apart, ih later, List.cons_append]

end Property

namespace Expansion
open Piece
variable {registry : Registry} {limit : Int} {stack : Nat} {place : Place} {tag before behind body : Text}

theorem finished_of_braceless (braceless : Tag.Braceless body) : Finished body := by
  have none : '\x7b' ∉ body := fun h => absurd (braceless _ h) (by decide)
  have clean := Clean.chars none
  have split := split_join clean
  rw [join_chars] at split
  refine ⟨?_, ?_⟩
  · rw [isClean_iff, split]
    exact clean
  · rw [Tag.occursIn, occurrences_eq_tags, split, tags_chars]
    rfl

theorem occursIn_around (isTag : Tag.IsTag tag) (before' : Tag.Braceless before)
    (behind' : Tag.Braceless behind) : Tag.occursIn (before ++ (tag ++ behind)) = true := by
  rw [Tag.occursIn, occurrences_around isTag before' behind']
  rfl

theorem all_around (isTag : Tag.IsTag tag) (before' : Tag.Braceless before) (behind' : Tag.Braceless behind) :
    Tag.all (before ++ (tag ++ behind)) = [tag] := by
  rw [Tag.all, occurrences_around isTag before' behind']
  rfl

theorem outcome_around (shallow : place.depth < limit) (isTag : Tag.IsTag tag) (before' : Tag.Braceless before)
    (behind' : Tag.Braceless behind) (body' : Tag.Braceless body)
    (resolved : resolution registry (outcomeWithin registry limit stack) place tag = .ok (.inl body)) :
    outcomeWithin registry limit (stack + 1) place (before ++ (tag ++ behind)) =
      .ok (before ++ (body ++ behind)) := by
  obtain ⟨clean, split⟩ := split_around isTag before' behind'
  have all := all_around isTag before' behind'
  have member : tag ∈ Tag.all (before ++ (tag ++ behind)) := by
    rw [all]
    exact List.mem_cons_self
  have only : ∀ t ∈ Tag.all (before ++ (tag ++ behind)), t = tag := by
    rw [all]
    exact fun t => List.mem_singleton.1
  have outcome : outcomeWithin registry limit (stack + 1) place (before ++ (tag ++ behind)) =
      .ok (join (filled (fun _ => body) (before ++ (tag ++ behind)))) :=
    outcome_of_bodies shallow (isClean_iff.2 (split ▸ clean)) (fun t ht => only t ht ▸ resolved)
      fun _ _ => finished_of_braceless body'
  rw [outcome, filled, split]
  simp [flatMap_fill_chars, fill, lookup_table member]

theorem outcome_around_of_error (shallow : place.depth < limit) (isTag : Tag.IsTag tag)
    (before' : Tag.Braceless before) (behind' : Tag.Braceless behind) {e : ExpansionFault}
    (failed : resolution registry (outcomeWithin registry limit stack) place tag = .error e) :
    outcomeWithin registry limit (stack + 1) place (before ++ (tag ++ behind)) = .error e := by
  rw [outcome_within_of_lt shallow, all_around isTag before' behind', resolutions, failed]
  rfl

end Expansion

structure Receiver where
  name : Text
  key : Text

/-- Components that hand a property on, each to the next one, and a last one that shows it. -/
inductive Relay where
  | last (receiver : Receiver) (fragment : Text)
  | hop (receiver : Receiver) (before behind : Text) (next : Relay)

structure Receiver.Fits (receiver : Receiver) : Prop where
  valid : ComponentName.isValid receiver.name = true
  word : ∀ c ∈ receiver.key, Property.isWordChar c = true
  keyed : receiver.key ≠ []

def Receiver.call (receiver : Receiver) (v : Text) : Text := Tag.call receiver.name receiver.key v

namespace Relay

def receiver : Relay → Receiver
  | last r _ => r
  | hop r _ _ _ => r

def components : Relay → List (Text × Text)
  | last r fragment => [(r.name, fragment)]
  | hop r before behind next =>
    (r.name, before ++ (next.receiver.call (Property.token r.key) ++ behind)) :: next.components

def names (relay : Relay) : List Text := relay.components.map (·.1)

theorem names_length_pos (relay : Relay) : 0 < relay.names.length := by
  cases relay <;> exact Nat.succ_pos _

def shows : Relay → Text → Text
  | last r fragment, shown => Text.replace (Property.token r.key) shown fragment
  | hop _ before behind next, shown => before ++ (next.shows shown ++ behind)

/-- The texts hold no braces, save those of the tags and the tokens. -/
inductive Fits : Relay → Prop
  | last {r fragment} : r.Fits → Tag.Braceless (Text.replace (Property.token r.key) [] fragment) →
      Fits (last r fragment)
  | hop {r before behind next} : r.Fits → Tag.Braceless before → Tag.Braceless behind → Fits next →
      Fits (hop r before behind next)

theorem Fits.receiver {relay : Relay} (h : Fits relay) : relay.receiver.Fits := by
  cases h <;> assumption

theorem braceless_shows {relay : Relay} (h : Fits relay) {shown : Text} (braceless : Tag.Braceless shown) :
    Tag.Braceless (relay.shows shown) := by
  induction h with
  | last _ rest =>
      intro c hc
      exact (Text.mem_replace hc).elim (braceless c) (rest c)
  | hop _ before behind _ ih => exact before.append (ih.append behind)

end Relay

namespace Receiver
variable {receiver : Receiver} {v : Text}

theorem call_eq (receiver : Receiver) (v : Text) : receiver.call v =
    ('\x7b' :: '\x7b' :: (receiver.name ++ ' ' :: (receiver.key ++ ['=', '"']))) ++ (v ++ ['"', '\x7d', '\x7d']) := by
  simp [call, Tag.call, Tag.written, Tag.opening, Tag.closing]

theorem dollarless (fits : receiver.Fits) :
    '$' ∉ '\x7b' :: '\x7b' :: (receiver.name ++ ' ' :: (receiver.key ++ ['=', '"'])) := by
  have inName : '$' ∉ receiver.name := fun h =>
    absurd ((ComponentName.nameChars_of_isValid fits.valid).2 _ h) (by decide)
  have inKey : '$' ∉ receiver.key := fun h => absurd (fits.word _ h) (by decide)
  simp [inName, inKey]

theorem isTag_call (fits : receiver.Fits) (braceless : Tag.Braceless v) : Tag.IsTag (receiver.call v) :=
  have named := ComponentName.nameChars_of_isValid fits.valid
  Tag.isTag_call named.1 named.2 fits.word braceless

theorem ofTag_call (fits : receiver.Fits) (quoteless : '"' ∉ v) {value : Value}
    (read : Property.coerce v = .ok value) :
    Reference.ofTag (receiver.call v) = .ok ⟨receiver.name, ⟨[(receiver.key, value)]⟩⟩ :=
  have named := ComponentName.nameChars_of_isValid fits.valid
  Reference.ofTag_call named.1 named.2 fits.word fits.keyed quoteless read

theorem interpolate_call (fits : receiver.Fits) {key before behind : Text}
    (word : ∀ c ∈ key, Property.isWordChar c = true) (before' : Tag.Braceless before)
    (behind' : Tag.Braceless behind) (value : Value) :
    interpolate ⟨[(key, value)]⟩ (before ++ (receiver.call (Property.token key) ++ behind)) =
      before ++ (receiver.call value.onPage ++ behind) := by
  have noOpening : '\x7b' ∉ before := fun h => absurd (before' _ h) (by decide)
  have noToken : '\x7b' ∉ ['"', '\x7d', '\x7d'] ++ behind := by
    have inBehind : '\x7b' ∉ behind := fun h => absurd (behind' _ h) (by decide)
    simp [inBehind]
  have opens := Property.replace_token_opening value.onPage word noOpening
  have passes (rest : Text) := @Property.replace_token_append key _ value.onPage (dollarless fits) rest
  have brace : '\x7b' ∈ Property.token key := by simp [Property.token]
  have ends := @Text.replace_of_not_mem _ value.onPage _ _ brace noToken
  rw [interpolate_single, call_eq, call_eq]
  simp only [List.cons_append, List.append_assoc, List.nil_append] at opens passes ends ⊢
  rw [opens, passes, Text.replace_append_old (by simp [Property.token]), ends]

end Receiver

namespace Expansion
variable {registry : Registry} {limit : Int} {stack : Nat} {place : Place} {relay : Relay} {v : Text}
  {value : Value}

theorem quoteless_onPage (read : Property.coerce v = .ok value) (quoteless : '"' ∉ v) : '"' ∉ value.onPage := by
  intro h
  rcases mem_onPage read h with written | plain
  · exact quoteless written
  · exact absurd plain (by decide)

theorem resolution_of_fragment {receiver : Receiver} {fragment : Text} (fits : receiver.Fits)
    (quoteless : '"' ∉ v) (read : Property.coerce v = .ok value) (new : receiver.name ∉ place.path)
    (known : registry.find? receiver.name = some fragment)
    (inner : Place → Text → Except ExpansionFault Text) :
    resolution registry inner place (receiver.call v) =
      if Tag.occursIn (interpolate ⟨[(receiver.key, value)]⟩ fragment) then
        Traced.takeMissing (inner (place.inside receiver.name) (interpolate ⟨[(receiver.key, value)]⟩ fragment))
      else .ok (.inl (interpolate ⟨[(receiver.key, value)]⟩ fragment)) := by
  have refers := refers place (receiver.call v)
  have read := receiver.ofTag_call fits quoteless read
  unfold resolution
  generalize (reference place (receiver.call v)).outcome = r at refers ⊢
  cases refers with
  | numeral failed =>
      rw [read] at failed
      cases failed
  | circular read' old =>
      rw [read] at read'
      cases read'
      exact absurd old new
  | new read' _ =>
      rw [read] at read'
      cases read'
      simp only [Except.bind, known]

theorem resolution_relay (fits : relay.Fits) (quoteless : '"' ∉ v) (braceless : Tag.Braceless v)
    (read : Property.coerce v = .ok value) (distinct : relay.names.Nodup)
    (new : ∀ name ∈ relay.names, name ∉ place.path)
    (registered : ∀ e ∈ relay.components, registry.find? e.1 = some e.2)
    (enough : place.depth + relay.names.length ≤ limit) :
    resolution registry (outcomeWithin registry limit stack) place (relay.receiver.call v) =
      if relay.names.length ≤ stack + 1 then .ok (.inl (relay.shows value.onPage)) else .error .outOfStack := by
  have shown := braceless_onPage read braceless
  induction fits generalizing v value place stack with
  | last fits rest =>
      have known := registered _ List.mem_cons_self
      rw [Relay.receiver, resolution_of_fragment fits quoteless read (new _ List.mem_cons_self) known,
        interpolate_single]
      have result := finished_of_braceless (Relay.braceless_shows (.last fits rest) shown)
      rw [Relay.shows] at result
      simp [result.tagless, Relay.shows, Relay.names, Relay.components]
  | @hop r before behind next fits before' behind' fitsNext ih =>
      obtain ⟨known, later⟩ := List.forall_mem_cons.1 registered
      obtain ⟨newHere, newLater⟩ := List.forall_mem_cons.1 new
      obtain ⟨first, distinct⟩ := List.nodup_cons.1 distinct
      obtain ⟨value', read', same⟩ := Property.readsBack_onPage read
      have isTag := Receiver.isTag_call fitsNext.receiver shown
      have length : (Relay.hop r before behind next).names.length = next.names.length + 1 := rfl
      have some := next.names_length_pos
      rw [length, Int.natCast_succ] at enough
      rw [Relay.receiver, resolution_of_fragment fits quoteless read newHere known,
        Receiver.interpolate_call fitsNext.receiver fits.word before' behind' value,
        if_pos (occursIn_around isTag before' behind'), length, Relay.shows]
      cases stack with
      | zero =>
          rw [if_neg (by omega)]
          rfl
      | succ stack =>
          have shallow : (place.inside r.name).depth < limit := by
            simp only [Place.inside]
            omega
          have newInside : ∀ name ∈ next.names, name ∉ (place.inside r.name).path := by
            intro name hn
            rw [Place.inside, List.mem_append, List.mem_singleton, not_or]
            exact ⟨newLater name hn, fun h => first (h ▸ hn)⟩
          have inside : resolution registry (outcomeWithin registry limit stack) (place.inside r.name)
              (next.receiver.call value.onPage) = _ :=
            ih (quoteless_onPage read quoteless) shown read' distinct newInside later
              (by simp only [Place.inside]; omega) (same.symm ▸ shown)
          rw [same] at inside
          by_cases room : next.names.length ≤ stack + 1
          · rw [if_pos room] at inside
            rw [if_pos (Nat.succ_le_succ room), Traced.takeMissing_eq_inl]
            exact outcome_around shallow isTag before' behind' (Relay.braceless_shows fitsNext shown) inside
          · rw [if_neg room] at inside
            rw [if_neg (fun h => room (Nat.le_of_succ_le_succ h)), Traced.takeMissing_eq_error]
            exact ⟨outcome_around_of_error shallow isTag before' behind' inside, by simp⟩

end Expansion

/-- A page that calls the first component of a relay is composed to what the relay shows of the value, if the call stack
has room for all of its components but the last; otherwise the stack is what stops the composition. -/
theorem compose_relay {composer : Composer} {name given : Option Text} {relay : Relay} {v : Text} {value : Value}
    (fits : relay.Fits) (distinct : relay.names.Nodup)
    (registered : ∀ e ∈ relay.components, composer.registry.find? e.1 = some e.2)
    (enough : relay.names.length ≤ composer.limit) (quoteless : '"' ∉ v) (braceless : Tag.Braceless v)
    (read : Property.coerce v = .ok value)
    (page : composer.body? name given = some (relay.receiver.call v)) (stack : Nat) :
    (composer.compose stack name given).2 = if relay.names.length ≤ stack + 1 then .ok (relay.shows value.onPage)
      else .error (.expansion .outOfStack) := by
  have some := relay.names_length_pos
  have shallow : (Expansion.pagePlace name).depth < composer.limit := by
    simp only [Expansion.pagePlace]
    omega
  have resolved :
    Expansion.resolution composer.registry (Expansion.outcomeWithin composer.registry composer.limit stack)
      (Expansion.pagePlace name) (relay.receiver.call v) = _ :=
    Expansion.resolution_relay fits quoteless braceless read distinct (fun _ _ => List.not_mem_nil) registered
      (by simpa [Expansion.pagePlace] using enough)
  have isTag := Receiver.isTag_call fits.receiver braceless
  have shown := Relay.braceless_shows fits (braceless_onPage read braceless)
  have none : Tag.Braceless [] := Tag.braceless_of_all rfl
  by_cases room : relay.names.length ≤ stack + 1
  · rw [if_pos room] at resolved ⊢
    have outcome := Expansion.outcome_around shallow isTag none none shown resolved
    rw [Composer.compose_eq_ok page]
    simpa using outcome
  · rw [if_neg room] at resolved ⊢
    have outcome := Expansion.outcome_around_of_error shallow isTag none none resolved
    rw [Composer.compose_eq_error page]
    simpa using outcome

theorem relay_of_thousand : (Composer.compose ⟨⟨⟨[
      ("Card".toList, "[\x7b\x7bui/Text label=\"$\x7btitle\x7d\"\x7d\x7d]".toList),
      ("ui/Text".toList, "<b>$\x7blabel\x7d $\x7blabel\x7d</b>".toList)]⟩⟩, 2, .empty⟩ 10 none
      (some "\x7b\x7bCard title=\"1e3\"\x7d\x7d".toList)).2 = .ok "[<b>1000 1000</b>]".toList :=
  @compose_relay _ none (some "\x7b\x7bCard title=\"1e3\"\x7d\x7d".toList)
    (.hop ⟨"Card".toList, "title".toList⟩ "[".toList "]".toList
      (.last ⟨"ui/Text".toList, "label".toList⟩ "<b>$\x7blabel\x7d $\x7blabel\x7d</b>".toList))
    "1e3".toList (.number (Binary64.ofInt 1000))
    (.hop ⟨by decide, List.all_eq_true.1 rfl, by decide⟩ (Tag.braceless_of_all rfl) (Tag.braceless_of_all rfl)
      (.last ⟨by decide, List.all_eq_true.1 rfl, by decide⟩ (Tag.braceless_of_all rfl)))
    (by decide) (by decide) (by decide) (by decide) (Tag.braceless_of_all rfl)
    (Property.coerce_decimal false (c := 'e')
      (fun c h => Option.some.inj (show some '1' = some c from h) ▸ rfl) (by decide) rfl (by decide +kernel)) rfl 10

end PageComposer

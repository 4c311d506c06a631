import PageComposer.Proofs.Expansion.Outcome

/-!
# Nesting

Where the texts stand that an expansion of a page opens. The path grows with the components and the
depth with every text opened inside another one, also with a text expanded once more; so the limit bounds
how many texts are open at one time, whatever the registry holds (`compose_orderly`).
-/

namespace PageComposer

def Event.change : Event → Int
  | opened _ _ _ => 1
  | closed _ _ => -1
  | lookedUp _ => 0
  | resolved _ _ _ => 0

def openTexts : List Event → Int
  | [] => 0
  | e :: events => e.change + openTexts events

@[simp] theorem openTexts_nil : openTexts [] = 0 := rfl

@[simp] theorem openTexts_cons (e : Event) (events : List Event) :
    openTexts (e :: events) = e.change + openTexts events := rfl

@[simp] theorem openTexts_append (s t : List Event) : openTexts (s ++ t) = openTexts s + openTexts t := by
  induction s with
  | nil => simp
  | cons e s ih =>
      simp only [List.cons_append, openTexts_cons, ih]
      omega

namespace Expansion

structure Proper (registry : Registry) (limit : Int) (page : Text) (place : Place) : Prop where
  distinct : place.path.Nodup
  registered : ∀ name ∈ place.path, (registry.find? name).isSome
  shallow : place.path.length ≤ place.depth
  last : place.owner = place.path.getLast?.getD page
  within : place.depth ≤ max 0 limit

/-- A circle: a path of registered components, and one of them once more. -/
def Circle (registry : Registry) (limit : Int) (context : Text) (path : List Text) : Prop :=
  ∃ visited name, path = visited ++ [name] ∧ visited.Nodup ∧
    (∀ n ∈ visited, (registry.find? n).isSome) ∧ name ∈ visited ∧ visited.getLast? = some context ∧
    visited.length ≤ limit

/-- Events of an expansion that has at most `height` texts open at one time and closes them all. -/
structure Orderly (registry : Registry) (limit : Int) (page : Text) (height : Int)
    (events : List Event) : Prop where
  bounded : ∀ before, before <+: events → openTexts before ≤ height
  settled : openTexts events = 0
  opened : ∀ owner depth path, .opened owner depth path ∈ events →
    Proper registry limit page ⟨owner, depth, path⟩
  resolved : ∀ name owner depth, .resolved name owner depth ∈ events → depth < limit

variable {registry : Registry} {limit : Int} {page : Text} {place : Place} {height : Int}

theorem Proper.inside (proper : Proper registry limit page place) {name : Text}
    (new : name ∉ place.path) (registered : (registry.find? name).isSome) (room : place.depth < max 0 limit) :
    Proper registry limit page (place.inside name) where
  distinct := by
    simp only [Place.inside]
    rw [List.nodup_append]
    refine ⟨proper.distinct, by simp, ?_⟩
    rintro a ha b hb rfl
    rw [List.mem_singleton.1 hb] at ha
    exact new ha
  registered := by
    intro n hn
    rcases List.mem_append.1 hn with before | same
    · exact proper.registered n before
    · rw [List.mem_singleton.1 same]
      exact registered
  shallow := by
    have shallow := proper.shallow
    simp only [Place.inside, List.length_append, List.length_singleton]
    omega
  last := by simp [Place.inside]
  within := by
    simp only [Place.inside]
    omega

theorem Proper.again (proper : Proper registry limit page place) (room : place.depth < max 0 limit) :
    Proper registry limit page place.again where
  distinct := proper.distinct
  registered := proper.registered
  shallow := by
    have shallow := proper.shallow
    simp only [Place.again]
    omega
  last := proper.last
  within := by
    simp only [Place.again]
    omega

theorem Proper.nonneg (proper : Proper registry limit page place) : 0 ≤ place.depth := by
  have shallow := proper.shallow
  omega

theorem Proper.circle (proper : Proper registry limit page place) {name : Text} (known : name ∈ place.path) :
    Circle registry limit place.owner (place.path ++ [name]) := by
  refine ⟨place.path, name, rfl, proper.distinct, proper.registered, known, ?_, ?_⟩
  · rw [proper.last]
    cases last : place.path.getLast? with
    | none =>
        rw [List.getLast?_eq_none_iff.1 last] at known
        cases known
    | some n => rfl
  · have nonempty := List.length_pos_of_mem known
    have shallow := proper.shallow
    have within := proper.within
    omega

theorem Orderly.additive (registry : Registry) (limit : Int) (page : Text) (nonneg : 0 ≤ height) :
    Traced.Additive (Orderly registry limit page height) where
  nil := by
    refine ⟨fun before h => ?_, rfl, by simp, by simp⟩
    rw [List.prefix_nil.1 h]
    exact nonneg
  append := by
    intro s t hs ht
    refine ⟨fun before h => ?_, ?_, ?_, ?_⟩
    · rcases List.prefix_or_prefix_of_prefix h (List.prefix_append s t) with inside | ⟨rest, rfl⟩
      · exact hs.bounded before inside
      · have later := ht.bounded rest ((List.prefix_append_right_inj s).1 h)
        rw [openTexts_append, hs.settled]
        omega
    · rw [openTexts_append, hs.settled, ht.settled]
      rfl
    · intro owner depth path h
      exact (List.mem_append.1 h).elim (hs.opened _ _ _) (ht.opened _ _ _)
    · intro name owner depth h
      exact (List.mem_append.1 h).elim (hs.resolved _ _ _) (ht.resolved _ _ _)

theorem Orderly.single {e : Event} (nonneg : 0 ≤ height) (still : e.change = 0)
    (resolved : ∀ name owner depth, e = .resolved name owner depth → depth < limit) :
    Orderly registry limit page height [e] := by
  refine ⟨fun before h => ?_, by simp [still], ?_, ?_⟩
  · rcases List.prefix_cons_iff.1 h with rfl | ⟨rest, rfl, inside⟩
    · exact nonneg
    · rw [List.prefix_nil.1 inside]
      simpa [still] using nonneg
  · intro owner depth path member
    rw [← List.mem_singleton.1 member] at still
    cases still
  · intro name owner depth member
    exact resolved name owner depth (List.mem_singleton.1 member).symm

theorem Orderly.enclose (proper : Proper registry limit page place) {events : List Event}
    (h : Orderly registry limit page height events) (nonneg : 0 ≤ height) :
    Orderly registry limit page (height + 1)
      (.opened place.owner place.depth place.path :: (events ++ [.closed place.owner place.depth])) where
  bounded := by
    intro before start
    rcases List.prefix_cons_iff.1 start with rfl | ⟨rest, rfl, inside⟩
    · simp only [openTexts_nil]
      omega
    · rcases List.prefix_concat_iff.1 inside with rfl | inside
      · simp [Event.change, h.settled]
        omega
      · have bound := h.bounded rest inside
        simp only [openTexts_cons, Event.change]
        omega
  settled := by simp [Event.change, h.settled]
  opened := by
    intro owner depth path member
    simp only [List.mem_cons, List.mem_append, List.not_mem_nil, or_false, reduceCtorEq, Event.opened.injEq]
      at member
    rcases member with ⟨rfl, rfl, rfl⟩ | member
    · exact proper
    · exact h.opened _ _ _ member
  resolved := by
    intro name owner depth member
    simp only [List.mem_cons, List.mem_append, List.not_mem_nil, or_false, reduceCtorEq, false_or] at member
    exact h.resolved _ _ _ member

def Blamed (registry : Registry) (limit : Int) (e : ExpansionFault) : Prop :=
  ∀ context path, e = .circular context path → Circle registry limit context path

abbrev Kept (registry : Registry) (limit : Int) (page : Text) (height : Int) {α : Type} (Q : α → Prop) :
    Traced α → Prop :=
  Traced.Ensures (Orderly registry limit page height) Q (Blamed registry limit)

theorem reference_kept (proper : Proper registry limit page place) (nonneg : 0 ≤ height) (tag : Text) :
    Kept registry limit page height (fun ref => ref.name ∉ place.path) (reference place tag) := by
  have additive := Orderly.additive registry limit page nonneg
  have read : Kept registry limit page height (fun _ => True)
      (Traced.ofExcept ((Reference.ofTag tag).mapError .numeral)) := by
    refine .ofExcept additive (fun _ _ => trivial) fun e he context path same => ?_
    subst same
    cases read : Reference.ofTag tag <;> simp [read] at he
  refine .bind additive read fun ref _ => ?_
  by_cases known : ref.name ∈ place.path
  · simp only [known, if_true]
    refine .bind additive (Q := fun _ => False) (.fail additive ?_) fun _ h => h.elim
    intro context path same
    cases same
    exact proper.circle known
  · simp only [known, if_false]
    exact .pure additive known

theorem substitute_kept (nonneg : 0 ≤ height) (room : place.depth < limit) (progress : Progress)
    (tag name body : Text) :
    Kept registry limit page height (fun _ => True) (substitute place progress tag name body) := by
  have additive := Orderly.additive registry limit page nonneg
  have resolved : Orderly registry limit page height [.resolved name place.owner place.depth] := by
    refine .single nonneg rfl fun name' owner' depth' same => ?_
    cases same
    exact room
  exact .bind additive (.emit resolved) fun _ _ => .pure additive trivial

section
variable {expandInner : Place → Text → Traced Text}

theorem resolveTag_kept (proper : Proper registry limit page place) (nonneg : 0 ≤ height)
    (room : place.depth < limit)
    (inner : ∀ place' text, Proper registry limit page place' → place'.depth = place.depth + 1 →
      Kept registry limit page height (fun _ => True) (expandInner place' text))
    (progress : Progress) (tag : Text) :
    Kept registry limit page height (fun _ => True)
      (resolveTag registry expandInner place progress tag) := by
  have additive := Orderly.additive registry limit page nonneg
  unfold resolveTag
  refine .bind additive (reference_kept proper nonneg tag) fun ref new => ?_
  have looked : Orderly registry limit page height [.lookedUp ref.name] :=
    .single nonneg rfl (by simp)
  refine .bind additive (.emit looked) fun _ _ => ?_
  cases registered : registry.find? ref.name with
  | none => exact .pure additive trivial
  | some fragment =>
      simp only
      split
      · have proper' := proper.inside new (by simp [registered]) (by omega)
        refine .bind additive (.orMissing (inner _ _ proper' rfl)) fun r _ => ?_
        cases r with
        | inl body => exact substitute_kept nonneg room progress tag ref.name body
        | inr more => exact .pure additive trivial
      · exact substitute_kept nonneg room progress tag ref.name _

theorem resolveTags_kept (proper : Proper registry limit page place) (nonneg : 0 ≤ height)
    (room : place.depth < limit)
    (inner : ∀ place' text, Proper registry limit page place' → place'.depth = place.depth + 1 →
      Kept registry limit page height (fun _ => True) (expandInner place' text))
    (tags : List Text) (progress : Progress) :
    Kept registry limit page height (fun _ => True)
      (resolveTags registry expandInner place progress tags) := by
  have additive := Orderly.additive registry limit page nonneg
  induction tags generalizing progress with
  | nil => exact .pure additive trivial
  | cons tag tags ih =>
      exact .bind additive (resolveTag_kept proper nonneg room inner progress tag)
        fun progress' _ => ih progress'

theorem resolveText_kept (proper : Proper registry limit page place) (nonneg : 0 ≤ height)
    (room : place.depth < limit)
    (inner : ∀ place' text, Proper registry limit page place' → place'.depth = place.depth + 1 →
      Kept registry limit page height (fun _ => True) (expandInner place' text)) (text : Text) :
    Kept registry limit page height (fun _ => True) (resolveText registry expandInner place text) := by
  have additive := Orderly.additive registry limit page nonneg
  have ended (progress : Progress) : Kept registry limit page height (fun _ => True)
      (if Tag.occursIn progress.text then expandInner place.again progress.text
        else pure progress.text) := by
    split
    · exact inner _ _ (proper.again (by omega)) rfl
    · exact .pure additive trivial
  refine .bind additive (resolveTags_kept proper nonneg room inner _ _) fun progress _ => ?_
  simp only
  split
  · refine .bind additive (Q := fun _ => False) (.fail additive ?_) fun _ h => h.elim
    intro context path same
    cases same
  · exact ended progress

end

theorem refuse_kept (proper : Proper registry limit page place) (nonneg : 0 ≤ height) (text : Text) :
    Kept registry limit page height (fun _ => True) (refuse limit place text) := by
  have additive := Orderly.additive registry limit page nonneg
  unfold refuse
  split
  · exact .pure additive trivial
  · refine .bind additive (reference_kept proper nonneg _) fun _ _ => .fail additive ?_
    intro context path same
    cases same

theorem within_kept (stack room : Nat) (proper : Proper registry limit page place)
    (levels : place.depth + room = max 0 limit) (text : Text) :
    Kept registry limit page (room + 1) (fun _ => True) (within registry limit stack place text) := by
  induction stack generalizing room place text with
  | zero =>
      refine .fail (Orderly.additive registry limit page (by omega)) ?_
      intro context path same
      cases same
  | succ stack ih =>
      have nonneg := proper.nonneg
      rcases Int.lt_or_le place.depth limit with shallow | deep
      · obtain ⟨room, rfl⟩ : ∃ less, room = less + 1 := Nat.exists_eq_succ_of_ne_zero (by omega)
        have deeper : ∀ place' text, Proper registry limit page place' → place'.depth = place.depth + 1 →
            Kept registry limit page (room + 1) (fun _ => True) (within registry limit stack place' text) :=
          fun place' text proper' depth => ih room proper' (by omega) text
        rw [within_of_lt shallow]
        refine .between (resolveText_kept proper (by omega) shallow deeper text) fun trace => ?_
        exact_mod_cast trace.enclose proper (by omega)
      · rw [within_of_le deep]
        refine .between (refuse_kept proper (Int.natCast_nonneg room) text) fun trace => ?_
        exact trace.enclose proper (Int.natCast_nonneg room)

end Expansion

theorem pagePlace_proper (registry : Registry) (limit : Int) (name : Option Text) :
    Expansion.Proper registry limit (name.getD []) (Expansion.pagePlace name) where
  distinct := List.nodup_nil
  registered := by simp [Expansion.pagePlace]
  shallow := by simp [Expansion.pagePlace]
  last := rfl
  within := by
    simp only [Expansion.pagePlace]
    omega

/-- However a page is composed, every text is opened at a proper place, no more than one text beyond the
limit is open at one time, references are resolved above the limit, and a circle that is reported is one
of registered components. -/
theorem compose_orderly (composer : Composer) (stack : Nat) (name given : Option Text) :
    (∀ owner depth path, .opened owner depth path ∈ (composer.compose stack name given).1 →
      Expansion.Proper composer.registry composer.limit (name.getD []) ⟨owner, depth, path⟩) ∧
    (∀ before, before <+: (composer.compose stack name given).1 →
      openTexts before ≤ max 0 composer.limit + 1) ∧
    (∀ component owner depth, .resolved component owner depth ∈ (composer.compose stack name given).1 →
      depth < composer.limit) ∧
    ∀ context path, (composer.compose stack name given).2 = .error (.expansion (.circular context path)) →
      Expansion.Circle composer.registry composer.limit context path := by
  cases page : composer.body? name given with
  | none =>
      simp only [Composer.compose, page]
      refine ⟨by simp, fun before start => ?_, by simp, by simp⟩
      rw [List.prefix_nil.1 start]
      simp only [openTexts_nil]
      omega
  | some body =>
      have kept := Expansion.within_kept (stack + 1) composer.limit.toNat
        (pagePlace_proper composer.registry composer.limit name)
        (by simp only [Expansion.pagePlace]; omega) body
      rw [Composer.trace_compose page]
      refine ⟨kept.trace.opened, fun before start => ?_, kept.trace.resolved, fun context path h => ?_⟩
      · have bound := kept.trace.bounded before start
        omega
      · rw [Composer.compose_eq_error page] at h
        exact kept.fault _ h context path rfl

theorem circle_of_loop :
    Expansion.Circle ⟨⟨[("Loop".toList, "\x7b\x7bLoop\x7d\x7d".toList)]⟩⟩ 3 "Loop".toList
      ["Loop".toList, "Loop".toList] :=
  (compose_orderly ⟨⟨⟨[("Loop".toList, "\x7b\x7bLoop\x7d\x7d".toList)]⟩⟩, 3, .empty⟩ 10 none
    (some "\x7b\x7bLoop\x7d\x7d".toList)).2.2.2 _ _ rfl

end PageComposer

import PageComposer.Proofs.Expansion.Clean

/-!
# The graph of references

A text refers to the components that its tags name, and through them to further ones. Of clean texts,
this graph alone decides what composing a page comes to (`compose_decided`): a live path that closes a
circle or runs into the limit ends the composition at once, otherwise one that leads to a component that
is not registered leaves the page unresolved, otherwise the page is composed. All this is so unless a live
path is longer than the call stack has room for.
-/

namespace PageComposer
open Piece Expansion

def Names (text name : Text) : Prop := ∃ tag ∈ Tag.all text, Tag.name tag = name

/-- The references lead from a text through components to a text. -/
inductive Leads (registry : Registry) : Text → List Text → Text → Prop
  | here (text) : Leads registry text [] text
  | through {text name fragment path last} : Names text name → registry.find? name = some fragment →
      Leads registry fragment path last → Leads registry text (name :: path) last

/-- The references lead from a page through different components, no more than the limit, to a text. -/
structure LivePath (registry : Registry) (limit : Int) (page : Text) (path : List Text) (last : Text) :
    Prop where
  leads : Leads registry page path last
  distinct : path.Nodup
  short : path.length ≤ limit

def isReadable (text : Text) : Bool := (Tag.all text).all fun tag => Property.isReadable (Tag.clause tag)

theorem isReadable_iff {text : Text} :
    isReadable text = true ↔ ∀ tag ∈ Tag.all text, Property.isReadable (Tag.clause tag) = true :=
  List.all_eq_true

variable {registry : Registry} {limit : Int} {stack room : Nat} {page text last name fragment : Text}
  {path : List Text}

theorem Leads.concat (leads : Leads registry page path text) (names : Names text name)
    (known : registry.find? name = some fragment) : Leads registry page (path ++ [name]) fragment := by
  induction leads with
  | here => exact .through names known (.here fragment)
  | through first found _ ih => exact .through first found (ih names)

theorem Leads.registered (leads : Leads registry page path text) (member : name ∈ path) :
    ∃ fragment, registry.find? name = some fragment := by
  induction leads with
  | here => cases member
  | through _ found _ ih =>
      rcases List.mem_cons.1 member with rfl | later
      · exact ⟨_, found⟩
      · exact ih later

theorem Leads.at (leads : Leads registry page path last) {n : Nat} (short : n < path.length) :
    ∃ text, Leads registry page (path.take n) text ∧ Tag.occursIn text = true := by
  induction n generalizing page path with
  | zero =>
      cases leads with
      | here => cases short
      | @through page _ _ _ _ names =>
          obtain ⟨tag, member, -⟩ := names
          exact ⟨page, .here page, occursIn_of_mem_all member⟩
  | succ n ih =>
      cases leads with
      | here => cases short
      | through names known leads =>
          obtain ⟨text, leads, tagged⟩ := ih leads (Nat.lt_of_succ_lt_succ short)
          exact ⟨text, .through names known leads, tagged⟩

def Walk (registry : Registry) (page : Text) (path : List Text) : Prop :=
  path ≠ [] ∧ ∃ last, Leads registry page path last

theorem Leads.walk (leads : Leads registry page path text) (names : Names text name)
    (member : name ∈ path) : Walk registry page (path ++ [name]) := by
  obtain ⟨fragment, known⟩ := leads.registered member
  exact ⟨List.concat_ne_nil name path, fragment, leads.concat names known⟩

def Reaches (registry : Registry) (goal : Nat → List Text → Text → Prop) (room : Nat) (path : List Text)
    (text : Text) : Prop :=
  ∃ more last, Leads registry text more last ∧ (path ++ more).Nodup ∧ more.length ≤ room ∧
    goal (room - more.length) (path ++ more) last

def Blocked (room : Nat) (path : List Text) (text : Text) : Prop :=
  (∃ name ∈ path, Names text name) ∨ room = 0 ∧ Tag.occursIn text = true

def Lacking (registry : Registry) (text : Text) : Prop :=
  ∃ name, Names text name ∧ registry.find? name = none

def Behind (registry : Registry) (reaches : List Text → Text → Prop) (path : List Text) (tag : Text) :
    Prop :=
  Tag.name tag ∉ path ∧ ∃ fragment, registry.find? (Tag.name tag) = some fragment ∧
    reaches (path ++ [Tag.name tag]) fragment

variable {goal : Nat → List Text → Text → Prop}

theorem reaches_zero (distinct : path.Nodup) : Reaches registry goal 0 path text ↔ goal 0 path text := by
  constructor
  · rintro ⟨more, last, leads, -, short, reached⟩
    rw [List.length_eq_zero_iff.1 (Nat.le_zero.1 short)] at leads reached
    cases leads
    simpa using reached
  · intro reached
    exact ⟨[], text, .here text, by simpa using distinct, Nat.le_refl 0, by simpa using reached⟩

theorem reaches_succ (distinct : path.Nodup) :
    Reaches registry goal (room + 1) path text ↔
      goal (room + 1) path text ∨
        ∃ tag ∈ Tag.all text, Behind registry (Reaches registry goal room) path tag := by
  constructor
  · rintro ⟨more, last, leads, apart, short, reached⟩
    cases leads with
    | here => exact .inl (by simpa using reached)
    | @through _ name fragment more _ names known leads =>
        obtain ⟨tag, member, rfl⟩ := names
        have new : Tag.name tag ∉ path := fun old =>
          (List.nodup_append.1 apart).2.2 _ old _ List.mem_cons_self rfl
        rw [List.length_cons, Nat.add_le_add_iff_right] at short
        refine .inr ⟨tag, member, new, fragment, known, more, last, leads, by simpa using apart, short, ?_⟩
        simpa using reached
  · rintro (reached | ⟨tag, member, new, fragment, known, more, last, leads, apart, short, reached⟩)
    · exact ⟨[], text, .here text, by simpa using distinct, Nat.zero_le _, by simpa using reached⟩
    · refine ⟨Tag.name tag :: more, last, .through ⟨tag, member, rfl⟩ known leads, by simpa using apart, ?_, ?_⟩
      · simpa using short
      · simpa using reached

def TagBlocked (registry : Registry) (room : Nat) (path : List Text) (tag : Text) : Prop :=
  Tag.name tag ∈ path ∨ Behind registry (Reaches registry Blocked room) path tag

def TagLacking (registry : Registry) (room : Nat) (path : List Text) (tag : Text) : Prop :=
  registry.find? (Tag.name tag) = none ∨
    Behind registry (Reaches registry (fun _ _ => Lacking registry) room) path tag

theorem reaches_blocked_succ (distinct : path.Nodup) :
    Reaches registry Blocked (room + 1) path text ↔
      ∃ tag ∈ Tag.all text, TagBlocked registry room path tag := by
  rw [reaches_succ distinct]
  constructor
  · rintro ((⟨_, old, tag, member, rfl⟩ | ⟨none, -⟩) | ⟨tag, member, behind⟩)
    · exact ⟨tag, member, .inl old⟩
    · cases none
    · exact ⟨tag, member, .inr behind⟩
  · rintro ⟨tag, member, old | behind⟩
    · exact .inl (.inl ⟨_, old, tag, member, rfl⟩)
    · exact .inr ⟨tag, member, behind⟩

theorem reaches_lacking_succ (distinct : path.Nodup) :
    Reaches registry (fun _ _ => Lacking registry) (room + 1) path text ↔
      ∃ tag ∈ Tag.all text, TagLacking registry room path tag := by
  rw [reaches_succ distinct]
  constructor
  · rintro (⟨_, ⟨tag, member, rfl⟩, unknown⟩ | ⟨tag, member, behind⟩)
    · exact ⟨tag, member, .inl unknown⟩
    · exact ⟨tag, member, .inr behind⟩
  · rintro ⟨tag, member, unknown | behind⟩
    · exact .inl ⟨_, ⟨tag, member, rfl⟩, unknown⟩
    · exact .inr ⟨tag, member, behind⟩

theorem not_reaches_blocked (tagless : Tag.occursIn text = false) : ¬Reaches registry Blocked room path text := by
  have none := all_eq_nil_iff.2 tagless
  rintro ⟨more, last, leads, -, -, reached⟩
  cases leads with
  | here =>
      rcases reached with ⟨_, _, tag, member, -⟩ | ⟨-, tagged⟩
      · simp [none] at member
      · simp [tagless] at tagged
  | through names =>
      obtain ⟨tag, member, -⟩ := names
      simp [none] at member

theorem not_reaches_lacking (tagless : Tag.occursIn text = false) :
    ¬Reaches registry (fun _ _ => Lacking registry) room path text := by
  have none := all_eq_nil_iff.2 tagless
  rintro ⟨more, last, leads, -, -, reached⟩
  cases leads with
  | here =>
      obtain ⟨_, ⟨tag, member, -⟩, -⟩ := reached
      simp [none] at member
  | through names =>
      obtain ⟨tag, member, -⟩ := names
      simp [none] at member

/-- A live path takes the whole stack, and the text that it leads to has tags. -/
def Exhausts (registry : Registry) (limit : Int) (stack : Nat) (page : Text) : Prop :=
  ∃ path last, LivePath registry limit page path last ∧ path.length = stack ∧ Tag.occursIn last = true

inductive Ends (registry : Registry) (limit : Int) (stack : Nat) (page : Text) : ExpansionFault → Prop
  | circular {context path} : Walk registry page path → Ends registry limit stack page (.circular context path)
  | tooDeep {context l} : limit < stack → Ends registry limit stack page (.tooDeep context l)
  | outOfStack : Exhausts registry limit stack page → Ends registry limit stack page .outOfStack

inductive Follows (registry : Registry) (limit : Int) (stack : Nat) (page : Text) (blocked lacking : Prop) :
    Except ExpansionFault (Text ⊕ List Missing) → Prop
  | filled {body} : ¬blocked → ¬lacking → Follows registry limit stack page blocked lacking (.ok (.inl body))
  | incomplete {more} : ¬blocked → lacking → Follows registry limit stack page blocked lacking (.ok (.inr more))
  | ended {e} : blocked → Ends registry limit stack page e →
      Follows registry limit stack page blocked lacking (.error e)

theorem Follows.not_blocked {blocked lacking : Prop} {r : Text ⊕ List Missing}
    (follows : Follows registry limit stack page blocked lacking (.ok r)) : ¬blocked := by
  cases follows with
  | filled free => exact free
  | incomplete free => exact free

theorem Follows.not_lacking {blocked lacking : Prop} {body : Text}
    (follows : Follows registry limit stack page blocked lacking (.ok (.inl body))) : ¬lacking := by
  cases follows with
  | filled _ complete => exact complete

structure Shows (text shown : Text) : Prop where
  tags : Tag.all shown = Tag.all text
  clean : isClean shown = true

theorem Shows.occursIn {shown : Text} (shows : Shows text shown) : Tag.occursIn shown = Tag.occursIn text := by
  cases tagged : Tag.occursIn text with
  | false => exact all_eq_nil_iff.1 (shows.tags.trans (all_eq_nil_iff.2 tagged))
  | true =>
      obtain ⟨tag, rest, tags⟩ := exists_all_eq_cons tagged
      exact occursIn_of_mem_all (shows.tags ▸ tags ▸ List.mem_cons_self)

namespace Expansion

structure Arrives (registry : Registry) (limit : Int) (stack : Nat) (page : Text) (left : Nat) (place : Place)
    (text : Text) : Prop where
  live : LivePath registry limit page place.path text
  depth : place.depth = place.path.length
  used : place.path.length + left = stack

theorem Arrives.inside {place : Place} {left : Nat} (arrives : Arrives registry limit stack page (left + 1) place text)
    (shallow : place.depth < limit) (names : Names text name) (new : name ∉ place.path)
    (known : registry.find? name = some fragment) :
    Arrives registry limit stack page left (place.inside name) fragment where
  live := {
    leads := arrives.live.leads.concat names known
    distinct := List.nodup_append.2 ⟨arrives.live.distinct, by simp, by
      rintro _ old _ same rfl
      exact new (List.mem_singleton.1 same ▸ old)⟩
    short := by
      have depth := arrives.depth
      simp only [Place.inside, List.length_append, List.length_singleton]
      omega }
  depth := by simp [Place.inside, arrives.depth]
  used := by
    have used := arrives.used
    simp only [Place.inside, List.length_append, List.length_singleton]
    omega

def Decisive (registry : Registry) (limit : Int) (stack : Nat) (page : Text) (left : Nat) : Prop :=
  ∀ place text shown, Shows text shown → isReadable text = true → Tag.occursIn shown = true →
    Arrives registry limit stack page left place text →
    Follows registry limit stack page (Reaches registry Blocked (levels limit place.depth left) place.path text)
      (Reaches registry (fun _ _ => Lacking registry) (levels limit place.depth left) place.path text)
      (Traced.takeMissing (outcomeWithin registry limit left place shown))

section
variable {place : Place} {left : Nat} {tag : Text}

theorem follows_inside (new : Tag.name tag ∉ place.path) (known : registry.find? (Tag.name tag) = some fragment)
    {r : Except ExpansionFault (Text ⊕ List Missing)}
    (follows : Follows registry limit stack page
      (Reaches registry Blocked room (place.path ++ [Tag.name tag]) fragment)
      (Reaches registry (fun _ _ => Lacking registry) room (place.path ++ [Tag.name tag]) fragment) r) :
    Follows registry limit stack page (TagBlocked registry room place.path tag)
      (TagLacking registry room place.path tag) r := by
  simpa [TagBlocked, TagLacking, Behind, new, known] using follows

theorem follows_tag (cleanRegistry : registry.All isClean) (readableRegistry : registry.All isReadable)
    (decisive : Decisive registry limit stack page left)
    (arrives : Arrives registry limit stack page (left + 1) place text)
    (shallow : place.depth < limit) (member : tag ∈ Tag.all text)
    (readable : Property.isReadable (Tag.clause tag) = true) :
    Follows registry limit stack page (TagBlocked registry (levels limit (place.depth + 1) left) place.path tag)
      (TagLacking registry (levels limit (place.depth + 1) left) place.path tag)
      (resolution registry (outcomeWithin registry limit left) place tag) := by
  obtain ⟨props, read⟩ := Reference.ofTag_of_readable readable
  have same {ref : Reference} (read' : Reference.ofTag tag = .ok ref) : ref = ⟨Tag.name tag, props⟩ :=
    Except.ok.inj (read'.symm.trans read)
  have shows {fragment : Text} (known : registry.find? (Tag.name tag) = some fragment) :
      Shows fragment (interpolate props fragment) := by
    obtain ⟨clean, tags⟩ := Reference.interpolate_ofTag (isTag_of_mem_all member) read (cleanRegistry _ _ known)
    exact ⟨congrArg List.eraseDups tags, clean⟩
  have found := resolves registry (outcomeWithin registry limit left) place tag
  generalize resolution registry (outcomeWithin registry limit left) place tag = r at found ⊢
  cases found with
  | numeral failed =>
      rw [read] at failed
      cases failed
  | circular read' old =>
      obtain rfl := same read'
      exact .ended (.inl old) (.circular (arrives.live.leads.walk ⟨tag, member, rfl⟩ old))
  | missing read' new unknown =>
      obtain rfl := same read'
      refine .incomplete ?_ (.inl unknown)
      rintro (old | ⟨-, fragment, known, -⟩)
      · exact new old
      · rw [unknown] at known
        cases known
  | nested read' new known tagged came =>
      obtain rfl := same read'
      rw [← came]
      exact follows_inside new known (decisive _ _ _ (shows known) (readableRegistry _ _ known) tagged
        (arrives.inside shallow ⟨tag, member, rfl⟩ new known))
  | plain read' new known tagless =>
      obtain rfl := same read'
      rw [(shows known).occursIn] at tagless
      exact follows_inside new known (.filled (not_reaches_blocked tagless) (not_reaches_lacking tagless))

end

theorem decisive_zero (registry : Registry) (limit : Int) (stack : Nat) (page : Text) :
    Decisive registry limit stack page 0 := by
  intro place text shown shows readable tagged arrives
  rw [levels_zero, reaches_zero arrives.live.distinct, reaches_zero arrives.live.distinct]
  rw [shows.occursIn] at tagged
  exact .ended (.inr ⟨rfl, tagged⟩) (.outOfStack ⟨_, _, arrives.live, arrives.used, tagged⟩)

theorem decisive_refused {place : Place} {left : Nat} {shown : Text} (deep : limit ≤ place.depth)
    (shows : Shows text shown)
    (readable : isReadable text = true) (tagged : Tag.occursIn shown = true)
    (arrives : Arrives registry limit stack page (left + 1) place text) :
    Follows registry limit stack page (Reaches registry Blocked 0 place.path text)
      (Reaches registry (fun _ _ => Lacking registry) 0 place.path text)
      (Traced.takeMissing (outcomeWithin registry limit (left + 1) place shown)) := by
  rw [reaches_zero arrives.live.distinct, reaches_zero arrives.live.distinct]
  obtain ⟨tag, rest, tags⟩ := exists_all_eq_cons tagged
  have member : tag ∈ Tag.all text := by
    rw [← shows.tags, tags]
    exact List.mem_cons_self
  have blocked : Blocked 0 place.path text := .inr ⟨rfl, occursIn_of_mem_all member⟩
  obtain ⟨props, read⟩ := Reference.ofTag_of_readable (isReadable_iff.1 readable tag member)
  rw [outcome_within_of_le deep tags]
  have found := refers place tag
  generalize (reference place tag).outcome = r at found ⊢
  cases found with
  | numeral failed =>
      rw [read] at failed
      cases failed
  | circular read old =>
      have names : Names text _ := ⟨tag, member, (Reference.ofTag_ok read).1.symm⟩
      exact .ended blocked (.circular (arrives.live.leads.walk names old))
  | new =>
      have depth := arrives.depth
      have used := arrives.used
      exact .ended blocked (.tooDeep (by omega))

theorem decisive_succ (cleanRegistry : registry.All isClean) (readableRegistry : registry.All isReadable) {left : Nat}
    (decisive : Decisive registry limit stack page left) : Decisive registry limit stack page (left + 1) := by
  intro place text shown shows readable tagged arrives
  rcases Int.lt_or_le place.depth limit with shallow | deep
  · rw [levels_of_lt shallow, reaches_blocked_succ arrives.live.distinct, reaches_lacking_succ arrives.live.distinct]
    have follows : ∀ tag ∈ Tag.all text, Follows registry limit stack page
        (TagBlocked registry (levels limit (place.depth + 1) left) place.path tag)
        (TagLacking registry (levels limit (place.depth + 1) left) place.path tag)
        (resolution registry (outcomeWithin registry limit left) place tag) := fun tag member =>
      follows_tag cleanRegistry readableRegistry decisive arrives shallow member (isReadable_iff.1 readable tag member)
    have came := comes registry left shown shallow
    generalize outcome : outcomeWithin registry limit (left + 1) place shown = r at came ⊢
    cases came with
    | @stopped tag _ member failed =>
        rw [shows.tags] at member
        have stopped := follows tag member
        rw [failed] at stopped
        cases stopped with
        | ended blocked ends =>
            cases ends with
            | circular walk => exact .ended ⟨tag, member, blocked⟩ (.circular walk)
            | tooDeep less => exact .ended ⟨tag, member, blocked⟩ (.tooDeep less)
            | outOfStack exhausts => exact .ended ⟨tag, member, blocked⟩ (.outOfStack exhausts)
    | @incomplete tag _ _ ok member missing =>
        rw [shows.tags] at ok member
        have incomplete := follows tag member
        rw [missing] at incomplete
        cases incomplete with
        | incomplete _ lacking =>
            refine .incomplete ?_ ⟨tag, member, lacking⟩
            rintro ⟨tag, member, blocked⟩
            obtain ⟨r, resolved⟩ := ok tag member
            exact (resolved ▸ follows tag member).not_blocked blocked
    | complete resolved _ =>
        -- The texts put for the tags are clean, so none of them can have formed a tag to expand once more.
        choose! bodies resolved using resolved
        rw [(outcome_eq_ok_iff cleanRegistry shallow shows.clean).2 ⟨bodies, resolved, rfl⟩] at outcome
        subst outcome
        rw [shows.tags] at resolved
        refine .filled ?_ ?_
        · rintro ⟨tag, member, blocked⟩
          exact (resolved tag member ▸ follows tag member).not_blocked blocked
        · rintro ⟨tag, member, lacking⟩
          exact (resolved tag member ▸ follows tag member).not_lacking lacking
  · rw [levels_of_le deep]
    exact decisive_refused deep shows readable tagged arrives

theorem decisive (cleanRegistry : registry.All isClean) (readableRegistry : registry.All isReadable)
    (limit : Int) (stack : Nat) (page : Text) (left : Nat) : Decisive registry limit stack page left := by
  -- A component that a tag has filled is not the registered one, but it has the same tags: hence `Shows`.
  induction left with
  | zero => exact decisive_zero registry limit stack page
  | succ left ih => exact decisive_succ cleanRegistry readableRegistry ih

end Expansion

theorem LivePath.le_stack (live : LivePath registry limit page path last)
    (enough : ¬Exhausts registry limit stack page) : path.length ≤ stack := by
  by_contra long
  obtain ⟨text, leads, tagged⟩ := live.leads.at (Nat.not_le.1 long)
  have length : (path.take stack).length = stack := List.length_take_of_le (by omega)
  have short := live.short
  exact enough ⟨_, text, ⟨leads, live.distinct.sublist (List.take_sublist _ _), by omega⟩, length, tagged⟩

theorem reaches_iff_livePath (nonneg : 0 ≤ limit) :
    Reaches registry goal (levels limit 0 stack) [] page ↔ ∃ path last, LivePath registry limit page path last ∧
      path.length ≤ stack ∧ goal (levels limit 0 stack - path.length) path last := by
  have most : levels limit 0 stack = min limit.toNat stack := by rw [levels, Int.sub_zero]
  constructor
  · rintro ⟨path, last, leads, distinct, short, reached⟩
    exact ⟨path, last, ⟨leads, distinct, by omega⟩, by omega, reached⟩
  · rintro ⟨path, last, ⟨leads, distinct, short⟩, fits, reached⟩
    exact ⟨path, last, leads, distinct, by omega, reached⟩

def Aborted (outcome : Except CompositionFault Text) : Prop :=
  (∃ context path, outcome = .error (.expansion (.circular context path))) ∨
    ∃ context limit, outcome = .error (.expansion (.tooDeep context limit))

def Unresolved (outcome : Except CompositionFault Text) : Prop :=
  ∃ context missing, outcome = .error (.expansion (.unresolved context missing))

structure Decided (registry : Registry) (limit : Int) (page : Text)
    (outcome : Except CompositionFault Text) : Prop where
  aborted : Aborted outcome ↔ ∃ path last, LivePath registry limit page path last ∧
    ((∃ name ∈ path, Names last name) ∨ path.length = limit ∧ Tag.occursIn last = true)
  unresolved : ¬Aborted outcome → (Unresolved outcome ↔ ∃ path last,
    LivePath registry limit page path last ∧ ∃ name, Names last name ∧ registry.find? name = none)
  composed : ¬Aborted outcome → ¬Unresolved outcome → ∃ result, outcome = .ok result
  circle : ∀ context path, outcome = .error (.expansion (.circular context path)) →
    Walk registry page path

section
variable {blocked lacking : Prop} {outcome : Except ExpansionFault Text}
  (follows : Follows registry limit stack page blocked lacking (Traced.takeMissing outcome))

include follows

theorem cases_of_follows :
    (∃ result, outcome = .ok result ∧ ¬blocked ∧ ¬lacking) ∨
      (∃ context missing, outcome = .error (.unresolved context missing) ∧ ¬blocked ∧ lacking) ∨
        ∃ e, outcome = .error e ∧ blocked ∧ Ends registry limit stack page e := by
  generalize came : Traced.takeMissing outcome = r at follows
  cases follows with
  | filled free complete => exact .inl ⟨_, Traced.takeMissing_eq_inl.1 came, free, complete⟩
  | incomplete free lacking =>
      obtain ⟨context, unresolved⟩ := Traced.takeMissing_eq_inr.1 came
      exact .inr (.inl ⟨context, _, unresolved, free, lacking⟩)
  | ended blocked ends => exact .inr (.inr ⟨_, (Traced.takeMissing_eq_error.1 came).1, blocked, ends⟩)

theorem aborted_iff_blocked (enough : ¬Exhausts registry limit stack page) :
    Aborted (outcome.mapError .expansion) ↔ blocked := by
  rcases cases_of_follows follows with ⟨_, rfl, free, -⟩ | ⟨_, _, rfl, free, -⟩ | ⟨_, rfl, blocked, ends⟩
  · exact iff_of_false (by simp [Aborted]) free
  · exact iff_of_false (by simp [Aborted]) free
  · refine iff_of_true ?_ blocked
    cases ends with
    | circular => simp [Aborted]
    | tooDeep => simp [Aborted]
    | outOfStack exhausts => exact absurd exhausts enough

theorem unresolved_iff_lacking (free : ¬blocked) : Unresolved (outcome.mapError .expansion) ↔ lacking := by
  rcases cases_of_follows follows with ⟨_, rfl, -, complete⟩ | ⟨_, _, rfl, -, lacking⟩ | ⟨_, -, blocked, -⟩
  · exact iff_of_false (by simp [Unresolved]) complete
  · exact iff_of_true ⟨_, _, rfl⟩ lacking
  · exact absurd blocked free

theorem ok_of_follows (free : ¬blocked) (notUnresolved : ¬Unresolved (outcome.mapError .expansion)) :
    ∃ result, outcome.mapError CompositionFault.expansion = .ok result := by
  rcases cases_of_follows follows with ⟨result, rfl, -⟩ | ⟨_, _, rfl, -⟩ | ⟨_, -, blocked, -⟩
  · exact ⟨result, rfl⟩
  · exact absurd ⟨_, _, rfl⟩ notUnresolved
  · exact absurd blocked free

theorem walk_of_follows {context : Text}
    (circular : outcome.mapError CompositionFault.expansion = .error (.expansion (.circular context path))) :
    Walk registry page path := by
  rcases cases_of_follows follows with ⟨_, rfl, -⟩ | ⟨_, _, rfl, -⟩ | ⟨_, rfl, -, ends⟩
  · cases circular
  · cases circular
  · cases circular
    cases ends with
    | circular walk => exact walk

end

theorem follows_page (nonneg : 0 ≤ limit) (clean : isClean page = true) (cleanRegistry : registry.All isClean)
    (readable : isReadable page = true) (readableRegistry : registry.All isReadable) (stack : Nat)
    (name : Option Text) :
    Follows registry limit (stack + 1) page (Reaches registry Blocked (levels limit 0 (stack + 1)) [] page)
      (Reaches registry (fun _ _ => Lacking registry) (levels limit 0 (stack + 1)) [] page)
      (Traced.takeMissing (outcomeWithin registry limit (stack + 1) (pagePlace name) page)) := by
  cases tagged : Tag.occursIn page with
  | false =>
      rw [outcome_within_of_tagless tagged]
      exact .filled (not_reaches_blocked tagged) (not_reaches_lacking tagged)
  | true =>
      exact Expansion.decisive cleanRegistry readableRegistry limit (stack + 1) page (stack + 1)
        (pagePlace name) page page
        ⟨rfl, clean⟩ readable tagged ⟨⟨.here page, List.nodup_nil, nonneg⟩, rfl, Nat.zero_add _⟩

theorem reaches_blocked_iff (nonneg : 0 ≤ limit) (enough : ¬Exhausts registry limit stack page) :
    Reaches registry Blocked (levels limit 0 stack) [] page ↔ ∃ path last, LivePath registry limit page path last ∧
      ((∃ name ∈ path, Names last name) ∨ path.length = limit ∧ Tag.occursIn last = true) := by
  refine (reaches_iff_livePath nonneg).trans (exists₂_congr fun path last => and_congr_right fun live => ?_)
  have fits := live.le_stack enough
  have short := live.short
  refine (and_iff_right fits).trans (or_congr_right (and_congr_left fun tagged => ?_))
  have apart : path.length ≠ stack := fun same => enough ⟨path, last, live, same, tagged⟩
  unfold levels
  omega

theorem reaches_lacking_iff (nonneg : 0 ≤ limit) (enough : ¬Exhausts registry limit stack page) :
    Reaches registry (fun _ _ => Lacking registry) (levels limit 0 stack) [] page ↔
      ∃ path last, LivePath registry limit page path last ∧ Lacking registry last :=
  (reaches_iff_livePath nonneg).trans
    (exists₂_congr fun _ _ => and_congr_right fun live => and_iff_right (live.le_stack enough))

theorem blocked_of_exhausts (nonneg : 0 ≤ limit) (exhausts : Exhausts registry limit stack page) :
    Reaches registry Blocked (levels limit 0 stack) [] page := by
  obtain ⟨path, last, live, length, tagged⟩ := exhausts
  have short := live.short
  refine (reaches_iff_livePath nonneg).2 ⟨path, last, live, length.le, .inr ⟨?_, tagged⟩⟩
  unfold levels
  omega

/-- Of clean texts, what composing a page comes to is decided by the references, as long as no live path takes more than
the call stack has room for. Where one does, the composition ends with a circle or for want of stack. -/
theorem compose_decided {composer : Composer} {name given : Option Text} {body : Text}
    (page : composer.body? name given = some body) (nonneg : 0 ≤ composer.limit)
    (clean : isClean body = true) (cleanRegistry : composer.registry.All isClean)
    (readable : isReadable body = true) (readableRegistry : composer.registry.All isReadable) (stack : Nat) :
    (¬Exhausts composer.registry composer.limit (stack + 1) body →
      Decided composer.registry composer.limit body (composer.compose stack name given).2) ∧
    (Exhausts composer.registry composer.limit (stack + 1) body →
      (composer.compose stack name given).2 = .error (.expansion .outOfStack) ∨
        ∃ context path, (composer.compose stack name given).2 = .error (.expansion (.circular context path)) ∧
          Walk composer.registry body path) := by
  have follows := follows_page nonneg clean cleanRegistry readable readableRegistry stack name
  rw [Composer.outcome_compose page]
  refine ⟨fun enough => ?_, fun exhausts => ?_⟩
  · have aborted := aborted_iff_blocked follows enough
    refine ⟨aborted.trans (reaches_blocked_iff nonneg enough), fun free => ?_, fun free => ?_, fun _ _ =>
      walk_of_follows follows⟩
    · exact (unresolved_iff_lacking follows (mt aborted.2 free)).trans (reaches_lacking_iff nonneg enough)
    · exact ok_of_follows follows (mt aborted.2 free)
  · have blocked := blocked_of_exhausts nonneg exhausts
    obtain ⟨_, _, live, length, -⟩ := exhausts
    have short := live.short
    rcases cases_of_follows follows with ⟨_, -, free, -⟩ | ⟨_, _, -, free, -⟩ | ⟨_, failed, -, ends⟩
    · exact absurd blocked free
    · exact absurd blocked free
    · rw [failed]
      cases ends with
      | circular walk => exact .inr ⟨_, _, rfl, walk⟩
      | tooDeep less => omega
      | outOfStack => exact .inl rfl

theorem aborted_behind_missing :
    Aborted (Composer.compose ⟨⟨⟨[("Card".toList, "<b>\x7b\x7bCard\x7d\x7d</b>".toList)]⟩⟩, 3, .empty⟩
      10 none (some "\x7b\x7bMenu\x7d\x7d \x7b\x7bCard\x7d\x7d".toList)).2 := by
  have live : LivePath ⟨⟨[("Card".toList, "<b>\x7b\x7bCard\x7d\x7d</b>".toList)]⟩⟩ 3
      "\x7b\x7bMenu\x7d\x7d \x7b\x7bCard\x7d\x7d".toList ["Card".toList]
      "<b>\x7b\x7bCard\x7d\x7d</b>".toList :=
    ⟨.through ⟨"\x7b\x7bCard\x7d\x7d".toList, by decide, rfl⟩ rfl (.here _), by decide, by decide⟩
  have circle : Names "<b>\x7b\x7bCard\x7d\x7d</b>".toList "Card".toList :=
    ⟨"\x7b\x7bCard\x7d\x7d".toList, by decide, rfl⟩
  have enough : ¬Exhausts ⟨⟨[("Card".toList, "<b>\x7b\x7bCard\x7d\x7d</b>".toList)]⟩⟩ 3 11
      "\x7b\x7bMenu\x7d\x7d \x7b\x7bCard\x7d\x7d".toList := by
    rintro ⟨path, last, live, length, -⟩
    have short := live.short
    omega
  exact ((compose_decided rfl (by decide) (by decide) (Registry.all_of_entries (by decide)) (by decide)
    (Registry.all_of_entries (by decide)) 10).1 enough).aborted.2 ⟨_, _, live, .inl ⟨_, List.mem_cons_self, circle⟩⟩

end PageComposer

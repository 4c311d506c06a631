import PageComposer.Files
import PageComposer.Proofs.Loading.Naming
import PageComposer.Proofs.Workspace.Run

/-!
# Confinement

`EndsAt` says where a text leads when it is followed segment by segment. A path given by a user is confined to what
lies at or below the place that the base leads to, name by name, and nothing else is refused (`confine_exact`):
neither the text of the base nor the way on which a place is reached matters.
-/

namespace PageComposer
namespace Path
variable {l : Location} {s : Text}

/-- Where segments lead from a location. Two points lead up, and at the root nowhere else. -/
inductive Way : Location → List Text → Location → Prop
  | done (l : Location) : Way l [] l
  | stay {l l' : Location} {segment : Text} {rest : List Text} : segment = [] ∨ segment = ['.'] → Way l rest l' →
      Way l (segment :: rest) l'
  | up {l l' : Location} {rest : List Text} : Way l.dropLast rest l' → Way l (['.', '.'] :: rest) l'
  | into {l l' : Location} {segment : Text} {rest : List Text} : segment ≠ [] → segment ≠ ['.'] → segment ≠ ['.', '.'] →
      Way (l ++ [segment]) rest l' → Way l (segment :: rest) l'

/-- Where a text leads from a location: a slash at its beginning leads to the root first. -/
def EndsAt (here : Location) (s : Text) (l : Location) : Prop :=
  Way (if s.head? = some '/' then [] else here) (s.splitOn '/') l

theorem way_cons_iff {segment : Text} {rest : List Text} {l' : Location} : Way l (segment :: rest) l' ↔
    if segment = [] ∨ segment = ['.'] then Way l rest l'
    else if segment = ['.', '.'] then Way l.dropLast rest l'
    else Way (l ++ [segment]) rest l' := by
  constructor
  · intro h
    cases h with
    | stay here h => rwa [if_pos here]
    | up h => rwa [if_neg (by decide), if_pos rfl]
    | into notEmpty notPoint notUp h => rwa [if_neg (not_or.2 ⟨notEmpty, notPoint⟩), if_neg notUp]
  · intro h
    split at h
    · exact .stay ‹_› h
    · rename_i kept
      obtain ⟨notEmpty, notPoint⟩ := not_or.1 kept
      split at h
      · rename_i up
        exact up ▸ .up h
      · exact .into notEmpty notPoint ‹_› h

theorem way_iff {segments : List Text} {l' : Location} :
    Way l segments l' ↔ l' = follow l (segments.filter fun part => part ≠ [] ∧ part ≠ ['.']) := by
  induction segments generalizing l with
  | nil =>
      constructor
      · rintro ⟨⟩
        rfl
      · rintro rfl
        exact .done _
  | cons segment rest ih =>
      rw [way_cons_iff, List.filter_cons]
      by_cases here : segment = [] ∨ segment = ['.']
      · rw [if_pos here, if_neg (by simpa [or_iff_not_imp_left] using here), ih]
      · have kept : decide (segment ≠ [] ∧ segment ≠ ['.']) = true := by simpa using here
        rw [if_neg here, if_pos kept]
        split
        · rename_i up
          rw [up, follow_up, ih]
        · rename_i notUp
          rw [follow_into notUp, ih]

theorem anchorOf_eq_nil_iff : anchorOf s = [] ↔ s.head? ≠ some '/' := by
  unfold anchorOf
  cases s with
  | nil => simp
  | cons c s =>
      by_cases slash : c = '/'
      · subst slash
        rw [List.takeWhile_cons_of_pos (by rfl)]
        split <;> simp_all
      · rw [List.takeWhile_cons_of_neg (by simpa using slash)]
        simp [slash]

theorem endsAt_iff {here : Location} : EndsAt here s l ↔ l = (ofText s).resolve here := by
  rw [EndsAt, way_iff, resolve_eq, start]
  by_cases slash : s.head? = some '/'
  · have anchor : anchorOf s ≠ [] := fun none => anchorOf_eq_nil_iff.1 none slash
    rw [if_pos slash, if_neg (by exact anchor)]
    rfl
  · rw [if_neg slash, if_pos (by exact anchorOf_eq_nil_iff.2 slash)]
    rfl

theorem endsAt_unique (here : Location) (s : Text) : ∃ l, ∀ l', EndsAt here s l' ↔ l' = l :=
  ⟨_, fun _ => endsAt_iff⟩

theorem resolve_append (p q : Path) (here : Location) : (p.append q).resolve here = q.resolve (p.resolve here) := by
  unfold append
  split
  · rename_i relative
    rw [resolve_eq, resolve_eq _ q, start, start, if_pos relative, follow_append]
    rfl
  · rename_i absolute
    rw [resolve_eq, resolve_eq _ q, start, start, if_neg absolute, if_neg absolute]

theorem mem_of_mem_splitOn {part : Text} {c : Char} (member : part ∈ s.splitOn '/') (hc : c ∈ part) : c ∈ s := by
  rw [← @List.intercalate_splitOn _ s _ _ '/', ← Text.join_eq_intercalate]
  exact mem_join member hc

theorem noNull_ofText (noNull : '\x00' ∉ s) : '\x00' ∉ (ofText s).toText := by
  unfold toText
  split
  · decide
  · intro null
    rcases List.mem_append.1 null with inAnchor | inParts
    · simp only [ofText, anchorOf] at inAnchor
      split at inAnchor <;> simp at inAnchor
    · rcases of_mem_join inParts with slash | ⟨part, member, inPart⟩
      · cases slash
      · exact noNull (mem_of_mem_splitOn (List.mem_filter.1 member).1 inPart)

theorem ofText_ofLocation (named : ∀ part ∈ l, IsName part) : ofText (ofLocation l).toText = ofLocation l := by
  have text : (ofLocation l).toText = '/' :: Text.join ['/'] l := by simp [toText, ofLocation]
  have slashless : ∀ part ∈ l, '/' ∉ part := fun part member => (named part member).slashless
  rw [text]
  cases l with
  | nil => rfl
  | cons first rest =>
      have parts : ('/' :: Text.join ['/'] (first :: rest)).splitOn '/' = [] :: first :: rest := by
        rw [List.splitOn_cons_eq_if_modifyHead, if_pos (by rfl), Text.splitOn_join slashless (by simp)]
      have kept : (first :: rest).filter (fun part => part ≠ [] ∧ part ≠ ['.']) = first :: rest := by
        rw [List.filter_eq_self]
        exact fun part member => decide_eq_true ⟨(named part member).nonempty, (named part member).notHere⟩
      have anchor : anchorOf ('/' :: Text.join ['/'] (first :: rest)) = ['/'] := by
        obtain ⟨c, cs, rfl⟩ := List.exists_cons_of_ne_nil (named first (by simp)).nonempty
        have notSlash : c ≠ '/' := fun same => slashless _ List.mem_cons_self (same ▸ List.mem_cons_self)
        obtain ⟨more, same⟩ : ∃ more, Text.join ['/'] ((c :: cs) :: rest) = c :: more := by
          cases rest <;> exact ⟨_, rfl⟩
        simp [anchorOf, same, notSlash]
      rw [ofText, partsOf, parts, anchor, List.filter_cons_of_neg (by simp), kept]
      rfl

theorem names_follow {parts : List Text} (named : ∀ part ∈ l, IsName part)
    (proper : ∀ part ∈ parts, part = ['.', '.'] ∨ IsName part) : ∀ part ∈ follow l parts, IsName part := by
  induction parts generalizing l with
  | nil => exact named
  | cons first parts ih =>
      obtain ⟨here, later⟩ := List.forall_mem_cons.1 proper
      by_cases up : first = ['.', '.']
      · subst up
        exact ih (fun part member => named part ((List.dropLast_sublist l).subset member)) later
      · rw [follow_into up]
        exact ih (List.forall_mem_append.2 ⟨named, by simpa using here.resolve_left up⟩) later

namespace Way
variable {l l' above : Location} {names : List Text}

theorem append {m : Location} {segments rest : List Text} (first : Way l segments m) (later : Way m rest l') :
    Way l (segments ++ rest) l' := by
  induction first with
  | done => exact later
  | stay here _ ih => exact .stay here (ih later)
  | up _ ih => exact .up (ih later)
  | into notEmpty notPoint notUp _ ih => exact .into notEmpty notPoint notUp (ih later)

theorem down (named : ∀ part ∈ names, IsName part) (l : Location) : Way l names (l ++ names) := by
  induction names generalizing l with
  | nil =>
      rw [List.append_nil]
      exact .done l
  | cons first names ih =>
      obtain ⟨here, later⟩ := List.forall_mem_cons.1 named
      have way := ih later (l ++ [first])
      rw [List.append_assoc, List.singleton_append] at way
      exact .into here.nonempty here.notHere here.notUp way

theorem back (above : Location) (names : List Text) :
    Way (above ++ names) (List.replicate names.length ['.', '.']) above := by
  induction names using List.reverseRecOn with
  | nil =>
      rw [List.append_nil]
      exact .done above
  | append_singleton names last ih =>
      rw [List.length_append, List.length_singleton, List.replicate_succ]
      refine .up ?_
      rwa [← List.append_assoc, List.dropLast_concat]

end Way

variable {here top : Location} {user name : Text}

theorem endsAt_name (named : IsName name) (here : Location) : EndsAt here name (here ++ [name]) := by
  have relative : name.head? ≠ some '/' := fun slash => named.slashless (List.mem_of_mem_head? slash)
  rw [EndsAt, if_neg relative, List.splitOn_eq_singleton named.slashless]
  exact .down (by simpa using named) here

theorem endsAt_ofLocation (named : ∀ part ∈ l, IsName part) (here : Location) :
    EndsAt here (ofLocation l).toText l := by
  rw [endsAt_iff, ofText_ofLocation named, resolve_eq]
  exact (follow_names (l := []) fun part member => (named part member).notUp).symm

def roundTrip (names : List Text) (user : Text) : Text :=
  Text.join ['/'] (List.replicate names.length ['.', '.'] ++ names ++ user.splitOn '/')

theorem endsAt_roundTrip {above names : List Text} (named : ∀ part ∈ names, IsName part)
    (relative : user.head? ≠ some '/')
    (on : EndsAt (above ++ names) user l) : EndsAt (above ++ names) (roundTrip names user) l := by
  have slashless : ∀ part ∈ List.replicate names.length ['.', '.'] ++ names ++ user.splitOn '/', '/' ∉ part := by
    intro part member
    rcases List.mem_append.1 member with way | later
    · rcases List.mem_append.1 way with up | down
      · rw [List.eq_of_mem_replicate up]
        decide
      · exact (named part down).slashless
    · exact slashless_of_mem_splitOn later
  have segments :
      (roundTrip names user).splitOn '/' = List.replicate names.length ['.', '.'] ++ names ++ user.splitOn '/' :=
    Text.splitOn_join slashless (by simp)
  have relative' : (roundTrip names user).head? ≠ some '/' := by
    cases names with
    | nil => rwa [roundTrip, List.append_nil, List.length_nil, List.replicate_zero, List.nil_append,
        Text.join_eq_intercalate, List.intercalate_splitOn]
    | cons first names =>
        rw [roundTrip, List.length_cons, List.replicate_succ, List.cons_append, List.cons_append,
          Text.join_cons (by simp)]
        simp
  rw [EndsAt, if_neg relative] at on
  rw [EndsAt, if_neg relative', segments]
  exact ((Way.back above names).append (.down named above)).append on

theorem noNull_of_segments {parts : List Text} (noNull : ∀ part ∈ parts, '\x00' ∉ part) :
    '\x00' ∉ Text.join ['/'] parts := by
  intro null
  rcases of_mem_join null with slash | ⟨part, member, inPart⟩
  · cases slash
  · exact noNull part member inPart

theorem noNull_roundTrip {names : List Text} (named : ∀ part ∈ names, IsName part) (noNull : '\x00' ∉ user) :
    '\x00' ∉ roundTrip names user := by
  refine noNull_of_segments fun part member => ?_
  rcases List.mem_append.1 member with way | later
  · rcases List.mem_append.1 way with up | down
    · rw [List.eq_of_mem_replicate up]
      decide
    · exact (named part down).noNull
  · exact fun null => noNull (mem_of_mem_splitOn later null)

theorem noNull_ofLocation (named : ∀ part ∈ l, IsName part) : '\x00' ∉ (ofLocation l).toText := by
  have text : (ofLocation l).toText = '/' :: Text.join ['/'] l := by simp [toText, ofLocation]
  rw [text, List.mem_cons, not_or]
  exact ⟨by decide, noNull_of_segments fun part member => (named part member).noNull⟩

theorem names_of_endsAt (named : ∀ part ∈ here, IsName part) (noNull : '\x00' ∉ user) {l : Location}
    (reached : EndsAt here user l) : ∀ part ∈ l, IsName part := by
  obtain rfl := endsAt_iff.1 reached
  have proper : ∀ part ∈ (ofText user).parts, part = ['.', '.'] ∨ IsName part := fun part member =>
    proper_ofText user part member fun null => noNull_ofText noNull (mem_toText member null)
  refine names_follow ?_ proper
  split
  · exact named
  · simp

theorem toText_append_join (above : Location) (name more : Text) (names : List Text) :
    (ofLocation (above ++ [name])).toText ++ Text.join ['/'] (more :: names) =
      (ofLocation (above ++ (name ++ more) :: names)).toText := by
  have joined : Text.join ['/'] (above ++ [name]) ++ Text.join ['/'] (more :: names) =
      Text.join ['/'] (above ++ (name ++ more) :: names) := by
    induction above with
    | nil => cases names <;> simp [Text.join]
    | cons first above ih =>
        have step {rest : List Text} (more : rest ≠ []) := Text.join_cons more ['/'] first
        rw [List.cons_append, List.cons_append, step (by simp), step (by simp), ← ih, List.append_assoc]
  simp [toText, ofLocation, ← joined]

end Path

theorem IsName.append {name more : Text} (named : IsName name) (nonempty : more ≠ []) (slashless : '/' ∉ more)
    (noNull : '\x00' ∉ more) : IsName (name ++ more) := by
  obtain ⟨c, rest, rfl⟩ := List.exists_cons_of_ne_nil named.nonempty
  refine ⟨by simp, ?_, ?_, ?_, ?_⟩
  · exact List.not_mem_append named.slashless slashless
  · exact List.not_mem_append named.noNull noNull
  · simp [nonempty]
  · intro same
    obtain ⟨rfl, later⟩ := List.cons.inj same
    rcases List.append_eq_singleton_iff.1 later with ⟨rfl, -⟩ | ⟨-, rfl⟩
    · exact named.notHere rfl
    · exact nonempty rfl

namespace FileName
variable {name : Text}

theorem parts_of_isValid (valid : isValid name = true) : ∃ stem extension, name = stem ++ '.' :: extension ∧
    stem ≠ [] ∧ extension ≠ [] ∧ (∀ c ∈ stem, ComponentName.isSegmentChar c = true) ∧
      ∀ c ∈ extension, c.isAlphanum = true := by
  simp only [isValid] at valid
  split at valid
  · rename_i extension rest
    rw [Tag.drop_length_takeWhile] at rest
    have whole := List.takeWhile_append_dropWhile (p := ComponentName.isSegmentChar) (l := name)
    rw [rest] at whole
    simp only [Bool.and_eq_true, Bool.not_eq_true', List.isEmpty_eq_false_iff] at valid
    exact ⟨_, extension, whole.symm, valid.1.1, valid.1.2, fun c hc => List.mem_takeWhile_imp hc,
      List.all_eq_true.1 valid.2⟩
  · cases valid

theorem isName (valid : isValid name = true) : IsName name := by
  obtain ⟨stem, extension, rfl, stemmed, extended, inStem, inExtension⟩ := parts_of_isValid valid
  have without {c : Char} (notSegment : ComponentName.isSegmentChar c = false) (notPoint : c ≠ '.')
      (notAlphanum : c.isAlphanum = false) : c ∉ stem ++ '.' :: extension := by
    intro member
    rcases List.mem_append.1 member with first | later
    · rw [inStem c first] at notSegment
      cases notSegment
    · rcases List.mem_cons.1 later with point | last
      · exact notPoint point
      · rw [inExtension c last] at notAlphanum
        cases notAlphanum
  have long : 2 < (stem ++ '.' :: extension).length := by
    have length := List.length_pos_of_ne_nil stemmed
    have length' := List.length_pos_of_ne_nil extended
    rw [List.length_append, List.length_cons]
    omega
  have apart {s : Text} (short : s.length ≤ 2) : stem ++ '.' :: extension ≠ s :=
    fun same => absurd long (Nat.not_lt.2 (same ▸ short))
  exact ⟨apart (by decide), without (by decide) (by decide) (by decide), without (by decide) (by decide) (by decide),
    apart (by decide), apart (by decide)⟩

end FileName

namespace Files

theorem readText_failsOnly (w : Workspace) (p : Path) :
    FailsOnly (fun e => ∀ user, e ≠ .fault (.invalidPath user)) w (readText p) := by
  refine .bind (.storage fun r user => by cases r <;> simp [Action.fileFailure]) ?_
  rintro ⟨content, changed⟩ -
  dsimp only
  split
  · exact .pure _
  · exact .throw fun user => by simp

theorem readNamed_eq (name : Text) (base : Path) : readNamed name base =
    if FileName.isValid name = true then do
      let location ← Action.ofExcept (confine (← get).here base name)
      readText (Path.ofLocation location)
    else Action.fail (.invalidPath name) := by
  cases valid : FileName.isValid name with
  | false =>
      rw [readNamed, valid]
      rfl
  | true =>
      rw [readNamed, valid]
      rfl

end Files

open PageComposer.Path

/-- Only what lies at a place or below it is given by a path that is seen from the base. -/
structure ConfinesTo (here : Location) (base : Path) (top : Location) : Prop where
  decided : ∀ user, '\x00' ∉ user → ∃ l, (∀ l', EndsAt top user l' ↔ l' = l) ∧
    confine here base user = if top <+: l then .ok l else .error (.fault (.invalidPath user))
  again : ∀ user l, confine here base user = .ok l → confine here base (Path.ofLocation l).toText = .ok l
  /-- The text of the place does not begin the text of another place below it, unless a slash comes next. -/
  siblings : ∀ more names, top ≠ [] → more ≠ [] → '/' ∉ more → '\x00' ∉ more → (∀ part ∈ names, IsName part) →
    let user := (Path.ofLocation top).toText ++ Text.join ['/'] (more :: names)
    confine here base user = .error (.fault (.invalidPath user))
  back : ∀ above names user l, top = above ++ names → user.head? ≠ some '/' →
    confine here base user = .ok l → confine here base (roundTrip names user) = .ok l
  files : ∀ name, FileName.isValid name = true → confine here base name = .ok (top ++ [name])
  reading : ∀ (w : Workspace) (name : Text), w.here = here →
    ((∃ user, w.outcome (Files.readNamed name base) = .error (.fault (.invalidPath user))) ↔
      FileName.isValid name = false)

variable {here top : Location} {base user : Text}

theorem confine_of_endsAt (noNull : '\x00' ∉ base) (noNull' : '\x00' ∉ user) {l : Location} (at_ : EndsAt here base top)
    (reached : EndsAt top user l) :
    confine here (.ofText base) user = if top <+: l then .ok l else .error (.fault (.invalidPath user)) := by
  obtain rfl := endsAt_iff.1 at_
  obtain rfl := endsAt_iff.1 reached
  rw [confine, if_neg (not_or.2 ⟨noNull_ofText noNull, noNull'⟩)]
  simp only [resolve_append, List.isPrefixOf_iff_prefix]

theorem noNull_of_confine {l : Location} {p : Path} (confined : confine here p user = .ok l) : '\x00' ∉ user := by
  unfold confine at confined
  split at confined
  · cases confined
  · rename_i none
    exact (not_or.1 none).2

section Confined
variable {l : Location} (noNull : '\x00' ∉ base) (at_ : EndsAt here base top)
include noNull at_

theorem of_confine (done : confine here (.ofText base) user = .ok l) : EndsAt top user l ∧ top <+: l := by
  obtain ⟨l', only⟩ := endsAt_unique top user
  have reached := (only l').2 rfl
  rw [confine_of_endsAt noNull (noNull_of_confine done) at_ reached] at done
  split at done
  · cases done
    exact ⟨reached, ‹_›⟩
  · cases done

theorem confine_file {name : Text} (valid : FileName.isValid name = true) :
    confine here (.ofText base) name = .ok (top ++ [name]) := by
  have isName := FileName.isName valid
  rw [confine_of_endsAt noNull isName.noNull at_ (endsAt_name isName top), if_pos (List.prefix_append _ _)]

theorem confine_again (topNamed : ∀ part ∈ top, IsName part) (done : confine here (.ofText base) user = .ok l) :
    confine here (.ofText base) (Path.ofLocation l).toText = .ok l := by
  obtain ⟨reached, inside⟩ := of_confine noNull at_ done
  have named := names_of_endsAt topNamed (noNull_of_confine done) reached
  rw [confine_of_endsAt noNull (noNull_ofLocation named) at_ (endsAt_ofLocation named top), if_pos inside]

theorem confine_sibling {more : Text} {names : List Text} (topNamed : ∀ part ∈ top, IsName part) (notRoot : top ≠ [])
    (other : more ≠ []) (slashless : '/' ∉ more) (noNull' : '\x00' ∉ more) (named : ∀ part ∈ names, IsName part) :
    confine here (.ofText base) ((Path.ofLocation top).toText ++ Text.join ['/'] (more :: names)) =
      .error (.fault (.invalidPath ((Path.ofLocation top).toText ++ Text.join ['/'] (more :: names)))) := by
  obtain ⟨above, name, rfl⟩ := (List.eq_nil_or_concat' top).resolve_left notRoot
  obtain ⟨aboveNamed, nameNamed⟩ := List.forall_mem_append.1 topNamed
  have sibling : ∀ part ∈ above ++ (name ++ more) :: names, IsName part :=
    List.forall_mem_append.2 ⟨aboveNamed,
      List.forall_mem_cons.2 ⟨(nameNamed name (by simp)).append other slashless noNull', named⟩⟩
  have apart : ¬above ++ [name] <+: above ++ (name ++ more) :: names := by
    rw [List.prefix_append_right_inj, List.cons_prefix_cons]
    rintro ⟨same, -⟩
    exact other (List.self_eq_append_right.1 same)
  rw [toText_append_join, confine_of_endsAt noNull (noNull_ofLocation sibling) at_ (endsAt_ofLocation sibling _),
    if_neg apart]

theorem confine_roundTrip {above names : List Text} (topNamed : ∀ part ∈ top, IsName part)
    (split : top = above ++ names)
    (relative : user.head? ≠ some '/') (done : confine here (.ofText base) user = .ok l) :
    confine here (.ofText base) (roundTrip names user) = .ok l := by
  obtain ⟨reached, inside⟩ := of_confine noNull at_ done
  subst split
  have named : ∀ part ∈ names, IsName part := fun part member => topNamed part (List.mem_append_right above member)
  rw [confine_of_endsAt noNull (noNull_roundTrip named (noNull_of_confine done)) at_
    (endsAt_roundTrip named relative reached), if_pos inside]

theorem readNamed_invalidPath_iff {w : Workspace} (same : w.here = here) (name : Text) :
    (∃ user, w.outcome (Files.readNamed name (.ofText base)) = .error (.fault (.invalidPath user))) ↔
      FileName.isValid name = false := by
  subst same
  rw [Files.readNamed_eq]
  cases valid : FileName.isValid name with
  | false => exact iff_of_true ⟨name, rfl⟩ rfl
  | true =>
      refine iff_of_false ?_ (by simp)
      rintro ⟨user, failed⟩
      have file := confine_file noNull at_ valid
      rw [if_pos rfl, Workspace.outcome_bind_of_ok Workspace.outcome_get, Workspace.after_get, file] at failed
      exact Files.readText_failsOnly w (Path.ofLocation (top ++ [name])) _ failed user rfl

end Confined

/-- A base confines to the place that it leads to. -/
theorem confine_exact (named : ∀ part ∈ here, IsName part) (noNull : '\x00' ∉ base) :
    ∃ top, (∀ l, EndsAt here base l ↔ l = top) ∧ ConfinesTo here (.ofText base) top := by
  obtain ⟨top, only⟩ := endsAt_unique here base
  have at_ : EndsAt here base top := (only top).2 rfl
  have topNamed := names_of_endsAt named noNull at_
  refine ⟨top, only, ?_⟩
  constructor
  case decided =>
    intro user noNull'
    obtain ⟨l, onlyUser⟩ := endsAt_unique top user
    exact ⟨l, onlyUser, confine_of_endsAt noNull noNull' at_ ((onlyUser l).2 rfl)⟩
  case again => exact fun user l => confine_again noNull at_ topNamed
  case siblings => exact fun more names => confine_sibling noNull at_ topNamed
  case back => exact fun above names user l => confine_roundTrip noNull at_ topNamed
  case files => exact fun name => confine_file noNull at_
  case reading => exact fun w name same => readNamed_invalidPath_iff noNull at_ same name

theorem confine_exact_site : ∃ top, (∀ l, EndsAt ["srv".toList] "../srv/./site/".toList l ↔ l = top) ∧
    top = ["srv".toList, "site".toList] ∧
    ConfinesTo ["srv".toList] (.ofText "../srv/./site/".toList) top ∧
    confine ["srv".toList] (.ofText "../srv/./site/".toList) "/srv/site-old/index.html".toList =
      .error (.fault (.invalidPath "/srv/site-old/index.html".toList)) := by
  have named : ∀ part ∈ ["srv".toList], IsName part := by decide
  have noNull : '\x00' ∉ "../srv/./site/".toList := by decide
  obtain ⟨top, only, confines⟩ := confine_exact named noNull
  have place : top = ["srv".toList, "site".toList] := by
    rw [← (only _).1 (endsAt_iff.2 rfl)]
    decide
  have sibling := confines.siblings "-old".toList ["index.html".toList]
  subst place
  exact ⟨_, only, rfl, confines, sibling (by decide) (by decide) (by decide) (by decide) (by decide)⟩

end PageComposer

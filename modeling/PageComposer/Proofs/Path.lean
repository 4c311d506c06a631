import PageComposer.Path

/-!
# Names and ways

Which texts are names of entries (`IsName`), where a path leads (`resolve_below`), and what the text of a path is made
of (`mem_toText`, `toText_child`). Paths that have been read from a text are proper: `Proper.append_ofText`.
-/

namespace PageComposer

/-- A name of an entry: not empty, without slashes and null characters, and neither one point nor two. -/
structure IsName (part : Text) : Prop where
  nonempty : part ≠ []
  slashless : '/' ∉ part
  noNull : '\x00' ∉ part
  notHere : part ≠ ['.']
  notUp : part ≠ ['.', '.']

instance (part : Text) : Decidable (IsName part) :=
  decidable_of_iff (part ≠ [] ∧ '/' ∉ part ∧ '\x00' ∉ part ∧ part ≠ ['.'] ∧ part ≠ ['.', '.'])
    ⟨fun ⟨nonempty, slashless, noNull, notHere, notUp⟩ => ⟨nonempty, slashless, noNull, notHere, notUp⟩,
      fun h => ⟨h.nonempty, h.slashless, h.noNull, h.notHere, h.notUp⟩⟩

namespace Path
variable {p : Path} {part : Text} {parts names : List Text} {c : Char} {l : Location}

def follow (l : Location) (parts : List Text) : Location :=
  parts.foldl (fun at_ part => if part = ['.', '.'] then at_.dropLast else at_ ++ [part]) l

def start (here : Location) (p : Path) : Location := if p.anchor = [] then here else []

theorem resolve_eq (here : Location) (p : Path) : p.resolve here = follow (p.start here) p.parts := rfl

theorem follow_append (l : Location) (parts rest : List Text) :
    follow l (parts ++ rest) = follow (follow l parts) rest := List.foldl_append

theorem follow_up (l : Location) (parts : List Text) : follow l (['.', '.'] :: parts) = follow l.dropLast parts := rfl

theorem follow_into (notUp : part ≠ ['.', '.']) (l : Location) (parts : List Text) :
    follow l (part :: parts) = follow (l ++ [part]) parts := by
  simp [follow, notUp]

theorem follow_names (named : ∀ part ∈ names, part ≠ ['.', '.']) : follow l names = l ++ names := by
  induction names generalizing l with
  | nil => simp [follow]
  | cons part names ih =>
      obtain ⟨notUp, later⟩ := List.forall_mem_cons.1 named
      rw [follow_into notUp, ih later, List.append_assoc, List.singleton_append]

def below (p : Path) (names : List Text) : Path := ⟨p.anchor, p.parts ++ names⟩

@[simp] theorem below_nil (p : Path) : p.below [] = p := by simp [below]

@[simp] theorem name_child (p : Path) (part : Text) : (p.child part).name = part := by simp [name, child]

theorem child_eq_below (p : Path) (part : Text) : p.child part = p.below [part] := rfl

theorem below_below (p : Path) (names rest : List Text) : (p.below names).below rest = p.below (names ++ rest) := by
  simp [below]

theorem below_child (p : Path) (names : List Text) (part : Text) :
    (p.below names).child part = p.below (names ++ [part]) := by
  rw [child_eq_below, below_below]

theorem child_below (p : Path) (part : Text) (names : List Text) :
    (p.child part).below names = p.below (part :: names) := by
  rw [child_eq_below, below_below]
  rfl

theorem resolve_below (named : ∀ part ∈ names, part ≠ ['.', '.']) (here : Location) :
    (p.below names).resolve here = p.resolve here ++ names := by
  rw [resolve_eq, below, follow_append, follow_names named]
  rfl

theorem resolve_child (notUp : part ≠ ['.', '.']) (here : Location) :
    (p.child part).resolve here = p.resolve here ++ [part] :=
  resolve_below (by simpa using notUp) here

theorem resolve_child_append (notUp : part ≠ ['.', '.']) (here : Location) (names : List Text) :
    (p.child part).resolve here ++ names = p.resolve here ++ part :: names := by
  rw [resolve_child notUp, List.append_assoc, List.singleton_append]

theorem mem_join (member : part ∈ parts) (hc : c ∈ part) : c ∈ Text.join ['/'] parts := by
  induction parts with
  | nil => cases member
  | cons first parts ih =>
      cases parts with
      | nil => rwa [Text.join, ← List.mem_singleton.1 member]
      | cons second parts =>
          change c ∈ first ++ ['/'] ++ Text.join ['/'] (second :: parts)
          rcases List.mem_cons.1 member with rfl | later
          · exact List.mem_append_left _ (List.mem_append_left _ hc)
          · exact List.mem_append_right _ (ih later)

theorem of_mem_join (member : c ∈ Text.join ['/'] parts) : c = '/' ∨ ∃ part ∈ parts, c ∈ part := by
  induction parts with
  | nil => cases member
  | cons first parts ih =>
      cases parts with
      | nil => exact .inr ⟨first, List.mem_cons_self, member⟩
      | cons second parts =>
          change c ∈ first ++ ['/'] ++ Text.join ['/'] (second :: parts) at member
          rcases List.mem_append.1 member with before | later
          · rcases List.mem_append.1 before with inFirst | slash
            · exact .inr ⟨first, List.mem_cons_self, inFirst⟩
            · exact .inl (List.mem_singleton.1 slash)
          · exact (ih later).imp_right fun ⟨part, there, hc⟩ => ⟨part, List.mem_cons_of_mem _ there, hc⟩

theorem join_starts (parts : List Text) (part : Text) :
    Text.join ['/'] parts <+: Text.join ['/'] (parts ++ [part]) := by
  induction parts with
  | nil => exact List.nil_prefix
  | cons first parts ih =>
      cases parts with
      | nil => exact ⟨['/'] ++ part, by simp [Text.join]⟩
      | cons second parts =>
          have deeper := ih
          simp only [List.cons_append, Text.join] at deeper ⊢
          exact (List.prefix_append_right_inj _).2 deeper

theorem mem_toText (member : part ∈ p.parts) (hc : c ∈ part) : c ∈ p.toText := by
  unfold toText
  rw [if_neg fun empty => List.ne_nil_of_mem member empty.2]
  exact List.mem_append_right _ (mem_join member hc)

theorem toText_child (p : Path) (part : Text) : p.toText = ['.'] ∨ p.toText <+: (p.child part).toText := by
  unfold toText
  split
  · exact .inl rfl
  · right
    rw [if_neg (by simp [child])]
    exact (List.prefix_append_right_inj _).2 (join_starts p.parts part)

theorem noNull_child (above : '\x00' ∉ p.toText) (noNull : '\x00' ∉ part) : '\x00' ∉ (p.child part).toText := by
  intro null
  unfold toText at null
  rw [if_neg (by simp [child])] at null
  rcases List.mem_append.1 null with inAnchor | inParts
  · unfold toText at above
    split at above
    · rename_i empty
      rw [show (p.child part).anchor = [] from empty.1] at inAnchor
      cases inAnchor
    · exact above (List.mem_append_left _ inAnchor)
  · rcases of_mem_join inParts with slash | ⟨other, member, inOther⟩
    · cases slash
    · rcases List.mem_append.1 member with before | last
      · exact above (mem_toText before inOther)
      · exact noNull (List.mem_singleton.1 last ▸ inOther)

def Proper (p : Path) : Prop := ∀ part ∈ p.parts, '\x00' ∉ part → part = ['.', '.'] ∨ IsName part

instance (p : Path) : Decidable p.Proper :=
  inferInstanceAs (Decidable (∀ part ∈ p.parts, '\x00' ∉ part → part = ['.', '.'] ∨ IsName part))

theorem Proper.below (proper : p.Proper) (named : ∀ part ∈ names, IsName part) : (p.below names).Proper :=
  List.forall_mem_append.2 ⟨proper, fun part hp _ => .inr (named part hp)⟩

theorem slashless_of_mem_splitOn {s : Text} (member : part ∈ s.splitOn '/') : '/' ∉ part := by
  induction s generalizing part with
  | nil =>
      rw [List.splitOn_nil, List.mem_singleton] at member
      simp [member]
  | cons c s ih =>
      rw [List.splitOn_cons_eq_if_modifyHead] at member
      split at member
      · rcases List.mem_cons.1 member with rfl | member
        · simp
        · exact ih member
      · rename_i other
        cases rest : s.splitOn '/' with
        | nil => simp [rest] at member
        | cons first rest' =>
            rw [rest, List.modifyHead_cons, List.mem_cons] at member
            rcases member with rfl | member
            · have apart : '/' ≠ c := fun same => other (by simp [← same])
              simpa [apart] using ih (rest ▸ List.mem_cons_self)
            · exact ih (rest ▸ List.mem_cons_of_mem _ member)

theorem proper_ofText (s : Text) : (ofText s).Proper := by
  intro part member noNull
  obtain ⟨member, kept⟩ := List.mem_filter.1 member
  by_cases up : part = ['.', '.']
  · exact .inl up
  · obtain ⟨nonempty, notHere⟩ := of_decide_eq_true kept
    exact .inr ⟨nonempty, slashless_of_mem_splitOn member, noNull, notHere, up⟩

theorem Proper.append_ofText (proper : p.Proper) (s : Text) : (p.append (ofText s)).Proper := by
  unfold append
  split
  · exact List.forall_mem_append.2 ⟨proper, proper_ofText s⟩
  · exact proper_ofText s

theorem ofText_name (named : IsName part) : ofText part = ⟨[], [part]⟩ := by
  have anchor : part.takeWhile (fun c => c == '/') = [] := by
    cases part with
    | nil => rfl
    | cons c rest =>
        have notSlash : c ≠ '/' := fun same => named.slashless (same ▸ List.mem_cons_self)
        simp [notSlash]
  simp [ofText, anchorOf, partsOf, anchor, List.splitOn_eq_singleton named.slashless, named.nonempty, named.notHere]

theorem append_ofText_name (p : Path) (named : IsName part) : p.append (ofText part) = p.child part := by
  rw [ofText_name named]
  rfl

theorem splitLast?_eq {s lead rest : Text} (h : Text.splitLast? c s = some (lead, rest)) : s = lead ++ c :: rest := by
  unfold Text.splitLast? at h
  split at h
  · cases h
  · rename_i d above split
    cases h
    have isPoint : d = c := by
      have first := List.head?_dropWhile_not (fun x => x != c) s.reverse
      simpa [split] using first
    have whole : s.reverse.takeWhile (fun x => x != c) ++ s.reverse.dropWhile (fun x => x != c) = s.reverse :=
      List.takeWhile_append_dropWhile
    rw [split, isPoint] at whole
    have back := congrArg List.reverse whole
    simpa using back.symm

theorem splitLast?_append {lead rest : Text} (last : c ∉ rest) :
    Text.splitLast? c (lead ++ c :: rest) = some (lead, rest) := by
  have before : ∀ d ∈ rest.reverse, (d != c) = true := by
    intro d member
    simp only [bne_iff_ne, ne_eq]
    rintro rfl
    exact last (List.mem_reverse.1 member)
  have reversed : (lead ++ c :: rest).reverse = rest.reverse ++ c :: lead.reverse := by simp
  rw [Text.splitLast?, reversed, List.dropWhile_append_of_pos before, List.takeWhile_append_of_pos before]
  simp

theorem splitName_append {stem extension : Text} (hasStem : stem ≠ []) (hasExtension : extension ≠ [])
    (last : '.' ∉ extension) :
    splitName (stem ++ '.' :: extension) = (stem, '.' :: extension) := by
  simp [splitName, splitLast?_append last, hasStem, hasExtension]

theorem stem_nonempty (suffixed : p.suffix ≠ []) : p.stem ≠ [] := by
  unfold suffix stem splitName at *
  split at suffixed
  · split at suffixed
    · exact absurd rfl suffixed
    · rename_i whole
      simp only [Bool.or_eq_true, List.isEmpty_iff, not_or] at whole
      simp [whole]
  · exact absurd rfl suffixed

theorem stem_append_suffix (p : Path) : p.stem ++ p.suffix = p.name := by
  unfold stem suffix splitName
  split
  · rename_i stem extension split
    split
    · simp
    · exact (splitLast?_eq split).symm
  · simp

end Path
end PageComposer

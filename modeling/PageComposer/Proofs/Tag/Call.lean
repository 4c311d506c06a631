import PageComposer.Name
import PageComposer.Proofs.Reference

/-!
# Tags with one property

The name and the clause that a tag has been written with are what is read of it (`name_written`, `clause_written`). So a
tag that gives its component one property in double quotes refers to the component of that name with this one property
(`ofTag_call`).
-/

namespace PageComposer

theorem Text.mem_of_mem_intercalate {sep : Text} {parts : List Text} {c : Char}
    (h : c ∈ sep.intercalate parts) : c ∈ sep ∨ ∃ part ∈ parts, c ∈ part := by
  induction parts with
  | nil => cases h
  | cons part parts ih =>
      by_cases last : parts = []
      · subst last
        rw [List.intercalate_singleton] at h
        exact .inr ⟨part, by simp, h⟩
      · rw [List.intercalate_cons_of_ne_nil last, List.mem_append, List.mem_append] at h
        rcases h with (here | between) | later
        · exact .inr ⟨part, by simp, here⟩
        · exact .inl between
        · exact (ih later).imp_right fun ⟨p, hp, hc⟩ => ⟨p, List.mem_cons_of_mem _ hp, hc⟩

theorem ComponentName.nameChars_of_isValid {name : Text} (valid : isValid name = true) :
    name ≠ [] ∧ ∀ c ∈ name, Tag.isNameChar c = true := by
  constructor
  · rintro rfl
    cases valid
  · intro c hc
    rw [← @List.intercalate_splitOn _ name _ _ '/'] at hc
    rcases Text.mem_of_mem_intercalate hc with slash | ⟨part, member, inPart⟩
    · rw [List.mem_singleton.1 slash]
      rfl
    · have segment := List.all_eq_true.1 valid part member
      rw [isSegment, Bool.and_eq_true, List.all_eq_true] at segment
      exact isNameChar_of_isSegmentChar (segment.2 c inPart)

namespace Property

theorem isNameChar_of_isWordChar {c : Char} (h : isWordChar c = true) : Tag.isNameChar c = true := by
  simp only [isWordChar, Bool.or_eq_true] at h
  rcases h with h | h <;> simp [Tag.isNameChar, h]

theorem isBlank_of_isWordChar {c : Char} (h : isWordChar c = true) : Text.isBlank c = false :=
  Tag.isBlank_of_isNameChar (isNameChar_of_isWordChar h)

theorem braceless_of_word {key : Text} (word : ∀ c ∈ key, isWordChar c = true) : Tag.Braceless key :=
  fun c hc => Tag.isBrace_of_isNameChar (isNameChar_of_isWordChar (word c hc))

theorem assignmentsFrom_eq_drop (skip : Nat) (s : Text) :
    assignmentsFrom skip s = assignments (s.drop skip) := by
  induction s generalizing skip with
  | nil => cases skip <;> rfl
  | cons c s ih =>
      cases skip with
      | zero => rfl
      | succ skip => simpa [assignmentsFrom] using ih skip

theorem assignments_append {t : Text} {a : Assignment} (nonempty : t ≠ []) (size : a.size = t.length) {rest : Text}
    (found : atStart? (t ++ rest) = some a) : assignments (t ++ rest) = a :: assignments rest := by
  obtain ⟨c, t, rfl⟩ := List.exists_cons_of_ne_nil nonempty
  rw [List.cons_append] at found ⊢
  rw [assignments, assignmentsFrom, found]
  simp only [assignmentsFrom_eq_drop, size, List.length_cons, Nat.add_sub_cancel, List.drop_left]

variable {key v : Text}

theorem assignments_quoted (word : ∀ c ∈ key, isWordChar c = true) (nonempty : key ≠ [])
    (quoteless : '"' ∉ v) (rest : Text) : assignments (key ++ '=' :: '"' :: (v ++ '"' :: rest)) =
      ⟨key, v, key.length + 1 + (v.length + 2)⟩ :: assignments rest := by
  have keyTaken : (key ++ '=' :: '"' :: (v ++ '"' :: rest)).takeWhile isWordChar = key :=
    Tag.takeWhile_append_stop word (by simp [isWordChar])
  have valueTaken : (v ++ '"' :: rest).takeWhile (· != '"') = v :=
    Tag.takeWhile_append_stop (fun c hc => by simpa using ne_of_mem_of_not_mem hc quoteless) (by simp)
  have named : key.isEmpty = false := by simpa using nonempty
  have found : atStart? (key ++ '=' :: '"' :: (v ++ '"' :: rest)) =
      some ⟨key, v, key.length + 1 + (v.length + 2)⟩ := by
    simp [atStart?, keyTaken, named, writtenValue?, quotedValue?, valueTaken]
  have split : key ++ '=' :: '"' :: (v ++ '"' :: rest) = (key ++ '=' :: '"' :: (v ++ ['"'])) ++ rest := by simp
  have size : key.length + 1 + (v.length + 2) = (key ++ '=' :: '"' :: (v ++ ['"'])).length := by
    simp
    omega
  rw [split] at found ⊢
  exact assignments_append (by simp) size found

theorem ofClause_quoted (word : ∀ c ∈ key, isWordChar c = true) (nonempty : key ≠ []) (quoteless : '"' ∉ v)
    {value : Value} (read : coerce v = .ok value) :
    ofClause (key ++ '=' :: '"' :: (v ++ ['"'])) = .ok ⟨[(key, value)]⟩ := by
  rw [ofClause, assignments_quoted word nonempty quoteless]
  simp only [show assignments [] = [] from rfl, List.foldlM_cons, List.foldlM_nil, assign, read]
  rfl

end Property

theorem Text.dropEndWhile_append {p : Char → Bool} {s : Text} (kept : ∀ c ∈ s, p c = false) (t : Text) :
    dropEndWhile p (s ++ t) = s ++ dropEndWhile p t := by
  have stays : s.reverse.dropWhile p = s.reverse := by
    cases back : s.reverse with
    | nil => rfl
    | cons c rest =>
        have last : c ∈ s := List.mem_reverse.1 (back ▸ List.mem_cons_self)
        rw [List.dropWhile_cons_of_neg (by simp [kept c last])]
  rw [dropEndWhile, List.reverse_append, List.dropWhile_append, stays, dropEndWhile]
  split
  · rename_i none
    simp [List.isEmpty_iff.1 none]
  · simp

theorem Text.dropEndWhile_concat {p : Char → Bool} {c : Char} (kept : p c = false) (s : Text) :
    dropEndWhile p (s ++ [c]) = s ++ [c] := by
  simp [dropEndWhile, kept]

namespace Tag
variable {name clause : Text} (named : name ≠ []) (nameChars : ∀ c ∈ name, isNameChar c = true)
include nameChars

theorem blankless : ∀ c ∈ name, Text.isBlank c = false := fun c hc => isBlank_of_isNameChar (nameChars c hc)

include named

theorem inner_of_named : inner (written name clause) = name ++ Text.dropEndWhile Text.isBlank clause := by
  obtain ⟨c, rest, rfl⟩ := List.exists_cons_of_ne_nil named
  have first : Text.isBlank c = false := blankless nameChars c List.mem_cons_self
  rw [inner_written, Text.trim, List.cons_append, List.dropWhile_cons_of_neg (by simp [first]), ← List.cons_append]
  exact Text.dropEndWhile_append (blankless nameChars) clause

variable (apart : ∀ c ∈ clause.head?, Text.isBlank c = true)
include apart

theorem name_written : Tag.name (written name clause) = name := by
  rw [Tag.name, inner_of_named named nameChars]
  refine takeWhile_append_stop (fun c hc => by simp [blankless nameChars c hc]) fun c hc => ?_
  have start : Text.dropEndWhile Text.isBlank clause <+: clause := by
    simpa [Text.dropEndWhile] using List.reverse_prefix.2 (List.dropWhile_suffix Text.isBlank (l := clause.reverse))
  obtain ⟨rest, same⟩ := start
  have inClause : c ∈ clause.head? := by
    rw [← same, List.head?_append, hc]
    rfl
  simp [apart c inClause]

theorem clause_written : Tag.clause (written name clause) =
    (Text.dropEndWhile Text.isBlank clause).dropWhile Text.isBlank := by
  rw [Tag.clause, name_written named nameChars apart, inner_of_named named nameChars, List.drop_left]

end Tag

def Tag.call (name key v : Text) : Text := written name (' ' :: (key ++ '=' :: '"' :: (v ++ ['"'])))

variable {name key v : Text}

theorem Tag.isTag_call (named : name ≠ []) (nameChars : ∀ c ∈ name, isNameChar c = true)
    (word : ∀ c ∈ key, Property.isWordChar c = true) (braceless : Braceless v) : IsTag (call name key v) := by
  refine ⟨name, _, ⟨named, nameChars, .cons rfl ?_, by simp; decide⟩, rfl⟩
  have keyBraceless := Property.braceless_of_word word
  exact keyBraceless.append (.cons rfl (.cons rfl (braceless.append (braceless_of_all rfl))))

theorem Reference.ofTag_call (named : name ≠ []) (nameChars : ∀ c ∈ name, Tag.isNameChar c = true)
    (word : ∀ c ∈ key, Property.isWordChar c = true) (nonempty : key ≠ []) (quoteless : '"' ∉ v)
    {value : Value} (read : Property.coerce v = .ok value) :
    ofTag (Tag.call name key v) = .ok ⟨name, ⟨[(key, value)]⟩⟩ := by
  have apart : ∀ c ∈ (' ' :: (key ++ '=' :: '"' :: (v ++ ['"']))).head?, Text.isBlank c = true := by
    simp
    decide
  have kept : Text.dropEndWhile Text.isBlank (' ' :: (key ++ '=' :: '"' :: (v ++ ['"']))) =
      ' ' :: (key ++ '=' :: '"' :: (v ++ ['"'])) := by
    simpa using Text.dropEndWhile_concat (p := Text.isBlank) (c := '"') (by decide) (' ' :: (key ++ '=' :: '"' :: v))
  have behind : (' ' :: (key ++ '=' :: '"' :: (v ++ ['"']))).dropWhile Text.isBlank =
      key ++ '=' :: '"' :: (v ++ ['"']) := by
    obtain ⟨c, key, rfl⟩ := List.exists_cons_of_ne_nil nonempty
    have dark := Property.isBlank_of_isWordChar (word c (by simp))
    rw [List.dropWhile_cons_of_pos (by decide), List.cons_append, List.dropWhile_cons_of_neg (by simp [dark])]
  rw [Tag.call, ofTag_eq, Tag.name_written named nameChars apart, Tag.clause_written named nameChars apart,
    kept, behind, Property.ofClause_quoted word nonempty quoteless read]
  rfl

end PageComposer

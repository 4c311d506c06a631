import PageComposer.Proofs.Tag.Grammar

/-!
# The pieces of a text

A text falls into its tags and the characters outside them. It is clean if every opening brace outside
the tags is followed by a character other than `{` and `$`: no tag can then arise where pieces are
replaced, and no brace belongs to two things.

* `join_split`, `split_join`: a text is the joined text of its pieces, and clean pieces are found again
  in the text that they make.
* `occurrences_eq_tags`: the tags of a text are those among its pieces.
-/

namespace PageComposer

inductive Piece where
  | char (c : Char)
  | tag (t : Text)
  deriving DecidableEq

namespace Piece

def text : Piece → Text
  | char c => [c]
  | tag t => t

def tag? : Piece → Option Text
  | char _ => none
  | tag t => some t

def join (pieces : List Piece) : Text := pieces.flatMap text

def tags (pieces : List Piece) : List Text := pieces.filterMap tag?

/-- The pieces from here on, after `skip` characters of a tag already found. -/
def splitFrom : Nat → Text → List Piece
  | _, [] => []
  | skip + 1, _ :: rest => splitFrom skip rest
  | 0, c :: rest =>
    match Tag.atStart? (c :: rest) with
    | some t => tag t :: splitFrom (t.length - 1) rest
    | none => char c :: splitFrom 0 rest

def split (s : Text) : List Piece := splitFrom 0 s

def mayFollowBrace : List Piece → Bool
  | char c :: _ => c != '\x7b' && c != '$'
  | _ => false

def areClean : List Piece → Bool
  | [] => true
  | tag _ :: rest => areClean rest
  | char c :: rest => (c != '\x7b' || mayFollowBrace rest) && areClean rest

/-- Is every opening brace outside the tags followed by a character other than `{` and `$`? -/
def isClean (s : Text) : Bool := areClean (split s)

inductive Clean : List Piece → Prop
  | nil : Clean []
  | tag {t rest} : Tag.IsTag t → Clean rest → Clean (tag t :: rest)
  | char {c rest} : c ≠ '\x7b' → Clean rest → Clean (char c :: rest)
  | brace {c rest} : c ≠ '\x7b' → c ≠ '$' → Clean rest →
      Clean (Piece.char '\x7b' :: Piece.char c :: rest)

@[simp] theorem join_nil : join [] = [] := rfl

@[simp] theorem join_cons (p : Piece) (rest : List Piece) : join (p :: rest) = p.text ++ join rest := rfl

@[simp] theorem join_append (ps qs : List Piece) : join (ps ++ qs) = join ps ++ join qs := by
  simp [join]

@[simp] theorem join_chars (s : Text) : join (s.map char) = s := by
  induction s with
  | nil => rfl
  | cons c s ih => simp [text, ih]

@[simp] theorem tags_append (ps qs : List Piece) : tags (ps ++ qs) = tags ps ++ tags qs := by
  simp [tags]

@[simp] theorem tags_chars (s : Text) : tags (s.map char) = [] := by
  induction s with
  | nil => rfl
  | cons c s ih => exact ih

theorem splitFrom_eq_split_drop (skip : Nat) (s : Text) : splitFrom skip s = split (s.drop skip) := by
  induction s generalizing skip with
  | nil => cases skip <;> rfl
  | cons c s ih =>
      cases skip with
      | zero => rfl
      | succ skip => simpa [splitFrom] using ih skip

theorem split_of_tag {t rest : Text} (h : Tag.IsTag t) : split (t ++ rest) = tag t :: split rest := by
  obtain ⟨c, more, rfl, -⟩ := h.eq_opening_append
  have found := h.atStart?_append rest
  simp only [List.cons_append] at found ⊢
  simp only [split, splitFrom, found]
  rw [splitFrom_eq_split_drop]
  simp [split]

theorem split_of_none {c : Char} {rest : Text} (h : Tag.atStart? (c :: rest) = none) :
    split (c :: rest) = char c :: split rest := by
  simp [split, splitFrom, h]

theorem join_splitFrom (skip : Nat) (s : Text) : join (splitFrom skip s) = s.drop skip := by
  induction s generalizing skip with
  | nil => cases skip <;> rfl
  | cons c s ih =>
      cases skip with
      | succ skip => simpa [splitFrom] using ih skip
      | zero =>
          unfold splitFrom
          split
          · rename_i t found
            have start := List.prefix_iff_eq_append.1 (Tag.prefix_of_atStart? found)
            obtain ⟨d, more, rfl, -⟩ := (Tag.isTag_of_atStart? found).eq_opening_append
            rw [join_cons, ih]
            exact start
          · rw [join_cons, ih]
            rfl

@[simp] theorem join_split (s : Text) : join (split s) = s := join_splitFrom 0 s

theorem isTag_of_mem_splitFrom {t : Text} (skip : Nat) (s : Text) (h : tag t ∈ splitFrom skip s) :
    Tag.IsTag t := by
  induction s generalizing skip with
  | nil => cases skip <;> cases h
  | cons c s ih =>
      cases skip with
      | succ skip => exact ih skip h
      | zero =>
          unfold splitFrom at h
          split at h
          · rename_i u found
            rcases List.mem_cons.1 h with same | later
            · cases same
              exact Tag.isTag_of_atStart? found
            · exact ih _ later
          · exact ih 0 (by simpa using h)

theorem occurrencesFrom_eq_tags (skip : Nat) (s : Text) :
    Tag.occurrencesFrom skip s = tags (splitFrom skip s) := by
  induction s generalizing skip with
  | nil => cases skip <;> rfl
  | cons c s ih =>
      cases skip with
      | succ skip => exact ih skip
      | zero =>
          unfold Tag.occurrencesFrom splitFrom
          cases Tag.atStart? (c :: s) with
          | some t => exact congrArg (t :: ·) (ih (t.length - 1))
          | none => exact ih 0

theorem occurrences_eq_tags (s : Text) : Tag.occurrences s = tags (split s) :=
  occurrencesFrom_eq_tags 0 s

theorem mem_all_iff {s t : Text} : t ∈ Tag.all s ↔ t ∈ tags (split s) := by
  rw [Tag.all, List.mem_eraseDups, occurrences_eq_tags]

theorem isTag_of_mem_all {s t : Text} (h : t ∈ Tag.all s) : Tag.IsTag t := by
  obtain ⟨p, hp, same⟩ := List.mem_filterMap.1 (mem_all_iff.1 h)
  cases p with
  | char c => cases same
  | tag u =>
      cases same
      exact isTag_of_mem_splitFrom 0 s hp

theorem atStart?_of_brace {c : Char} (rest : Text) (h : c ≠ '\x7b') :
    Tag.atStart? ('\x7b' :: c :: rest) = none := by
  simp [Tag.atStart?, Tag.opening, List.isPrefixOf, Ne.symm h]

theorem atStart?_of_ne {c : Char} (rest : Text) (h : c ≠ '\x7b') : Tag.atStart? (c :: rest) = none := by
  simp [Tag.atStart?, Tag.opening, List.isPrefixOf, Ne.symm h]

theorem split_join {pieces : List Piece} (h : Clean pieces) : split (join pieces) = pieces := by
  induction h with
  | nil => rfl
  | tag isTag _ ih => simp [text, split_of_tag isTag, ih]
  | char ne _ ih =>
      simp only [join_cons, text, List.singleton_append]
      rw [split_of_none (atStart?_of_ne _ ne), ih]
  | brace ne _ _ ih =>
      simp only [join_cons, text, List.singleton_append]
      rw [split_of_none (atStart?_of_brace _ ne), split_of_none (atStart?_of_ne _ ne), ih]

theorem Clean.append {ps qs : List Piece} (hp : Clean ps) (hq : Clean qs) : Clean (ps ++ qs) := by
  induction hp with
  | nil => exact hq
  | tag isTag _ ih => exact .tag isTag ih
  | char ne _ ih => exact .char ne ih
  | brace ne nd _ ih => exact .brace ne nd ih

theorem Clean.chars {s : Text} (braceless : '\x7b' ∉ s) : Clean (s.map Piece.char) := by
  induction s with
  | nil => exact .nil
  | cons c s ih =>
      obtain ⟨ne, later⟩ := List.ne_and_not_mem_of_not_mem_cons braceless
      exact .char ne.symm (ih later)

theorem clean_of_areClean {pieces : List Piece} (isTag : ∀ t, tag t ∈ pieces → Tag.IsTag t)
    (h : areClean pieces = true) : Clean pieces := by
  induction pieces with
  | nil => exact .nil
  | cons p rest ih =>
      have restTags : ∀ t, tag t ∈ rest → Tag.IsTag t := fun t ht => isTag t (List.mem_cons_of_mem _ ht)
      cases p with
      | tag t => exact .tag (isTag t (by simp)) (ih restTags h)
      | char c =>
          simp only [areClean, Bool.and_eq_true, Bool.or_eq_true, bne_iff_ne] at h
          obtain ⟨here, later⟩ := h
          by_cases brace : c = '\x7b'
          · subst brace
            replace here := here.resolve_left (by simp)
            cases rest with
            | nil => cases here
            | cons q rest =>
                cases q with
                | tag t => cases here
                | char d =>
                    simp only [mayFollowBrace, Bool.and_eq_true, bne_iff_ne] at here
                    cases ih restTags later with
                    | char _ clean => exact .brace here.1 here.2 clean
                    | brace => exact absurd rfl here.1
          · exact .char brace (ih restTags later)

theorem Clean.areClean {pieces : List Piece} (h : Clean pieces) : areClean pieces = true := by
  induction h with
  | nil => rfl
  | tag _ _ ih => exact ih
  | char ne _ ih => simp [Piece.areClean, ne, ih]
  | brace ne nd _ ih => simp [Piece.areClean, mayFollowBrace, ne, nd, ih]

theorem isClean_iff {s : Text} : isClean s = true ↔ Clean (split s) :=
  ⟨clean_of_areClean fun _ ht => isTag_of_mem_splitFrom 0 s ht, Clean.areClean⟩

theorem Clean.isClean_join {pieces : List Piece} (h : Clean pieces) : isClean (join pieces) = true := by
  rw [isClean, split_join h]
  exact h.areClean

section Around
variable {before behind t : Text}

theorem split_around (isTag : Tag.IsTag t) (before' : Tag.Braceless before) (behind' : Tag.Braceless behind) :
    Clean (before.map .char ++ .tag t :: behind.map .char) ∧
      split (before ++ (t ++ behind)) = before.map .char ++ .tag t :: behind.map .char := by
  have chars {s : Text} (braceless : Tag.Braceless s) : Clean (s.map .char) :=
    .chars fun h => absurd (braceless _ h) (by decide)
  have clean := (chars before').append (.tag isTag (chars behind'))
  refine ⟨clean, ?_⟩
  have split := split_join clean
  simpa [text] using split

theorem occurrences_around (isTag : Tag.IsTag t) (before' : Tag.Braceless before) (behind' : Tag.Braceless behind) :
    Tag.occurrences (before ++ (t ++ behind)) = [t] := by
  rw [occurrences_eq_tags, (split_around isTag before' behind').2, tags_append, tags_chars]
  simp [tags, tag?]

end Around

end Piece
end PageComposer

import PageComposer.Proofs.Piece

/-!
# Replacing tags

In a clean text the tags can be replaced one after the other, each at all of its occurrences, or all at
once, each piece at its own place: the text is the same (`foldl_replace_join`), and it is clean.
-/

namespace PageComposer

namespace Text

theorem replaceFrom_eq_replace_drop (old new : Text) (skip : Nat) (s : Text) :
    replaceFrom old new skip s = replace old new (s.drop skip) := by
  induction s generalizing skip with
  | nil => cases skip <;> rfl
  | cons c s ih =>
      cases skip with
      | zero => rfl
      | succ skip => simpa [replaceFrom] using ih skip

theorem replace_append_old {old : Text} (nonempty : old ≠ []) (new rest : Text) :
    replace old new (old ++ rest) = new ++ replace old new rest := by
  obtain ⟨c, more, rfl⟩ := List.exists_cons_of_ne_nil nonempty
  have start : (c :: more).isPrefixOf (c :: more ++ rest) = true :=
    List.isPrefixOf_iff_prefix.2 (List.prefix_append _ _)
  simp only [List.cons_append] at start ⊢
  rw [replace, replaceFrom, if_pos start, replaceFrom_eq_replace_drop]
  simp

theorem replace_cons_of_apart {old : Text} {c : Char} {rest : Text} (apart : ¬old <+: c :: rest)
    (new : Text) : replace old new (c :: rest) = c :: replace old new rest := by
  rw [replace, replaceFrom, if_neg fun start => apart (List.isPrefixOf_iff_prefix.1 start)]
  rfl

end Text

namespace Piece

def fill (table : List (Text × Text)) : Piece → List Piece
  | char c => [char c]
  | tag t =>
    match table.lookup t with
    | some body => body.map char
    | none => [tag t]

theorem replace_append_self {t : Text} (isTag : Tag.IsTag t) (new rest : Text) :
    Text.replace t new (t ++ rest) = new ++ Text.replace t new rest := by
  obtain ⟨c, more, rfl, -⟩ := isTag.eq_opening_append
  exact Text.replace_append_old (by simp) new rest

theorem replace_cons_of_atStart? {t : Text} (isTag : Tag.IsTag t) (new : Text) {c : Char} {rest : Text}
    (other : Tag.atStart? (c :: rest) ≠ some t) :
    Text.replace t new (c :: rest) = c :: Text.replace t new rest := by
  refine Text.replace_cons_of_apart ?_ new
  rintro ⟨more, same⟩
  rw [← same] at other
  exact other (isTag.atStart?_append more)

theorem replace_append_of_braceless {t : Text} (isTag : Tag.IsTag t) (new : Text) {s : Text}
    (braceless : '\x7b' ∉ s) (rest : Text) :
    Text.replace t new (s ++ rest) = s ++ Text.replace t new rest := by
  induction s with
  | nil => rfl
  | cons c s ih =>
      obtain ⟨ne, later⟩ := List.ne_and_not_mem_of_not_mem_cons braceless
      have none := atStart?_of_ne (s ++ rest) (Ne.symm ne)
      rw [List.cons_append, replace_cons_of_atStart? isTag new (by rw [none]; simp), ih later,
        List.cons_append]

theorem replace_append_other {t u : Text} (isTag : Tag.IsTag t) (new : Text) (isTag' : Tag.IsTag u)
    (apart : u ≠ t) (rest : Text) :
    Text.replace t new (u ++ rest) = u ++ Text.replace t new rest := by
  have first := isTag'.atStart?_append rest
  obtain ⟨c, more, rfl, braceless⟩ := isTag'.eq_opening_append
  have second := atStart?_of_brace (more ++ rest) (Ne.symm (List.ne_and_not_mem_of_not_mem_cons braceless).1)
  simp only [List.cons_append] at first ⊢
  rw [replace_cons_of_atStart? isTag new (by rw [first]; simpa using apart),
    replace_cons_of_atStart? isTag new (by rw [second]; simp),
    ← List.cons_append, replace_append_of_braceless isTag new braceless, List.cons_append]

theorem replace_join {t body : Text} (isTag : Tag.IsTag t) {pieces : List Piece} (h : Clean pieces) :
    Text.replace t body (join pieces) = join (pieces.flatMap (fill [(t, body)])) := by
  induction h with
  | nil => rfl
  | @tag u rest isTag' _ ih =>
      by_cases same : u = t
      · subst same
        simp [text, fill, replace_append_self isTag, ih]
      · have apart : (u == t) = false := by simpa using same
        simp [text, fill, List.lookup_cons, apart, replace_append_other isTag body isTag' same, ih]
  | @char c rest ne _ ih =>
      have none := atStart?_of_ne (join rest) ne
      simp only [join_cons, text, List.singleton_append, List.flatMap_cons, fill]
      rw [replace_cons_of_atStart? isTag body (by rw [none]; simp), ih]
  | @brace c rest ne _ _ ih =>
      have first := atStart?_of_brace (join rest) ne
      have second := atStart?_of_ne (join rest) ne
      simp only [join_cons, text, List.singleton_append, List.flatMap_cons, fill]
      rw [replace_cons_of_atStart? isTag body (by rw [first]; simp),
        replace_cons_of_atStart? isTag body (by rw [second]; simp), ih]

def Plain (table : List (Text × Text)) : Prop := ∀ e ∈ table, Clean (e.2.map char)

theorem clean_flatMap_fill {table : List (Text × Text)} (plain : Plain table) {pieces : List Piece}
    (h : Clean pieces) : Clean (pieces.flatMap (fill table)) := by
  induction h with
  | nil => exact .nil
  | @tag t rest isTag _ ih =>
      rw [List.flatMap_cons]
      refine Clean.append ?_ ih
      cases found : table.lookup t with
      | none => simpa [fill, found] using Clean.tag isTag .nil
      | some body =>
          obtain ⟨before, after, rfl, -⟩ := List.lookup_eq_some_iff.1 found
          simpa [fill, found] using plain (t, body) (by simp)
  | char ne _ ih => exact .char ne ih
  | brace ne nd _ ih => exact .brace ne nd ih

theorem flatMap_fill_chars (table : List (Text × Text)) (s : Text) :
    (s.map char).flatMap (fill table) = s.map char := by
  induction s with
  | nil => rfl
  | cons c s ih => simp [fill, ih]

theorem flatMap_fill_cons (t body : Text) (table : List (Text × Text)) (pieces : List Piece) :
    (pieces.flatMap (fill [(t, body)])).flatMap (fill table) = pieces.flatMap (fill ((t, body) :: table)) := by
  rw [List.flatMap_assoc]
  congr 1
  funext p
  cases p with
  | char c => rfl
  | tag u =>
      by_cases same : u = t
      · subst same
        simp [fill, flatMap_fill_chars]
      · have apart : (u == t) = false := by simpa using same
        simp [fill, List.lookup_cons, apart]

theorem foldl_replace_join {table : List (Text × Text)} (isTag : ∀ e ∈ table, Tag.IsTag e.1)
    (plain : Plain table) {pieces : List Piece} (h : Clean pieces) :
    table.foldl (fun s e => Text.replace e.1 e.2 s) (join pieces) = join (pieces.flatMap (fill table)) := by
  induction table generalizing pieces with
  | nil =>
      have kept : fill [] = fun p => [p] := by
        funext p
        cases p <;> rfl
      simp [kept]
  | cons e table ih =>
      obtain ⟨t, body⟩ := e
      obtain ⟨isTag', later⟩ := List.forall_mem_cons.1 isTag
      obtain ⟨plain', plainLater⟩ := List.forall_mem_cons.1 plain
      have once : Clean (pieces.flatMap (fill [(t, body)])) :=
        clean_flatMap_fill (by simpa [Plain] using plain') h
      rw [List.foldl_cons, replace_join isTag' h, ih later plainLater once, flatMap_fill_cons]

end Piece
end PageComposer

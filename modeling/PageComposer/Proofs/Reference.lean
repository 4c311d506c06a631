import PageComposer.Interpolation
import PageComposer.Proofs.Piece.Interpolation
import PageComposer.Proofs.Tag.Grammar
import PageComposer.Proofs.Value.OnPage
import PageComposer.Reference

/-!
# What a tag refers to

The properties of a tag come from the assignments in its clause. Their keys are words and their values
are shown without braces (`ofTag_braceless`), so filling a clean component leaves its tags alone
(`interpolate_ofTag`): no value changes which components are referred to (`all_interpolate`).
-/

namespace PageComposer

theorem OrderedMap.mem_assign {α : Type} {m : OrderedMap α} {key : Text} {value : α} {e : Text × α}
    (h : e ∈ (m.assign key value).entries) : e = (key, value) ∨ e ∈ m.entries := by
  obtain ⟨entries⟩ := m
  simp only [assign] at h ⊢
  induction entries with
  | nil => simpa [assignIn] using h
  | cons first rest ih =>
      obtain ⟨k, v⟩ := first
      simp only [assignIn] at h
      split at h
      · rcases List.mem_cons.1 h with same | later
        · exact .inl same
        · exact .inr (List.mem_cons_of_mem _ later)
      · rcases List.mem_cons.1 h with same | later
        · exact .inr (same ▸ List.mem_cons_self)
        · exact (ih later).imp_right (List.mem_cons_of_mem _)

namespace Property

theorem raw_of_writtenValue? {s raw : Text} {size : Nat} (h : writtenValue? s = some (raw, size)) :
    ∀ c ∈ raw, c ∈ s := by
  have quoted {quote : Char} {rest : Text} (h : quotedValue? quote rest = some (raw, size)) :
      ∀ c ∈ raw, c ∈ rest := by
    simp only [quotedValue?, Option.ite_none_right_eq_some, Option.some.injEq, Prod.mk.injEq] at h
    obtain ⟨-, rfl, -⟩ := h
    exact fun c hc => (List.takeWhile_sublist _).subset hc
  unfold writtenValue? at h
  split at h
  · exact fun c hc => List.mem_cons_of_mem _ (quoted h c hc)
  · exact fun c hc => List.mem_cons_of_mem _ (quoted h c hc)
  · simp only [Option.ite_none_left_eq_some, Option.some.injEq, Prod.mk.injEq] at h
    obtain ⟨-, rfl, -⟩ := h
    exact fun c hc => (List.takeWhile_sublist _).subset hc

theorem of_atStart? {s : Text} {a : Assignment} (h : atStart? s = some a) :
    (∀ c ∈ a.key, isWordChar c = true) ∧ ∀ c ∈ a.raw, c ∈ s := by
  simp only [atStart?] at h
  split at h
  · rename_i rest behind
    split at h
    · cases h
    · obtain ⟨⟨raw, size⟩, written, rfl⟩ := Option.map_eq_some_iff.1 h
      refine ⟨fun c hc => List.mem_takeWhile_imp hc, fun c hc => ?_⟩
      have later := raw_of_writtenValue? written c hc
      exact List.mem_of_mem_drop (behind ▸ List.mem_cons_of_mem _ later)
  · cases h

theorem of_mem_assignmentsFrom {a : Assignment} (skip : Nat) (s : Text) (h : a ∈ assignmentsFrom skip s) :
    (∀ c ∈ a.key, isWordChar c = true) ∧ ∀ c ∈ a.raw, c ∈ s := by
  induction s generalizing skip with
  | nil => cases skip <;> cases h
  | cons c s ih =>
      have later {skip : Nat} (h : a ∈ assignmentsFrom skip s) :
          (∀ c ∈ a.key, isWordChar c = true) ∧ ∀ d ∈ a.raw, d ∈ c :: s :=
        (ih skip h).imp_right fun raw d hd => List.mem_cons_of_mem _ (raw d hd)
      cases skip with
      | succ skip => exact later h
      | zero =>
          unfold assignmentsFrom at h
          split at h
          · rename_i b found
            rcases List.mem_cons.1 h with rfl | h
            · exact of_atStart? found
            · exact later h
          · exact later h

theorem assigned_of_ofClause {s : Text} {props : Properties} (h : ofClause s = .ok props) :
    ∀ e ∈ props.entries, ∃ a ∈ assignments s, e.1 = a.key ∧ coerce a.raw = .ok e.2 := by
  have assigned (as : List Assignment) (start : Properties) (h : as.foldlM assign start = .ok props) :
      ∀ e ∈ props.entries, e ∈ start.entries ∨ ∃ a ∈ as, e.1 = a.key ∧ coerce a.raw = .ok e.2 := by
    induction as generalizing start with
    | nil =>
        cases h
        exact fun e he => .inl he
    | cons a as ih =>
        rw [List.foldlM_cons] at h
        cases read : coerce a.raw with
        | error e => simp [assign, read, Except.map, bind, Except.bind] at h
        | ok value =>
            simp only [assign, read, Except.map, bind, Except.bind] at h
            intro e he
            rcases ih _ h e he with before | ⟨b, hb, key, raw⟩
            · rcases OrderedMap.mem_assign before with rfl | before
              · exact .inr ⟨a, List.mem_cons_self, rfl, read⟩
              · exact .inl before
            · exact .inr ⟨b, List.mem_cons_of_mem _ hb, key, raw⟩
  intro e he
  exact (assigned _ _ h e he).resolve_left (by simp [OrderedMap.empty])

theorem ofClause_braceless {s : Text} {props : Properties} (h : ofClause s = .ok props)
    (braceless : Tag.Braceless s) :
    ∀ e ∈ props.entries, (∀ c ∈ e.1, isWordChar c = true) ∧ Tag.Braceless e.2.onPage := by
  intro e he
  obtain ⟨a, ha, key, read⟩ := assigned_of_ofClause h e he
  obtain ⟨words, raw⟩ := of_mem_assignmentsFrom 0 s ha
  exact ⟨key ▸ words, braceless_onPage read fun c hc => braceless c (raw c hc)⟩

/-- Are the integer numerals among the assigned values short enough to be read? -/
def isReadable (s : Text) : Bool :=
  (assignments s).all fun a =>
    !Numeral.isInteger a.raw || (Numeral.sign a.raw).2.length ≤ Numeral.digitLimit

theorem coerce_of_readable {raw : Text}
    (short : Numeral.isInteger raw = true → (Numeral.sign raw).2.length ≤ Numeral.digitLimit) :
    ∃ value, coerce raw = .ok value := by
  unfold coerce
  split
  · exact ⟨_, rfl⟩
  · split
    · exact ⟨_, rfl⟩
    · split
      · rename_i integer
        have read := Nat.not_lt.2 (short integer)
        simp [Numeral.readInteger, read, Except.map]
      · split
        · exact ⟨_, rfl⟩
        · exact ⟨_, rfl⟩

theorem ofClause_of_readable {s : Text} (readable : isReadable s = true) :
    ∃ props, ofClause s = .ok props := by
  have assigned (as : List Assignment) (start : Properties) (h : ∀ a ∈ as, ∃ v, coerce a.raw = .ok v) :
      ∃ props, as.foldlM assign start = .ok props := by
    induction as generalizing start with
    | nil => exact ⟨start, rfl⟩
    | cons a as ih =>
        obtain ⟨⟨value, read⟩, later⟩ := List.forall_mem_cons.1 h
        rw [List.foldlM_cons]
        simp only [assign, read, Except.map, bind, Except.bind]
        exact ih _ later
  refine assigned _ _ fun a member => coerce_of_readable fun integer => ?_
  simpa [integer] using List.all_eq_true.1 readable a member

end Property

namespace Tag

def name (tag : Text) : Text := (inner tag).takeWhile (!Text.isBlank ·)

def clause (tag : Text) : Text := ((inner tag).drop (name tag).length).dropWhile Text.isBlank

theorem inner_written (name clause : Text) : inner (written name clause) = Text.trim Text.isBlank (name ++ clause) := by
  have lead : Text.dropLead opening (written name clause) = name ++ clause ++ closing := by
    simp [Text.dropLead, written, List.isPrefixOf_iff_prefix]
  have tail : closing.isSuffixOf (name ++ clause ++ closing) = true :=
    List.isSuffixOf_iff_suffix.2 (List.suffix_append _ _)
  rw [inner, lead, Text.dropTail, if_pos tail, List.length_append, Nat.add_sub_cancel, List.take_left]

theorem braceless_inner {t : Text} (tag : IsTag t) : Braceless (inner t) := by
  obtain ⟨name, clause, fits, rfl⟩ := tag
  intro c hc
  rw [inner_written] at hc
  have inside := (List.dropWhile_sublist _).subset (Text.mem_of_mem_dropEndWhile hc)
  rcases List.mem_append.1 inside with inName | inClause
  · exact isBrace_of_isNameChar (fits.nameChars c inName)
  · exact fits.braceless c inClause

end Tag

namespace Reference

theorem ofTag_eq (tag : Text) :
    ofTag tag = (Property.ofClause (Tag.clause tag)).map fun props => ⟨Tag.name tag, props⟩ := rfl

theorem ofTag_ok {tag : Text} {ref : Reference} (h : ofTag tag = .ok ref) :
    ref.name = Tag.name tag ∧ Property.ofClause (Tag.clause tag) = .ok ref.props := by
  rw [ofTag_eq] at h
  cases read : Property.ofClause (Tag.clause tag) with
  | error e => simp [read, Except.map] at h
  | ok props =>
      simp only [read, Except.map, Except.ok.injEq] at h
      subst h
      exact ⟨rfl, rfl⟩

theorem ofTag_of_readable {tag : Text} (readable : Property.isReadable (Tag.clause tag) = true) :
    ∃ props, ofTag tag = .ok ⟨Tag.name tag, props⟩ := by
  obtain ⟨props, read⟩ := Property.ofClause_of_readable readable
  exact ⟨props, by rw [ofTag_eq, read]; rfl⟩

theorem ofTag_braceless {tag : Text} {ref : Reference} (isTag : Tag.IsTag tag) (h : ofTag tag = .ok ref) :
    ∀ e ∈ ref.props.entries,
      (∀ c ∈ e.1, Property.isWordChar c = true) ∧ Tag.Braceless e.2.onPage := by
  refine Property.ofClause_braceless (ofTag_ok h).2 fun c hc => ?_
  have inside := List.mem_of_mem_drop ((List.dropWhile_sublist _).subset hc)
  exact Tag.braceless_inner isTag c inside

theorem interpolate_ofTag {tag : Text} {ref : Reference} (isTag : Tag.IsTag tag) (h : ofTag tag = .ok ref)
    {fragment : Text} (clean : Piece.isClean fragment = true) :
    Piece.isClean (interpolate ref.props fragment) = true ∧
      Tag.occurrences (interpolate ref.props fragment) = Tag.occurrences fragment := by
  refine interpolate_clean (fun e he => ?_) clean
  obtain ⟨words, shown⟩ := ofTag_braceless isTag h e he
  exact ⟨fun brace => absurd (words _ brace) (by decide), fun brace => absurd (shown _ brace) (by decide)⟩

/-- Whatever values a tag assigns, filling a clean text with them leads to the same references as before. -/
theorem all_interpolate {text tag : Text} {ref : Reference} (member : tag ∈ Tag.all text) (read : ofTag tag = .ok ref) :
    (∀ e ∈ ref.props.entries, Tag.Braceless e.2.onPage) ∧
    ∀ fragment, Piece.isClean fragment = true →
      Tag.all (interpolate ref.props fragment) = Tag.all fragment ∧
      Tag.occurrences (interpolate ref.props fragment) = Tag.occurrences fragment ∧
      Piece.isClean (interpolate ref.props fragment) = true := by
  have isTag := Piece.isTag_of_mem_all member
  refine ⟨fun e he => (ofTag_braceless isTag read e he).2, fun fragment clean => ?_⟩
  obtain ⟨clean', same⟩ := interpolate_ofTag isTag read clean
  exact ⟨by rw [Tag.all, Tag.all, same], same, clean'⟩

theorem all_interpolate_empty :
    Tag.all "\x7b\x7bCard t=\"\"\x7d\x7d".toList = ["\x7b\x7bCard t=\"\"\x7d\x7d".toList] ∧
    ofTag "\x7b\x7bCard t=\"\"\x7d\x7d".toList = .ok ⟨"Card".toList, ⟨[("t".toList, .text [])]⟩⟩ ∧
    Tag.all (interpolate ⟨[("t".toList, .text [])]⟩ "\x7b $\x7bt\x7d\x7b\x7bItem\x7d\x7d".toList) =
      ["\x7b\x7bItem\x7d\x7d".toList] := by
  have member : Tag.all "\x7b\x7bCard t=\"\"\x7d\x7d".toList = ["\x7b\x7bCard t=\"\"\x7d\x7d".toList] := by decide
  have read : ofTag "\x7b\x7bCard t=\"\"\x7d\x7d".toList = .ok ⟨"Card".toList, ⟨[("t".toList, .text [])]⟩⟩ := by rfl
  have kept := (all_interpolate (member ▸ List.mem_singleton_self _) read).2
    "\x7b $\x7bt\x7d\x7b\x7bItem\x7d\x7d".toList (by decide)
  exact ⟨member, read, kept.1.trans (by decide)⟩

-- In a text that is not clean two braces can come together.
example : Tag.all "\x7b$\x7bt\x7d\x7bItem\x7d\x7d".toList = [] ∧
    Tag.all (interpolate ⟨[("t".toList, .text [])]⟩ "\x7b$\x7bt\x7d\x7bItem\x7d\x7d".toList) =
      ["\x7b\x7bItem\x7d\x7d".toList] := by decide

end Reference
end PageComposer

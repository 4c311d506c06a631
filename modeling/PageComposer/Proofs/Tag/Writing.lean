import Mathlib.Data.List.Induction
import PageComposer.Proofs.Tag.Call

/-!
# Writing tags

A tag is written from a name and properties, each behind blanks, its value in quotes or bare. Whatever the values hold,
each assignment ends where it has been written to end (`assignments_text`), so reading the tag gives the name and the
properties assigned from left to right (`Reference.ofTag_written`).
-/

namespace PageComposer

namespace OrderedMap
variable {α : Type}

def assignAll (assigned : List (Text × α)) : OrderedMap α := assigned.foldl (fun m e => m.assign e.1 e.2) empty

theorem assignAll_concat (assigned : List (Text × α)) (key : Text) (value : α) :
    assignAll (assigned ++ [(key, value)]) = (assignAll assigned).assign key value := by
  simp [assignAll]

theorem find?_assignAll (assigned : List (Text × α)) (key : Text) :
    (assignAll assigned).find? key = assigned.reverse.lookup key := by
  induction assigned using List.reverseRecOn with
  | nil => rfl
  | append_singleton assigned e ih =>
      obtain ⟨k, v⟩ := e
      rw [assignAll_concat, find?_assign, ih, List.reverse_concat, List.lookup_cons]
      by_cases same : key = k
      · simp [same]
      · have apart : (key == k) = false := by simpa using same
        simp [same, apart]

theorem keys_assignAll (assigned : List (Text × α)) :
    (assignAll assigned).keys = (assigned.map (·.1)).eraseDups := by
  induction assigned using List.reverseRecOn with
  | nil => rfl
  | append_singleton assigned e ih =>
      obtain ⟨k, v⟩ := e
      rw [assignAll_concat, keys_assign, ih, List.map_append, List.eraseDups_append]
      by_cases known : k ∈ assigned.map (·.1)
      · simp [List.removeAll, known]
      · simp [List.removeAll, known, List.eraseDups_cons]

end OrderedMap

theorem Tag.braceless_of_blank {s : Text} (blank : ∀ c ∈ s, Text.isAsciiBlank c = true) : Braceless s := by
  intro c hc
  by_contra brace
  simp only [isBrace, Bool.not_eq_false, Bool.or_eq_true, beq_iff_eq] at brace
  rcases brace with rfl | rfl <;> exact absurd (blank _ hc) (by decide)

namespace Property

inductive Style where
  | double
  | single
  | bare
  deriving DecidableEq

namespace Style

def enclose : Style → Text → Text
  | double, raw => '"' :: (raw ++ ['"'])
  | single, raw => '\'' :: (raw ++ ['\''])
  | bare, raw => raw

def Allows : Style → Text → Prop
  | double, raw => '"' ∉ raw
  | single, raw => '\'' ∉ raw
  | bare, raw => raw ≠ [] ∧ ∀ c ∈ raw, Text.isBlank c = false ∧ c ≠ '"' ∧ c ≠ '\''

end Style

structure Writing where
  gap : Text
  key : Text
  style : Style
  raw : Text

namespace Writing

def body (w : Writing) : Text := w.key ++ '=' :: w.style.enclose w.raw

def text (w : Writing) : Text := w.gap ++ w.body

structure Fits (w : Writing) : Prop where
  apart : w.gap ≠ []
  blank : ∀ c ∈ w.gap, Text.isAsciiBlank c = true
  named : w.key ≠ []
  word : ∀ c ∈ w.key, isWordChar c = true
  braceless : Tag.Braceless w.raw
  allowed : w.style.Allows w.raw

def assignment (w : Writing) : Assignment := ⟨w.key, w.raw, w.body.length⟩

end Writing

theorem assignments_cons_of_blank {c : Char} (blank : Text.isBlank c = true) (rest : Text) :
    assignments (c :: rest) = assignments rest := by
  have noWord : isWordChar c = false := by
    by_contra word
    rw [isBlank_of_isWordChar (by simpa using word)] at blank
    cases blank
  have noMark : c ≠ '=' := by
    rintro rfl
    exact absurd blank (by decide)
  have none : atStart? (c :: rest) = none := by
    unfold atStart?
    simp only [noWord, Bool.false_eq_true, not_false_eq_true, List.takeWhile_cons_of_neg, List.length_nil,
      List.drop_zero]
    split
    · rename_i found
      exact absurd (List.cons.inj found).1 noMark
    · rfl
  rw [assignments, assignmentsFrom, none]
  rfl

theorem assignments_append_of_blank {gap : Text} (blank : ∀ c ∈ gap, Text.isBlank c = true) (rest : Text) :
    assignments (gap ++ rest) = assignments rest := by
  induction gap with
  | nil => rfl
  | cons c gap ih =>
      obtain ⟨here, later⟩ := List.forall_mem_cons.1 blank
      rw [List.cons_append, assignments_cons_of_blank here, ih later]

theorem assignments_dropWhile (s : Text) : assignments (s.dropWhile Text.isBlank) = assignments s := by
  have blank : ∀ c ∈ s.takeWhile Text.isBlank, Text.isBlank c = true := fun c hc => List.mem_takeWhile_imp hc
  rw [← assignments_append_of_blank blank, List.takeWhile_append_dropWhile]

theorem writtenValue?_enclose {style : Style} {raw rest : Text} (allowed : style.Allows raw)
    (stop : ∀ c ∈ rest.head?, Text.isAsciiBlank c = true) :
    writtenValue? (style.enclose raw ++ rest) = some (raw, (style.enclose raw).length) := by
  have quoted {quote : Char} (absent : quote ∉ raw) :
      quotedValue? quote (raw ++ quote :: rest) = some (raw, raw.length + 2) := by
    have taken : (raw ++ quote :: rest).takeWhile (· != quote) = raw :=
      Tag.takeWhile_append_stop (fun c hc => by simpa using ne_of_mem_of_not_mem hc absent) (by simp)
    simp [quotedValue?, taken]
  cases style with
  | double =>
      have read := quoted allowed
      simpa [Style.enclose, writtenValue?] using read
  | single =>
      have read := quoted allowed
      simpa [Style.enclose, writtenValue?] using read
  | bare =>
      obtain ⟨nonempty, plain⟩ := allowed
      have inside : ∀ c ∈ raw, isBare c = true := by
        intro c hc
        obtain ⟨dark, noDouble, noSingle⟩ := plain c hc
        have noBlank : Text.isAsciiBlank c = false := by
          by_contra blank
          rw [Text.isBlank_of_isAsciiBlank (by simpa using blank)] at dark
          cases dark
        simp [isBare, noBlank, noDouble, noSingle]
      have taken : (raw ++ rest).takeWhile isBare = raw :=
        Tag.takeWhile_append_stop inside fun c hc => by simp [isBare, stop c hc]
      obtain ⟨c, raw, rfl⟩ := List.exists_cons_of_ne_nil nonempty
      obtain ⟨-, noDouble, noSingle⟩ := plain c List.mem_cons_self
      rw [List.cons_append] at taken
      simp only [Style.enclose, List.cons_append]
      unfold writtenValue?
      split
      · rename_i same
        exact absurd (List.cons.inj same).1 noDouble
      · rename_i same
        exact absurd (List.cons.inj same).1 noSingle
      · simp [taken]

namespace Writing
variable {w : Writing} {ws : List Writing}

theorem atStart?_body (fits : w.Fits) {rest : Text} (stop : ∀ c ∈ rest.head?, Text.isAsciiBlank c = true) :
    atStart? (w.body ++ rest) = some w.assignment := by
  have taken : (w.body ++ rest).takeWhile isWordChar = w.key := by
    rw [body, List.append_assoc]
    exact Tag.takeWhile_append_stop fits.word (by simp [isWordChar])
  have named : w.key.isEmpty = false := by simpa using fits.named
  have behind : (w.body ++ rest).drop w.key.length = '=' :: (w.style.enclose w.raw ++ rest) := by
    rw [body, List.append_assoc, List.drop_left, List.cons_append]
  simp only [atStart?, taken, behind, named, writtenValue?_enclose fits.allowed stop]
  simp [assignment, body, Nat.add_assoc, Nat.add_comm]

theorem head_texts (fits : ∀ w ∈ ws, w.Fits) : ∀ c ∈ (ws.flatMap text).head?, Text.isAsciiBlank c = true := by
  cases ws with
  | nil => simp
  | cons w ws =>
      have fits := fits w List.mem_cons_self
      obtain ⟨b, gap, same⟩ := List.exists_cons_of_ne_nil fits.apart
      intro c hc
      simp only [List.flatMap_cons, text, same, List.cons_append, List.head?_cons, Option.mem_some] at hc
      subst hc
      exact fits.blank _ (same ▸ List.mem_cons_self)

theorem assignments_text (fits : ∀ w ∈ ws, w.Fits) : assignments (ws.flatMap text) = ws.map assignment := by
  induction ws with
  | nil => rfl
  | cons w ws ih =>
      obtain ⟨here, later⟩ := List.forall_mem_cons.1 fits
      have nonempty : w.body ≠ [] := by simp [body]
      rw [List.flatMap_cons, text, List.append_assoc,
        assignments_append_of_blank fun c hc => Text.isBlank_of_isAsciiBlank (here.blank c hc),
        assignments_append nonempty rfl (atStart?_body here (head_texts later)), ih later, List.map_cons]

theorem body_eq_concat (fits : w.Fits) : ∃ s c, w.body = s ++ [c] ∧ Text.isBlank c = false := by
  obtain ⟨gap, key, style, raw⟩ := w
  cases style with
  | double => exact ⟨key ++ '=' :: '"' :: raw, '"', by simp [body, Style.enclose], rfl⟩
  | single => exact ⟨key ++ '=' :: '\'' :: raw, '\'', by simp [body, Style.enclose], rfl⟩
  | bare =>
      obtain ⟨nonempty, plain⟩ := fits.allowed
      obtain ⟨s, c, rfl⟩ := (List.eq_nil_or_concat raw).resolve_left nonempty
      exact ⟨key ++ '=' :: s, c, by simp [body, Style.enclose], (plain c (by simp)).1⟩

theorem dropEndWhile_texts (fits : ∀ w ∈ ws, w.Fits) {trail : Text} (trailing : ∀ c ∈ trail, Text.isBlank c = true) :
    Text.dropEndWhile Text.isBlank (ws.flatMap text ++ trail) = ws.flatMap text := by
  have cut : Text.dropEndWhile Text.isBlank (ws.flatMap text ++ trail) =
      Text.dropEndWhile Text.isBlank (ws.flatMap text) := by
    rw [Text.dropEndWhile, List.reverse_append, List.dropWhile_append_of_pos (by simpa using trailing),
      Text.dropEndWhile]
  rw [cut]
  rcases List.eq_nil_or_concat ws with rfl | ⟨front, last, rfl⟩
  · rfl
  · obtain ⟨s, c, same, dark⟩ := body_eq_concat (fits last (by simp))
    have split : (front.concat last).flatMap text = front.flatMap text ++ last.gap ++ s ++ [c] := by
      simp [text, same]
    rw [split, Text.dropEndWhile_concat dark]

theorem braceless_text (fits : w.Fits) : Tag.Braceless w.text := by
  have enclosed : Tag.Braceless (w.style.enclose w.raw) := by
    cases w.style with
    | double => exact .cons rfl (fits.braceless.append (Tag.braceless_of_all rfl))
    | single => exact .cons rfl (fits.braceless.append (Tag.braceless_of_all rfl))
    | bare => exact fits.braceless
  have gap := Tag.braceless_of_blank fits.blank
  exact gap.append ((braceless_of_word fits.word).append (.cons rfl enclosed))

end Writing

theorem foldlM_assign {as : List Assignment} {values : List Value}
    (read : as.map (fun a => coerce a.raw) = values.map .ok) (props : Properties) :
    as.foldlM assign props =
      .ok (((as.map (·.key)).zip values).foldl (fun m e => m.assign e.1 e.2) props) := by
  induction as generalizing values props with
  | nil => rfl
  | cons a as ih =>
      cases values with
      | nil => cases read
      | cons value values =>
          obtain ⟨here, later⟩ := List.cons.inj read
          rw [List.foldlM_cons, assign, show coerce a.raw = .ok value from here]
          exact ih later (props.assign a.key value)

end Property

section
open Property
variable {name trail : Text} {ws : List Writing}

theorem Tag.fits_texts (named : name ≠ []) (nameChars : ∀ c ∈ name, isNameChar c = true) (fits : ∀ w ∈ ws, w.Fits)
    (trailing : ∀ c ∈ trail, Text.isAsciiBlank c = true) : Fits name (ws.flatMap Writing.text ++ trail) where
  named := named
  nameChars := nameChars
  braceless := by
    refine Braceless.append (fun c hc => ?_) (braceless_of_blank trailing)
    obtain ⟨w, hw, inside⟩ := List.mem_flatMap.1 hc
    exact Writing.braceless_text (fits w hw) c inside
  apart := by
    intro c hc
    refine Text.isBlank_of_isAsciiBlank ?_
    rw [List.head?_append] at hc
    cases first : (ws.flatMap Writing.text).head? with
    | none =>
        rw [first] at hc
        exact trailing c (List.mem_of_mem_head? hc)
    | some d =>
        rw [first] at hc
        cases hc
        exact Writing.head_texts fits c first

/-- A written tag is found as one tag, and reading it gives back its name and its properties: assigned from left to
right, so that the last value of a key wins and the key keeps its first place. -/
theorem Reference.ofTag_written (name : Text) (ws : List Writing) (trail : Text) (named : name ≠ [])
    (nameChars : ∀ c ∈ name, Tag.isNameChar c = true) (fits : ∀ w ∈ ws, w.Fits)
    (trailing : ∀ c ∈ trail, Text.isAsciiBlank c = true) :
    Tag.occurrences (Tag.written name (ws.flatMap Writing.text ++ trail)) =
      [Tag.written name (ws.flatMap Writing.text ++ trail)] ∧
    Tag.all (Tag.written name (ws.flatMap Writing.text ++ trail)) =
      [Tag.written name (ws.flatMap Writing.text ++ trail)] ∧
    ∀ values : List Value, ws.map (fun w => coerce w.raw) = values.map .ok →
      ∃ props : Properties, ofTag (Tag.written name (ws.flatMap Writing.text ++ trail)) = .ok ⟨name, props⟩ ∧
        props = OrderedMap.assignAll ((ws.map (·.key)).zip values) ∧
        (∀ key, props.find? key = ((ws.map (·.key)).zip values).reverse.lookup key) ∧
        props.keys = (ws.map (·.key)).eraseDups := by
  have isTag := Tag.fits_texts named nameChars fits trailing
  have found : Tag.occurrences (Tag.written name (ws.flatMap Writing.text ++ trail)) =
      [Tag.written name (ws.flatMap Writing.text ++ trail)] := by
    have braceless : Tag.Braceless [] := by simp [Tag.Braceless]
    simpa using Piece.occurrences_around ⟨_, _, isTag, rfl⟩ braceless braceless
  refine ⟨found, by rw [Tag.all, found]; rfl, fun values read => ⟨_, ?_, rfl, OrderedMap.find?_assignAll _, ?_⟩⟩
  · have kept := Writing.dropEndWhile_texts fits fun c hc => Text.isBlank_of_isAsciiBlank (trailing c hc)
    have read' : (ws.map Writing.assignment).map (fun a => coerce a.raw) = values.map .ok := by
      rw [← read, List.map_map]
      rfl
    have keys : (ws.map Writing.assignment).map (·.key) = ws.map (·.key) := List.map_map
    rw [ofTag_eq, Tag.name_written named nameChars isTag.apart, Tag.clause_written named nameChars isTag.apart,
      kept, ofClause, assignments_dropWhile, Writing.assignments_text fits, foldlM_assign read', keys]
    rfl
  · have length : ws.length = values.length := by simpa using congrArg List.length read
    rw [OrderedMap.keys_assignAll, List.map_fst_zip (by simp [length])]

theorem Reference.ofTag_written_twice :
    ofTag "\x7b\x7bui/Card a=\"x b='1'\"\t n=3 a='say \"b=2\"'\n\x7d\x7d".toList =
      .ok ⟨"ui/Card".toList, ⟨[("a".toList, .text "say \"b=2\"".toList), ("n".toList, .integer 3)]⟩⟩ := by
  have fits : ∀ w ∈ [(⟨[' '], ['a'], .double, "x b='1'".toList⟩ : Writing), ⟨['\t', ' '], ['n'], .bare, ['3']⟩,
      ⟨[' '], ['a'], .single, "say \"b=2\"".toList⟩], w.Fits := by
    simp only [List.forall_mem_cons, List.not_mem_nil, false_imp_iff, implies_true, and_true]
    refine ⟨⟨by decide, List.all_eq_true.1 rfl, by decide, List.all_eq_true.1 rfl, Tag.braceless_of_all rfl, ?_⟩,
      ⟨by decide, List.all_eq_true.1 rfl, by decide, List.all_eq_true.1 rfl, Tag.braceless_of_all rfl, ?_⟩,
      ⟨by decide, List.all_eq_true.1 rfl, by decide, List.all_eq_true.1 rfl, Tag.braceless_of_all rfl, ?_⟩⟩
    · exact show '"' ∉ "x b='1'".toList by decide
    · exact ⟨by decide, by rintro c (_ | ⟨_, ⟨⟩⟩); decide⟩
    · exact show '\'' ∉ "say \"b=2\"".toList by decide
  obtain ⟨-, -, read⟩ := ofTag_written "ui/Card".toList _ ['\n'] (by decide) (List.all_eq_true.1 rfl) fits
    (List.all_eq_true.1 rfl)
  obtain ⟨props, found, same, -⟩ :=
    read [.text "x b='1'".toList, .integer 3, .text "say \"b=2\"".toList] rfl
  subst same
  exact found

end
end PageComposer

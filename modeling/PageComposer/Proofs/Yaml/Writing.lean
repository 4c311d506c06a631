import PageComposer.Proofs.Yaml.Form

/-!
# Writing forms

In each of its styles a text is written in a form of itself (`form_plainFrom`, `form_singleFrom`, `form_doubleFrom`),
whatever the column at which it starts. A line is broken only where a form folds.
-/

namespace PageComposer.Yaml.Scalar
variable {indent : Nat}

theorem stays_in_line {c before : Char} {column : Nat} {rest : Text} (unbroken : before = ' ' ∨ c ≠ ' ') :
    (c == ' ' && before != ' ' && rest.headD ' ' != ' ' && decide (width < column)) = false := by
  rcases unbroken with rfl | noSpace
  · simp
  · simp [noSpace]

theorem head_plainFrom {column : Nat} {before : Char} {s : Text} (unbroken : before = ' ' ∨ s.head? ≠ some ' ') :
    (plainFrom indent column before s).head? = s.head? := by
  cases s with
  | nil => rfl
  | cons c rest =>
      rw [plainFrom, stays_in_line (unbroken.imp_right fun noSpace => by simpa using noSpace)]
      rfl

theorem form_plainFrom {s : Text} (printable : ∀ c ∈ s, isPrintable c = true) (noMark : hasInnerMark s = false)
    (noEnd : s.getLast? ≠ some ' ') (column : Nat) (before : Char) :
    Form indent .plain (plainFrom indent column before s) s := by
  induction s generalizing column before with
  | nil => exact .nil
  | cons c rest ih =>
      obtain ⟨here, later⟩ := List.forall_mem_cons.1 printable
      simp only [hasInnerMark, Bool.or_eq_false_iff, Bool.and_eq_false_iff] at noMark
      obtain ⟨⟨noColon, noComment⟩, noMark⟩ := noMark
      have noEnd' : rest.getLast? ≠ some ' ' := by
        cases rest with
        | nil => simp
        | cons d rest => rwa [List.getLast?_cons_cons] at noEnd
      have form := fun column before => ih later noMark noEnd' column before
      by_cases space : c = ' '
      · subst space
        obtain ⟨d, rest, rfl⟩ : ∃ d more, rest = d :: more := by
          cases rest with
          | nil => exact absurd rfl noEnd
          | cons d more => exact ⟨d, more, rfl⟩
        have noNumberSign : d ≠ '#' := by simpa using noComment
        have head (column : Nat) : (plainFrom indent column ' ' (d :: rest)).head? = some d :=
          head_plainFrom (.inl rfl)
        rw [plainFrom]
        split
        · rename_i breaks
          simp only [Bool.and_eq_true, bne_iff_ne, List.headD_cons] at breaks
          have ink := isInk_of_isPrintable (later d List.mem_cons_self) breaks.1.2
          exact .gap .fold ⟨d, head _, ink, noNumberSign⟩ (form _ _)
        · refine Form.space (form _ _) ?_ fun _ => ⟨?_, ?_⟩
          · rw [head]
            rintro ⟨⟩
            exact absurd (later '\n' List.mem_cons_self) (by decide)
          · intro empty
            have none := head (column + 1)
            rw [empty] at none
            cases none
          · rw [head]
            simpa using noNumberSign
      · have ink := isInk_of_isPrintable here space
        rw [plainFrom, stays_in_line (.inr space)]
        refine .piece (.plain ink ?_) (form _ _)
        rintro rfl
        simp only [beq_self_eq_true, Bool.true_eq_false, false_or] at noColon
        cases rest with
        | nil => cases noColon
        | cons d rest =>
            have noSpace : d ≠ ' ' := by simpa using noColon
            refine ⟨d, head_plainFrom (.inr (by simpa using noSpace)), ?_⟩
            exact isInk_of_isPrintable (later d List.mem_cons_self) noSpace

theorem head_singleFrom {column : Nat} {before : Char} {s : Text} (noBreak : s.head? ≠ some '\n')
    (unbroken : before = ' ' ∨ s.head? ≠ some ' ') : (singleFrom indent column before s).head? = s.head? := by
  cases s with
  | nil => rfl
  | cons c rest =>
      have noBreak : (c == '\n') = false := by simpa using noBreak
      rw [singleFrom]
      split
      · rename_i quote
        rw [beq_iff_eq.1 quote]
        rfl
      · rw [noBreak, stays_in_line (unbroken.imp_right fun noSpace => by simpa using noSpace)]
        rfl

def lead (before : Char) (s : Text) : Text := if before = '\n' ∧ s.head? = some '\n' then ['\n'] else []

theorem lead_of_head {before : Char} {s : Text} (noBreak : s.head? ≠ some '\n') : lead before s = [] :=
  if_neg fun both => noBreak both.2

theorem open_singleFrom {column : Nat} {before : Char} {s : Text} (chars : ∀ c ∈ s, (isPrintable c || c == '\n') = true)
    (noBreak : s.head? ≠ some '\n') (noSpace : s.head? ≠ some ' ') :
      Open .single (singleFrom indent column before s) := by
  intro d hd
  rw [head_singleFrom noBreak (.inr noSpace)] at hd
  have noFeed : d ≠ '\n' := fun same => noBreak (same ▸ hd)
  have printable : isPrintable d = true := by simpa [noFeed] using chars d (List.mem_of_mem_head? hd)
  exact isInk_of_isPrintable printable fun same => noSpace (same ▸ hd)

section
variable {rest : Text} (chars : ∀ c ∈ rest, (isPrintable c || c == '\n') = true)
include chars

theorem form_singleFrom_lineFeed (noSpace : rest.head? ≠ some ' ')
    (form : ∀ column before, Form indent .single (lead before rest ++ singleFrom indent column before rest) rest)
    (column : Nat) (before : Char) :
    Form indent .single (lead before ('\n' :: rest) ++ singleFrom indent column before ('\n' :: rest))
    ('\n' :: rest) := by
  have written : lead before ('\n' :: rest) ++ singleFrom indent column before ('\n' :: rest) =
      '\n' :: ((if rest.head? != some '\n' then newLine indent else ['\n']) ++ singleFrom indent indent '\n' rest) := by
    by_cases inside : before = '\n' <;> simp [lead, singleFrom, inside]
  have onward := form indent '\n'
  rw [written]
  split
  · rename_i last
    have noBreak : rest.head? ≠ some '\n' := by simpa using last
    rw [lead_of_head noBreak] at onward
    exact .gap (.breaks (by simp) 0) (open_singleFrom chars noBreak noSpace) onward
  · rename_i more
    obtain ⟨rest, rfl⟩ := List.head?_eq_some_iff.1 (by simpa using more : rest.head? = some '\n')
    rw [show lead '\n' ('\n' :: rest) = ['\n'] from rfl] at onward
    exact onward.lineFeed

theorem form_singleFrom_space (noBreak : rest.head? ≠ some '\n')
    (form : ∀ column, Form indent .single (singleFrom indent column ' ' rest) rest) (column : Nat) (before : Char) :
    Form indent .single (singleFrom indent column before (' ' :: rest)) (' ' :: rest) := by
  simp only [singleFrom, beq_self_eq_true, Bool.true_and]
  rw [if_neg (by decide), if_neg (by decide)]
  split
  · rename_i breaks
    simp only [Bool.and_eq_true, bne_iff_ne] at breaks
    have noSpace : rest.head? ≠ some ' ' := fun space => breaks.1.2 (by rw [List.headD_eq_head?_getD, space]; rfl)
    exact .gap .fold (open_singleFrom chars noBreak noSpace) (form _)
  · exact (form _).space (by rw [head_singleFrom noBreak (.inl rfl)]; exact noBreak) nofun

end

theorem form_singleFrom_ink {c : Char} {rest : Text} (ink : isInk c = true)
    (form : ∀ column, Form indent .single (singleFrom indent column c rest) rest) (column : Nat) (before : Char) :
    Form indent .single (singleFrom indent column before (c :: rest)) (c :: rest) := by
  have noBreak : c ≠ '\n' := by
    rintro rfl
    cases ink
  rw [singleFrom]
  split
  · rename_i quote
    cases beq_iff_eq.1 quote
    exact .piece .pair (form _)
  · rename_i quote
    rw [beq_false_of_ne noBreak, stays_in_line (.inr (ne_space_of_isInk ink))]
    by_cases mark : c = '"' ∨ c = '\\'
    · exact .piece (.mark mark) (form _)
    · rw [not_or] at mark
      have noQuote : c ≠ '\'' := by simpa using quote
      have plain : isQuotedPlain c = true := by simp [isQuotedPlain, isGap_of_isInk ink, noQuote, mark]
      exact .piece (.letter (by simp) ink plain) (form _)

theorem form_singleFrom {s : Text} (chars : ∀ c ∈ s, (isPrintable c || c == '\n') = true)
    (noBlank : hasBlankAtLineEnd s = false) (column : Nat) (before : Char) :
    Form indent .single (lead before s ++ singleFrom indent column before s) s := by
  induction s generalizing column before with
  | nil =>
      rw [lead_of_head (by simp)]
      exact .nil
  | cons c rest ih =>
      obtain ⟨here, later⟩ := List.forall_mem_cons.1 chars
      simp only [hasBlankAtLineEnd, Bool.or_eq_false_iff, Bool.and_eq_false_iff] at noBlank
      obtain ⟨⟨noBreakBehind, noSpaceBehind⟩, noBlank⟩ := noBlank
      by_cases lineFeed : c = '\n'
      · subst lineFeed
        exact form_singleFrom_lineFeed later (by simpa using noSpaceBehind) (ih later noBlank) column before
      · have onward (column : Nat) : Form indent .single (singleFrom indent column c rest) rest := by
          have form := ih later noBlank column c
          rwa [show lead c rest = [] from if_neg fun both => lineFeed both.1] at form
        rw [lead_of_head (by simpa using lineFeed), List.nil_append]
        by_cases space : c = ' '
        · subst space
          exact form_singleFrom_space later (by simpa using noBreakBehind) onward column before
        · exact form_singleFrom_ink (isInk_of_isPrintable (by simpa [lineFeed] using here) space) onward column before

theorem isInk_of_not_isEscaped {c : Char} (unescaped : isEscaped c = false) (noSpace : c ≠ ' ') : isInk c = true := by
  simp only [isEscaped, Bool.or_eq_false_iff, Bool.not_eq_false'] at unescaped
  exact isInk_of_isPrintable unescaped.1.1 noSpace

theorem open_doubleFrom {column : Nat} {first after : Bool} {s : Text} (noSpace : s.head? ≠ some ' ') :
    Open .double (doubleFrom indent column first after s) := by
  cases s with
  | nil => exact fun d hd => by cases hd
  | cons c rest =>
      have escaped (t : Text) : ∀ d ∈ (escape c ++ t).head?, isInk d = true := by
        rw [List.head?_append, escape_head]
        rintro d ⟨⟩
        rfl
      rw [doubleFrom]
      split
      · dsimp only
        split
        · rw [List.append_assoc]
          exact escaped _
        · exact escaped _
      · rename_i unescaped
        split
        · rintro d ⟨⟩
          rfl
        · rintro d ⟨⟩
          exact isInk_of_not_isEscaped (by simpa using unescaped) (by simpa using noSpace)

theorem noBreak_doubleFrom {column : Nat} {first after : Bool} {s : Text} :
    (doubleFrom indent column first after s).head? ≠ some '\n' := by
  by_cases space : s.head? = some ' '
  · obtain ⟨rest, rfl⟩ := List.head?_eq_some_iff.1 space
    rw [doubleFrom, if_neg (by decide)]
    split <;> simp [continued]
  · intro feed
    exact absurd (open_doubleFrom space '\n' feed) (by decide)

theorem doubleFrom_space {column : Nat} {first after : Bool} {rest : Text} (fits : column ≤ width) :
    doubleFrom indent column first after (' ' :: rest) =
      ' ' :: doubleFrom indent (column + 1) false false rest := by
  rw [doubleFrom, if_neg (by decide), if_neg]
  simp [Nat.not_lt.2 fits]

theorem Form.continued {next : Char} {w s : Text} (form : Form indent .double w s)
    (space : next = ' ' → w.head? = some ' ') (other : next ≠ ' ' → Open .double w) :
    Form indent .double (Scalar.continued indent next ++ w) s := by
  by_cases same : next = ' '
  · obtain ⟨w, rfl⟩ := List.head?_eq_some_iff.1 (space same)
    subst same
    have behind : Open .double ('\\' :: ' ' :: w) := by
      rintro d ⟨⟩
      rfl
    have written : Scalar.continued indent ' ' ++ ' ' :: w = ('\\' :: newLine indent) ++ '\\' :: ' ' :: w := by
      simp [Scalar.continued]
    rw [written]
    exact .piece (.continued behind) form.escapeSpace
  · have written : Scalar.continued indent next = '\\' :: newLine indent := by simp [Scalar.continued, same]
    rw [written]
    exact .piece (.continued (other same)) form

theorem form_doubleFrom (narrow : indent < width) (s : Text) (column : Nat) (first after : Bool) :
    Form indent .double (doubleFrom indent column first after s) s := by
  induction s generalizing column first after with
  | nil => exact .nil
  | cons c rest ih =>
      rw [doubleFrom]
      split
      · dsimp only
        split
        · have onward : Form indent .double (continued indent (rest.headD '"') ++
              doubleFrom indent (continuedColumn indent (rest.headD '"')) false true rest) rest := by
            refine (ih _ _ _).continued (fun space => ?_) fun other => open_doubleFrom fun space => other ?_
            · cases rest with
              | nil => cases space
              | cons d rest =>
                  cases (show d = ' ' from space)
                  have stays : doubleFrom indent (indent + 1) false true (' ' :: rest) = _ := doubleFrom_space narrow
                  exact congrArg List.head? stays
            · rw [List.headD_eq_head?_getD, space]
              rfl
          rw [List.append_assoc]
          exact .piece (.escape c) onward
        · exact .piece (.escape c) (ih _ _ _)
      · rename_i unescaped
        have unescaped : isEscaped c = false := by simpa using unescaped
        have unbroken (column : Nat) :
            Form indent .double (c :: doubleFrom indent column false false rest) (c :: rest) := by
          by_cases space : c = ' '
          · subst space
            exact (ih _ _ _).space noBreak_doubleFrom nofun
          · have ink := isInk_of_not_isEscaped unescaped space
            by_cases quote : c = '\''
            · subst quote
              exact .piece .apostrophe (ih _ _ _)
            · simp only [isEscaped, Bool.or_eq_false_iff] at unescaped
              have plain : isQuotedPlain c = true := by
                simp [isQuotedPlain, isGap_of_isInk ink, quote, unescaped.1.2, unescaped.2]
              exact .piece (.letter (by simp) ink plain) (ih _ _ _)
        split
        · refine (unbroken _).continued (fun space => congrArg some space) fun other => ?_
          rintro d ⟨⟩
          exact isInk_of_not_isEscaped unescaped other
        · exact unbroken _

end PageComposer.Yaml.Scalar

import PageComposer.Proofs.Yaml.Cursor
import PageComposer.Yaml.Token.Quoted

/-!
# Forms of scalars

How the content of a scalar can stand in its lines. A form is made of pieces of ink, each standing for some content in
front of what follows it, and of gaps between them: spaces, or an end of a line that is folded.
-/

namespace PageComposer.Yaml.Scalar

inductive Style where
  | plain
  | single
  | double

def Open : Style → Text → Prop
  | .plain, w => ∃ c ∈ w.head?, isInk c = true ∧ c ≠ '#'
  | _, w => ∀ c ∈ w.head?, isInk c = true

/-- A gap as it is written, and what it stands for. A line feed is written once more than it counts. -/
inductive Gap (indent : Nat) : Style → Text → Text → Prop
  | spaces {style : Style} (n : Nat) : Gap indent style (List.replicate (n + 1) ' ') (List.replicate (n + 1) ' ')
  | fold {style : Style} : Gap indent style (newLine indent) [' ']
  | breaks {style : Style} (quoted : style ≠ .plain) (n : Nat) :
      Gap indent style (List.replicate (n + 1) '\n' ++ newLine indent) (List.replicate (n + 1) '\n')

inductive Piece (indent : Nat) : Style → Text → Text → Text → Prop
  | plain {c : Char} {w : Text} (ink : isInk c = true) (colon : c = ':' → ∃ d ∈ w.head?, isInk d = true) :
      Piece indent .plain [c] [c] w
  | letter {style : Style} {c : Char} {w : Text} (quoted : style ≠ .plain) (ink : isInk c = true)
      (plain : isQuotedPlain c = true) : Piece indent style [c] [c] w
  | pair {w : Text} : Piece indent .single ['\'', '\''] ['\''] w
  | mark {c : Char} {w : Text} (mark : c = '"' ∨ c = '\\') : Piece indent .single [c] [c] w
  | apostrophe {w : Text} : Piece indent .double ['\''] ['\''] w
  | escape (c : Char) {w : Text} : Piece indent .double (escape c) [c] w
  | space {w : Text} : Piece indent .double ['\\', ' '] [' '] w
  | continued {w : Text} (behind : Open .double w) : Piece indent .double ('\\' :: newLine indent) [] w

/-- A text as it is written in a style, and the content it stands for. -/
inductive Form (indent : Nat) (style : Style) : Text → Text → Prop
  | nil : Form indent style [] []
  | piece {p q w s : Text} (here : Piece indent style p q w) (rest : Form indent style w s) :
      Form indent style (p ++ w) (q ++ s)
  | gap {g t w s : Text} (here : Gap indent style g t) (behind : Open style w) (rest : Form indent style w s) :
      Form indent style (g ++ w) (t ++ s)

variable {indent : Nat} {style : Style}

theorem isPrintable_hexDigit {n : Nat} (small : n < 16) : isPrintable (Text.hexDigit true n) = true := by
  revert n
  decide

theorem isPrintable_hex (width n : Nat) : ∀ c ∈ Text.hex true width n, isPrintable c = true := by
  induction width generalizing n with
  | zero => simp [Text.hex]
  | succ width ih =>
      intro c hc
      rcases List.mem_append.1 hc with lead | last
      · exact ih _ c lead
      · rw [List.mem_singleton.1 last]
        exact isPrintable_hexDigit (Nat.mod_lt _ (by decide))

theorem isPrintable_escapeLetter? {c letter : Char} (found : escapeLetter? c = some letter) :
    isPrintable letter = true := by
  unfold escapeLetter? at found
  split at found <;> cases found <;> rfl

theorem isPrintable_escape (c : Char) : ∀ d ∈ escape c, isPrintable d = true := by
  intro d hd
  unfold escape at hd
  split at hd
  · rename_i letter found
    rcases List.mem_cons.1 hd with rfl | hd
    · rfl
    · rw [List.mem_singleton.1 hd]
      exact isPrintable_escapeLetter? found
  · unfold Text.escapeCode at hd
    split_ifs at hd
    all_goals exact (List.mem_append.1 hd).elim (List.all_eq_true.1 rfl d) (isPrintable_hex _ _ d)

theorem escape_head (c : Char) : (escape c).head? = some '\\' := by
  unfold escape Text.escapeCode
  split
  · rfl
  · split_ifs <;> rfl

theorem Piece.head {p q w : Text} (here : Piece indent style p q w) :
    ∃ c rest, p = c :: rest ∧ isInk c = true := by
  cases here with
  | plain ink | letter _ ink => exact ⟨_, _, rfl, ink⟩
  | pair | apostrophe | space | continued => exact ⟨_, _, rfl, rfl⟩
  | mark mark => exact ⟨_, _, rfl, by rcases mark with rfl | rfl <;> rfl⟩
  | escape c =>
      obtain ⟨rest, split⟩ := List.head?_eq_some_iff.1 (escape_head c)
      exact ⟨_, _, split, rfl⟩

theorem Gap.head {g t : Text} (here : Gap indent style g t) : ∃ c rest, g = c :: rest ∧ (c = ' ' ∨ c = '\n') := by
  cases here with
  | spaces => exact ⟨_, _, rfl, .inl rfl⟩
  | fold | breaks => exact ⟨_, _, rfl, .inr rfl⟩

theorem Form.chars {w s : Text} (form : Form indent style w s) :
    ∀ c ∈ w, isPrintable c = true ∨ c = '\n' := by
  have newLine' : ∀ c ∈ newLine indent, isPrintable c = true ∨ c = '\n' := by
    rintro c (_ | ⟨_, space⟩)
    · exact .inr rfl
    · exact .inl (List.eq_of_mem_replicate space ▸ rfl)
  induction form with
  | nil => simp
  | piece here rest ih =>
      refine List.forall_mem_append.2 ⟨?_, ih⟩
      cases here with
      | plain ink | letter _ ink => exact fun c hc => .inl (List.mem_singleton.1 hc ▸ isPrintable_of_isInk ink)
      | pair | apostrophe | space => exact fun c hc => .inl (List.all_eq_true.1 rfl c hc)
      | mark mark =>
          intro c hc
          rw [List.mem_singleton.1 hc]
          rcases mark with rfl | rfl <;> exact .inl rfl
      | escape c => exact fun d hd => .inl (isPrintable_escape c d hd)
      | continued => exact List.forall_mem_cons.2 ⟨.inl rfl, newLine'⟩
  | gap here behind rest ih =>
      refine List.forall_mem_append.2 ⟨?_, ih⟩
      cases here with
      | spaces n => exact fun c hc => .inl (List.eq_of_mem_replicate hc ▸ rfl)
      | fold => exact newLine'
      | breaks _ n => exact List.forall_mem_append.2 ⟨fun c hc => .inr (List.eq_of_mem_replicate hc), newLine'⟩

inductive Left (indent : Nat) (style : Style) : Text → Text → Prop
  | nil : Left indent style [] []
  | gap {g t w s : Text} (here : Gap indent style g t) (behind : Open style w) (rest : Form indent style w s) :
      Left indent style (g ++ w) (t ++ s)

theorem Form.space {w s : Text} (form : Form indent style w s) (noBreak : w.head? ≠ some '\n')
    (opens : style = .plain → w ≠ [] ∧ w.head? ≠ some '#') : Form indent style (' ' :: w) (' ' :: s) := by
  cases form with
  | nil =>
      refine .gap (.spaces 0) ?_ .nil
      cases style with
      | plain => exact absurd rfl (opens rfl).1
      | single | double => exact fun c hc => by cases hc
  | piece here rest =>
      refine .gap (.spaces 0) ?_ (.piece here rest)
      obtain ⟨c, p, rfl, ink⟩ := here.head
      cases style with
      | plain => exact ⟨c, rfl, ink, fun same => (opens rfl).2 (same ▸ rfl)⟩
      | single | double => exact fun d hd => by cases hd; exact ink
  | gap here behind rest =>
      cases here with
      | spaces n => exact .gap (.spaces (n + 1)) behind rest
      | fold => exact absurd rfl noBreak
      | breaks => exact absurd rfl noBreak

theorem Form.lineFeed {w s : Text} (form : Form indent style ('\n' :: w) ('\n' :: s)) :
    Form indent style ('\n' :: '\n' :: w) ('\n' :: '\n' :: s) := by
  generalize written : '\n' :: w = v, content : '\n' :: s = t at form
  cases form with
  | nil => cases written
  | piece here rest =>
      obtain ⟨c, p, rfl, ink⟩ := here.head
      cases (List.cons.inj written).1
      cases ink
  | gap here behind rest =>
      cases here with
      | spaces n => cases written
      | fold => cases content
      | breaks quoted n => exact .gap (.breaks quoted (n + 1)) behind rest

theorem Form.escapeSpace {w s : Text} (form : Form indent .double (' ' :: w) s) :
    Form indent .double ('\\' :: ' ' :: w) s := by
  generalize written : ' ' :: w = v at form
  cases form with
  | nil => cases written
  | piece here rest =>
      obtain ⟨c, p, rfl, ink⟩ := here.head
      cases (List.cons.inj written).1
      cases ink
  | gap here behind rest =>
      cases here with
      | spaces n =>
          cases n with
          | zero => exact .piece .space rest
          | succ n => exact .piece .space (.gap (.spaces n) behind rest)
      | fold => cases written
      | breaks => cases written

end PageComposer.Yaml.Scalar

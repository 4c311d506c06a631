import PageComposer.Proofs.Yaml.Scanning

/-!
# Lines of fields

A field is a key with a scalar behind it in its line. Fields that are indented alike make a block, and the tokens of a
document of fields are those of its blocks (`scan_grouped`).
-/

namespace PageComposer.Yaml
open Scalar (Style Form newLine)

inductive Stands (indent : Nat) : Text → Text → Bool → Prop
  | plain {ch : Char} {rest s : Text} (begins : Begins ch rest) (form : Form indent .plain (ch :: rest) s) :
      Stands indent (ch :: rest) s true
  | quoted {style : Style} {w s : Text} (quoted : style ≠ .plain) (form : Form indent style w s) :
      Stands indent (style.quote :: (w ++ [style.quote])) s false

structure Field where
  name : Text
  written : Text
  plain : Bool
  content : Text

namespace Field

def text (column : Nat) (f : Field) : Text := newLine column ++ (f.name ++ ':' :: ' ' :: f.written)

def tokens (f : Field) : List Token := [.key, .scalar true (some f.name), .value, .scalar f.plain (some f.content)]

structure Fits (indent : Nat) (f : Field) : Prop where
  key : IsKey f.name
  stands : Stands indent f.written f.content f.plain

end Field

theorem flatMap_text_cons (n : Nat) (f : Field) (fs : List Field) (t : Text) :
    (f :: fs).flatMap (Field.text n) ++ t =
      newLine n ++ (f.name ++ (':' :: ' ' :: f.written ++ (fs.flatMap (Field.text n) ++ t))) := by
  simp only [List.flatMap_cons, Field.text, List.append_assoc]

namespace Lexer
variable {x : Lexer} {c : Cursor} {tokens tokens' : List Token} {outer outer' : List Int} {indent m n : Nat}
    {t w s : Text}
  {f : Field} {fs : List Field}

theorem stops_of_keyStart (keyStart : KeyStart t) :
    ∀ ch ∈ t.head?, (ch ≠ ' ' ∧ isBreak ch = false) ∧ ch ≠ '-' ∧ ch ≠ '.' := by
  intro ch hch
  have alpha := keyStart ch hch
  have ink := isInk_of_isAlpha alpha
  refine ⟨⟨ne_space_of_isInk ink, isBreak_of_isGap (isGap_of_isInk ink)⟩, ?_, ?_⟩
  · rintro rfl
    cases alpha
  · rintro rfl
    cases alpha

theorem leads_plain {ch : Char} {rest : Text} (begins : Begins ch rest) (form : Form indent .plain (ch :: rest) s)
    (indented : n < indent) (lesser : m ≤ n) (keyStart : KeyStart t) (column : n ≤ c.column)
    (here : c.rest = ' ' :: (ch :: rest ++ (newLine m ++ t))) :
    ∃ y, Leads 1 (free c tokens n outer false) y ∧
      Faces y (newLine m ++ t) (.scalar true (some s) :: tokens) n outer := by
  have starts := (begins.append (newLine m ++ t)).starts
  have deep : (n : Int) ≤ (c.column + 1 : Nat) := by omega
  have ready := advance_spaces tokens n outer false (n := 1) starts here
  rw [closeBlocks_free deep] at ready
  have deep' : (n : Int) + 1 ≤ (c.column + 1 : Nat) := by omega
  have deeper : (n : Int) + 1 ≤ indent := by omega
  have shallow : (m : Int) < n + 1 := by omega
  have opens : Scalar.Open .plain (ch :: rest) := ⟨ch, rfl, begins.starts ch rfl⟩
  obtain ⟨after, read, rest', column'⟩ := plainScalar_form (n := m) form opens (Nat.zero_lt_of_lt indented) deep' deeper
    shallow (stops_of_keyStart keyStart) (c :=
      ⟨ch :: (rest ++ (newLine m ++ t)), c.index + 1, c.line, c.column + 1⟩) rfl
  have step :
      (free c tokens n outer false).next none = .ok (free after (.scalar true (some s) :: tokens) n outer true) := by
    refine next_of_token ready ?_
    rw [token_plain (begins.append _) rfl rfl (.inl (Nat.succ_ne_zero _)), plain_of_read saveCandidate_free read]
    rfl
  refine ⟨_, leads_of_next step (by simp [free]), ?_⟩
  have next :=
      advance_spaces (.scalar true (some s) :: tokens) n outer true (n := 0) (starts_of_keyStart keyStart) rest'
  exact ⟨⟨t, after.index, after.line, after.column⟩, m, t, rfl, keyStart, rfl, column', column' ▸ next⟩

theorem leads_quoted {style : Style} (quoted : style ≠ .plain) (form : Form indent style w s) (indented : n < indent)
    (keyStart : KeyStart t) (column : n ≤ c.column)
    (here : c.rest = ' ' :: (style.quote :: (w ++ [style.quote]) ++ (newLine m ++ t))) :
    ∃ y, Leads 1 (free c tokens n outer false) y ∧
      Faces y (newLine m ++ t) (.scalar false (some s) :: tokens) n outer := by
  have starts : Starts (style.quote :: (w ++ [style.quote]) ++ (newLine m ++ t)) := by
    rintro d ⟨⟩
    cases style <;> exact ⟨rfl, by decide⟩
  have deep : (n : Int) ≤ (c.column + 1 : Nat) := by omega
  have ready := advance_spaces tokens n outer false (n := 1) starts here
  rw [closeBlocks_free deep] at ready
  have split : style.quote :: (w ++ [style.quote]) ++ (newLine m ++ t) =
      style.quote :: (w ++ style.quote :: (newLine m ++ t)) := by simp
  have alone : style = .single → (newLine m ++ t).head? ≠ some '\'' := fun _ => by simp [newLine]
  obtain ⟨after, read, rest⟩ := quotedScalar_form (Nat.zero_lt_of_lt indented) form quoted alone
    (c := ⟨style.quote :: (w ++ [style.quote]) ++ (newLine m ++ t), c.index + 1, c.line, c.column + 1⟩) split
  have step : (free c tokens n outer false).next none =
      .ok (free after (.scalar false (some s) :: tokens) n outer false) := by
    refine next_of_token ready ?_
    rw [token_quoted (Nat.succ_ne_zero _) split, opening_of_read saveCandidate_free (congrArg (Except.map _) read)]
    rfl
  refine ⟨_, leads_of_next step (by simp [free]), ?_⟩
  have next := advance_newLine (.scalar false (some s) :: tokens) n outer false (starts_of_keyStart keyStart) rest
  exact ⟨_, m, t, rfl, keyStart, rfl, rfl, next⟩

theorem leads_scalar {plain : Bool} (stands : Stands indent w s plain) (indented : n < indent) (lesser : m ≤ n)
    (keyStart : KeyStart t) (column : n ≤ c.column) (here : c.rest = ' ' :: (w ++ (newLine m ++ t))) :
    ∃ y, Leads 1 (free c tokens n outer false) y ∧
      Faces y (newLine m ++ t) (.scalar plain (some s) :: tokens) n outer := by
  cases stands with
  | plain begins form => exact leads_plain begins form indented lesser keyStart column here
  | quoted quoted form => exact leads_quoted quoted form indented keyStart column here

theorem leads_field (fits : f.Fits indent) (indented : n < indent) (lesser : m ≤ n) (keyStart : KeyStart t)
    {indent' : Int} (faces : Faces x (f.text n ++ (newLine m ++ t)) tokens indent' outer)
    (enters : Enters n tokens indent' outer tokens' outer') :
    ∃ y, Leads 3 x y ∧ Faces y (newLine m ++ t) (f.tokens.reverse ++ tokens') n outer' := by
  rw [Field.text, List.append_assoc, List.append_assoc] at faces
  obtain ⟨c, here, column, key⟩ := leads_key fits.key (by rfl) faces enters
  obtain ⟨y, scalar, faces'⟩ := leads_scalar fits.stands indented lesser keyStart (Nat.le_of_lt column) here
  exact ⟨y, key.trans scalar, faces'⟩

theorem leads_fields (fits : ∀ g ∈ f :: fs, g.Fits indent) (indented : n < indent) (lesser : m ≤ n)
    (keyStart : KeyStart t)
    {indent' : Int} (faces : Faces x ((f :: fs).flatMap (Field.text n) ++ (newLine m ++ t)) tokens indent' outer)
    (enters : Enters n tokens indent' outer tokens' outer') :
    ∃ y, Leads (3 * (f :: fs).length) x y ∧
      Faces y (newLine m ++ t) (((f :: fs).flatMap Field.tokens).reverse ++ tokens') n outer' := by
  induction fs generalizing x f tokens tokens' indent' outer outer' with
  | nil =>
      rw [List.flatMap_singleton] at faces
      rw [List.flatMap_singleton]
      exact leads_field (fits f List.mem_cons_self) indented lesser keyStart faces enters
  | cons g fs ih =>
      obtain ⟨here, later⟩ := List.forall_mem_cons.1 fits
      have keyStart' := (later g List.mem_cons_self).key.keyStart
        (':' :: ' ' :: g.written ++ (fs.flatMap (Field.text n) ++ (newLine m ++ t)))
      rw [List.flatMap_cons, List.append_assoc, flatMap_text_cons] at faces
      obtain ⟨y, first, faces'⟩ := leads_field here indented (Nat.le_refl n) keyStart' faces enters
      rw [← flatMap_text_cons] at faces'
      obtain ⟨z, rest, faces''⟩ := ih later faces' (.stays _ _)
      refine ⟨z, ?_, ?_⟩
      · have steps : 3 * (f :: g :: fs).length = 3 * (g :: fs).length + 3 := by
          simp only [List.length_cons]
          omega
        rw [steps]
        exact first.trans rest
      · rw [List.flatMap_cons, List.reverse_append, List.append_assoc]
        exact faces''

theorem run_end (faces : Faces x (newLine 0) tokens 0 [-1]) (room : Nat) :
    run none (room + 1) x = ⟨tokens.reverse ++ [.blockEnd, .streamEnd], none⟩ := by
  obtain ⟨c, k, t, split, keyStart, here, -, ready⟩ := faces
  rw [← List.append_nil (newLine 0)] at split
  obtain ⟨rfl, rfl⟩ :=
    newLine_inj (by simp) (fun ch hch => ne_space_of_isInk (isInk_of_isAlpha (keyStart ch hch))) split
  have ready : x.advance = .ok ((free c tokens 0 [-1] true).closeBlocks 0) := ready
  rw [closeBlocks_free (Int.le_refl 0)] at ready
  have last : x.next none = .ok (free c (.streamEnd :: .blockEnd :: tokens) (-1) [] false) := by
    refine next_of_token ready ?_
    rw [token_end here]
    rfl
  rw [run_succ, last]
  simp [free]

theorem faces_newLine (tokens : List Token) (indent : Int) (outer : List Int) (allowed : Bool) (keyStart : KeyStart t)
    (here : c.rest = newLine n ++ t) :
    Faces (free c tokens indent outer allowed) (newLine n ++ t) tokens indent outer :=
  ⟨_, n, t, rfl, keyStart, rfl, rfl, advance_newLine tokens indent outer allowed (starts_of_keyStart keyStart) here⟩

theorem faces_start (keyStart : KeyStart t) : Faces (Lexer.start t) (newLine 0 ++ t) [] (-1) [] :=
  ⟨_, 0, t, rfl, keyStart, rfl, rfl,
    advance_spaces [] (-1) [] true (c := .start t) (n := 0) (starts_of_keyStart keyStart) rfl⟩

end Lexer

theorem length_fields (n : Nat) (fs : List Field) : 3 * fs.length ≤ (fs.flatMap (Field.text n)).length := by
  induction fs with
  | nil => simp
  | cons f fs ih =>
      simp only [List.flatMap_cons, List.length_append, List.length_cons, Field.text, newLine]
      omega

def groupedTokens (name : Text) (fs gs : List Field) : List Token :=
  [.blockMappingStart, .key, .scalar true (some name), .value, .blockMappingStart] ++
    fs.flatMap Field.tokens ++ [.blockEnd] ++ gs.flatMap Field.tokens ++ [.blockEnd, .streamEnd]

theorem scan_grouped {name : Text} {fs gs : List Field} (key : IsKey name) (filled : fs ≠ []) (filled' : gs ≠ [])
    (fits : ∀ f ∈ fs, f.Fits 4) (fits' : ∀ g ∈ gs, g.Fits 4) :
    Token.scan ⟨name ++ ':' :: (fs.flatMap (Field.text 2) ++ (gs.flatMap (Field.text 0) ++ ['\n'])), none⟩ =
      ⟨groupedTokens name fs gs, none⟩ := by
  obtain ⟨f, fs, rfl⟩ := List.exists_cons_of_ne_nil filled
  obtain ⟨g, gs, rfl⟩ := List.exists_cons_of_ne_nil filled'
  have inner := flatMap_text_cons 2 f fs ((g :: gs).flatMap (Field.text 0) ++ ['\n'])
  have outer := flatMap_text_cons 0 g gs ['\n']
  have inside := (fits f List.mem_cons_self).key.keyStart
    (':' :: ' ' :: f.written ++ (fs.flatMap (Field.text 2) ++ ((g :: gs).flatMap (Field.text 0) ++ ['\n'])))
  have outside :=
    (fits' g List.mem_cons_self).key.keyStart (':' :: ' ' :: g.written ++ (gs.flatMap (Field.text 0) ++ ['\n']))
  have gap : isGap
      (((f :: fs).flatMap (Field.text 2) ++ ((g :: gs).flatMap (Field.text 0) ++ ['\n'])).headD '\x00') = true := by
    rw [inner]
    rfl
  obtain ⟨c, here, -, first⟩ := Lexer.leads_key key gap (Lexer.faces_start (key.keyStart _)) (.opens _ _ (by decide))
  have faces := Lexer.faces_newLine [.value, .scalar true (some name), .key, .blockMappingStart] 0 [-1] false inside
    (here.trans inner)
  rw [← inner, outer] at faces
  obtain ⟨y, second, faces'⟩ := Lexer.leads_fields fits (by decide : 2 < 4) (by decide : 0 ≤ 2) outside faces
    (.opens _ _ (by decide))
  rw [← outer] at faces'
  obtain ⟨z, third, faces''⟩ :=
      Lexer.leads_fields fits' (by decide : 0 < 4) (Nat.le_refl 0) (t := []) (by simp [KeyStart])
    faces' (.closes _ _ (by decide))
  have run := (first.trans second).trans third
  -- Each step but the last reads a character at least, so there is room for all of them.
  have enough : 3 * (g :: gs).length + (3 * (f :: fs).length + 2) ≤
      (name ++ ':' :: ((f :: fs).flatMap (Field.text 2) ++ ((g :: gs).flatMap (Field.text 0) ++ ['\n']))).length := by
    have length := length_fields 2 (f :: fs)
    have length' := length_fields 0 (g :: gs)
    simp only [List.length_append, List.length_cons, List.length_nil] at length length' ⊢
    omega
  obtain ⟨room, size⟩ := Nat.exists_eq_add_of_le' enough
  rw [Token.scan]
  dsimp only
  rw [size, Nat.add_right_comm, run, Lexer.run_end faces'']
  simp only [groupedTokens, List.reverse_append, List.reverse_reverse, List.reverse_cons, List.reverse_nil,
    List.nil_append, List.cons_append, List.append_assoc]

end PageComposer.Yaml

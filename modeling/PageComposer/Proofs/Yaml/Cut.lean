import Mathlib.Data.List.InsertIdx
import PageComposer.Proofs.Yaml.Scanning
import PageComposer.Yaml.Document

/-!
# Documents are whole

A text that some trouble cuts off is never read as a document (`Document.cut_of_read`). The tokens of such a text do
not tell its end (`Token.scan_of_cut`), and nothing is read as a document before its end has been told
(`Reader.yields_document`).
-/

namespace PageComposer.Yaml

def Leaves {ε α : Type} (r : Except ε α) (P : α → Prop) : Prop := ∀ a, r = .ok a → P a

section
variable {ε α β : Type} {P P' : α → Prop} {Q : β → Prop} {r : Except ε α} {f : α → Except ε β}

theorem leaves_ok {a : α} (holds : P a) : Leaves (.ok a : Except ε α) P := by
  rintro _ ⟨⟩
  exact holds

theorem leaves_error (e : ε) : Leaves (.error e : Except ε α) P := nofun

theorem Leaves.bind (first : Leaves r P) (others : ∀ a, P a → Leaves (f a) Q) : Leaves (r >>= f) Q := by
  cases r with
  | error e => exact leaves_error e
  | ok a => exact others a (first a rfl)

theorem leaves_any (r : Except ε α) : Leaves r fun _ => True := fun _ _ => trivial

theorem leaves_ite {p : Prop} [Decidable p] {r' : Except ε α} (yes : p → Leaves r P) (no : ¬p → Leaves r' P) :
    Leaves (if p then r else r') P := by
  split
  · exact yes ‹_›
  · exact no ‹_›

theorem Leaves.imp (holds : Leaves r P) (imp : ∀ a, P a → P' a) : Leaves r P' := fun a ok => imp a (holds a ok)

theorem leaves_map {g : α → β} (holds : ∀ a, Q (g a)) : Leaves (r.map g) Q := by
  cases r with
  | error e => exact leaves_error e
  | ok a => exact leaves_ok (holds a)

end

namespace Lexer

def Unended (x : Lexer) : Prop := Token.streamEnd ∉ x.tokens

structure At (c : Cursor) (x : Lexer) : Prop where
  cursor : x.cursor = c
  unended : x.Unended

section
variable {c : Cursor} {x : Lexer} {t : Token} {read : Cursor → Scan (Token × Cursor)}

theorem Unended.here (unended : x.Unended) : At x.cursor x := ⟨rfl, unended⟩

theorem Unended.emit (unended : x.Unended) (other : t ≠ .streamEnd) : (x.emit t).Unended := by
  simp only [Unended, Lexer.emit, List.mem_cons, not_or]
  exact ⟨other.symm, unended⟩

theorem Unended.insert (unended : x.Unended) (position : Nat) (other : t ≠ .streamEnd) :
    (x.insert position t).Unended := by
  intro told
  cases List.eq_or_mem_of_mem_insertIdx told with
  | inl same => exact other same.symm
  | inr inside => exact unended inside

theorem At.closeDeeper (stands : At c x) (column : Int) (outer : List Int) : At c (x.closeDeeper column outer) := by
  induction outer generalizing x with
  | nil => exact stands
  | cons indent rest ih =>
    simp only [Lexer.closeDeeper]
    split
    · exact ih ⟨stands.cursor, stands.unended.emit (by simp)⟩
    · exact stands

theorem At.closeBlocks (stands : At c x) (column : Int) : At c (x.closeBlocks column) := by
  unfold Lexer.closeBlocks
  split
  · exact stands
  · exact stands.closeDeeper _ _

theorem At.dropCandidate (stands : At c x) : Leaves x.dropCandidate (At c) := by
  unfold Lexer.dropCandidate
  split
  · exact leaves_error _
  · exact leaves_ok ⟨stands.cursor, stands.unended⟩

theorem At.saveCandidate (stands : At c x) : Leaves x.saveCandidate (At c) := by
  unfold Lexer.saveCandidate
  split
  · exact stands.dropCandidate.bind fun y stands => leaves_ok ⟨stands.cursor, stands.unended⟩
  · exact leaves_ok stands

theorem leaves_dropStale (x : Lexer) : Leaves x.dropStale fun y => y.tokens = x.tokens ∧ y.cursor = x.cursor :=
  (leaves_any _).bind fun _ _ => (leaves_any _).bind fun _ _ => leaves_ok ⟨rfl, rfl⟩

theorem Unended.skipGaps (unended : x.Unended) (room : Nat) : (x.skipGaps room).Unended := by
  induction room generalizing x with
  | zero => exact unended
  | succ room ih =>
    simp only [Lexer.skipGaps]
    split
    · exact ih unended
    · exact unended

theorem Unended.advance (unended : x.Unended) : Leaves x.advance Unended := by
  have skipped (c : Cursor) (room : Nat) : ({ x with cursor := c }.skipGaps room).Unended :=
    Unended.skipGaps (x := { x with cursor := c }) unended room
  refine (leaves_dropStale _).bind fun y kept => leaves_ok ?_
  have unended : y.Unended := by
    rw [Unended, kept.1]
    exact skipped _ _
  exact (unended.here.closeBlocks _).unended

theorem Unended.openBlock (unended : x.Unended) (column : Nat) : (x.openBlock column).2.Unended := by
  unfold Lexer.openBlock
  split <;> exact unended

theorem Unended.openBlockHere (unended : x.Unended) (other : t ≠ .streamEnd) : (x.openBlockHere t).Unended := by
  have opened := unended.openBlock x.cursor.column
  unfold Lexer.openBlockHere
  dsimp only
  split
  · exact opened.emit other
  · exact opened

theorem Unended.blockMark (unended : x.Unended) (other : t ≠ .streamEnd) : Leaves (x.blockMark t) Unended := by
  unfold Lexer.blockMark
  split
  · exact leaves_ok unended
  · split
    · exact leaves_ok (unended.openBlockHere other)
    · exact leaves_error _

theorem Unended.outside (unended : x.Unended) (reads : ∀ c, Leaves (read c) fun r => r.1 ≠ .streamEnd) :
    Leaves (x.outside read) Unended :=
  (unended.here.closeBlocks (-1)).dropCandidate.bind fun _ stands =>
    (reads _).bind fun _ other => leaves_ok (stands.unended.emit other)

theorem Unended.outside_end (unended : x.Unended) (ended : x.cursor.atEnd = true) :
    Leaves (x.outside fun c => .ok (.streamEnd, c)) fun y => y.cursor.atEnd = true :=
  (unended.here.closeBlocks (-1)).dropCandidate.bind fun _ stands => leaves_ok (stands.cursor ▸ ended)

theorem Unended.opening (unended : x.Unended) (reads : ∀ c, Leaves (read c) fun r => r.1 ≠ .streamEnd) :
    Leaves (x.opening read) Unended :=
  unended.here.saveCandidate.bind fun _ stands => (reads _).bind fun _ other => leaves_ok (stands.unended.emit other)

theorem Unended.openFlow (unended : x.Unended) (other : t ≠ .streamEnd) : Leaves (x.openFlow t) Unended :=
  unended.here.saveCandidate.bind fun _ stands => leaves_ok (stands.unended.emit other)

theorem Unended.closeFlow (unended : x.Unended) (other : t ≠ .streamEnd) : Leaves (x.closeFlow t) Unended := by
  refine unended.here.dropCandidate.bind fun y stands => ?_
  split
  · exact leaves_error _
  · exact leaves_ok (stands.unended.emit other)

theorem Unended.flowEntry (unended : x.Unended) : Leaves x.flowEntry Unended :=
  unended.here.dropCandidate.bind fun _ stands => leaves_ok (stands.unended.emit (by simp))

theorem Unended.blockEntry (unended : x.Unended) : Leaves x.blockEntry Unended :=
  (unended.blockMark (by simp)).bind fun _ unended =>
    unended.here.dropCandidate.bind fun _ stands => leaves_ok (stands.unended.emit (by simp))

theorem Unended.explicitKey (unended : x.Unended) : Leaves x.explicitKey Unended :=
  (unended.blockMark (by simp)).bind fun _ unended =>
    unended.here.dropCandidate.bind fun _ stands => leaves_ok (stands.unended.emit (by simp))

theorem Unended.value (unended : x.Unended) : Leaves x.value Unended := by
  unfold Lexer.value
  split
  · rename_i k _
    have keyed : Unended (Lexer.insert k.position .key { x with candidate := none }) :=
      Unended.insert unended _ (by simp)
    have told : ∀ opened : Bool × Lexer, opened.2.Unended →
        Leaves (.ok
          (((if opened.1 then opened.2.insert k.position .blockMappingStart else opened.2).mark .value 1).allowKey
          false) : Scan Lexer) Unended := by
      intro opened unended
      refine leaves_ok (Unended.emit ?_ (by simp))
      split
      · exact unended.insert _ (by simp)
      · exact unended
    refine told (if x.inFlow then (false, _) else _) ?_
    split
    · exact keyed
    · exact keyed.openBlock _
  · exact (unended.blockMark (by simp)).bind fun _ unended => leaves_ok (unended.emit (by simp))

theorem Unended.block (unended : x.Unended) : Leaves x.block Unended :=
  unended.here.dropCandidate.bind fun _ stands => (leaves_any _).bind fun _ _ =>
    leaves_ok (stands.unended.emit (by simp))

theorem Unended.plain (unended : x.Unended) : Leaves x.plain Unended :=
  unended.here.saveCandidate.bind fun _ stands => leaves_ok (stands.unended.emit (by simp))

theorem directiveToken_other (c : Cursor) : Leaves (directiveToken c) fun r => r.1 ≠ .streamEnd := by
  have directive (r : Directive × Cursor) : Leaves (do return (Token.directive r.1, ← r.2.emptyRest)) fun r =>
      r.1 ≠ .streamEnd :=
    (leaves_any _).bind fun rest _ => leaves_ok (by simp)
  unfold directiveToken
  dsimp only
  split
  · exact leaves_error _
  · split
    · exact (leaves_any (versionDirective _)).bind fun r _ => directive r
    · split
      · exact (leaves_any (handleDirective _)).bind fun r _ => directive r
      · rw [pure_bind]
        exact directive _

theorem tagToken_other (c : Cursor) : Leaves (tagToken c) fun r => r.1 ≠ .streamEnd := by
  have ending (token : Token) (after : Cursor) (other : token ≠ .streamEnd) :
      Leaves (if isSpaceOrEnd after.peek then .ok (token, after) else after.fail : Scan (Token × Cursor))
        fun r => r.1 ≠ .streamEnd := by
    split
    · exact leaves_ok other
    · exact leaves_error _
  have named (handle : Option Text) (c : Cursor) : Leaves (do
      let r ← uri c
      let r' ← pure (Token.tag handle r.1, r.2)
      if isSpaceOrEnd r'.2.peek then .ok (r'.1, r'.2) else r'.2.fail : Scan (Token × Cursor)) fun r =>
        r.1 ≠ .streamEnd :=
    (leaves_any (uri c)).bind fun r _ => ending _ _ (by simp)
  unfold tagToken
  dsimp only
  split
  · refine (leaves_any (uri _)).bind fun r _ => ?_
    split
    · exact ending _ _ (by simp)
    · exact leaves_error _
  · split
    · exact ending _ _ (by simp)
    · split
      · exact (leaves_any (handle c)).bind fun r _ => named _ _
      · exact named _ _

theorem Unended.token (unended : x.Unended) : Leaves x.token fun y => y.Unended ∨ y.cursor.atEnd = true := by
  unfold Lexer.token
  dsimp only
  apply leaves_ite
  · intro ended
    exact (unended.outside_end ended).imp fun _ => .inr
  intro _
  refine Leaves.imp (P := Unended) ?_ fun _ => .inl
  refine leaves_ite (fun _ => unended.outside directiveToken_other) fun _ => ?_
  refine leaves_ite (fun _ => unended.outside fun c => leaves_ok (by dsimp only; split <;> simp)) fun _ => ?_
  refine leaves_ite (fun _ => unended.openFlow (by simp)) fun _ => ?_
  refine leaves_ite (fun _ => unended.openFlow (by simp)) fun _ => ?_
  refine leaves_ite (fun _ => unended.closeFlow (by simp)) fun _ => ?_
  refine leaves_ite (fun _ => unended.closeFlow (by simp)) fun _ => ?_
  refine leaves_ite (fun _ => unended.flowEntry) fun _ => ?_
  refine leaves_ite (fun _ => unended.blockEntry) fun _ => ?_
  refine leaves_ite (fun _ => unended.explicitKey) fun _ => ?_
  refine leaves_ite (fun _ => unended.value) fun _ => ?_
  refine leaves_ite (fun _ => unended.opening fun c => leaves_map (by simp)) fun _ => ?_
  refine leaves_ite (fun _ => unended.opening fun c => leaves_map (by simp)) fun _ => ?_
  refine leaves_ite (fun _ => unended.opening tagToken_other) fun _ => ?_
  refine leaves_ite (fun _ => unended.block) fun _ => ?_
  refine leaves_ite (fun _ => unended.opening fun c => leaves_map (by simp)) fun _ => ?_
  exact leaves_ite (fun _ => unended.plain) fun _ => leaves_error _

end

theorem mem_settled {x : Lexer} {t : Token} (told : t ∈ x.settled) : t ∈ x.tokens :=
  List.mem_of_mem_drop (List.mem_reverse.1 told)

theorem look_cut (trouble : Trouble) (n : Nat) (c : Cursor) :
    Leaves (c.look (some trouble) n) fun _ => n < c.rest.length :=
  leaves_ite (fun _ => leaves_error _) fun inside => leaves_ok (Nat.lt_of_not_le inside)

theorem Unended.next {x : Lexer} (unended : x.Unended) (trouble : Trouble) :
    Leaves (x.next (some trouble)) Unended := by
  unfold Lexer.next
  cases advanced : x.advance with
  | error f => exact (leaves_any _).bind fun _ _ => leaves_error _
  | ok y =>
    have unended := unended.advance y advanced
    dsimp only
    cases read : y.token with
    | error f => exact (leaves_any _).bind fun _ _ => leaves_error _
    | ok z =>
      have told := unended.token z read
      refine (leaves_any _).bind fun _ _ => (look_cut trouble _ z.cursor).bind fun _ inside => ?_
      have unended : z.Unended := told.resolve_right fun ended => by
        rw [Cursor.atEnd, List.isEmpty_iff] at ended
        simp [ended] at inside
      cases kept : z.dropStale with
      | error f => exact leaves_error _
      | ok z' =>
        refine leaves_ok ?_
        rw [Unended, (leaves_dropStale z z' kept).1]
        exact unended

theorem run_zero (cut : Option Trouble) (x : Lexer) : run cut 0 x = ⟨x.settled, some .malformed⟩ := rfl

theorem run_cut (trouble : Trouble) (room : Nat) {x : Lexer} (unended : x.Unended) :
    (x.run (some trouble) room).ending ≠ none ∧ Token.streamEnd ∉ (x.run (some trouble) room).tokens := by
  have stopped (t : Trouble) : (⟨x.settled, some t⟩ : TokenStream).ending ≠ none ∧ Token.streamEnd ∉ x.settled :=
    ⟨nofun, fun told => unended (mem_settled told)⟩
  induction room generalizing x with
  | zero =>
    rw [run_zero]
    exact stopped _
  | succ room ih =>
    rw [run_succ]
    cases stepped : x.next (some trouble) with
    | error t => exact stopped _
    | ok y =>
      have unended := unended.next trouble y stepped
      have going : y.tokens.head? ≠ some .streamEnd := fun told => unended (List.mem_of_mem_head? told)
      simp only [if_neg going]
      exact ih unended fun t => ⟨nofun, fun told => unended (mem_settled told)⟩

end Lexer

theorem Token.scan_of_cut {s : Source} {trouble : Trouble} (cut : s.cut = some trouble) :
    (Token.scan s).ending ≠ none ∧ Token.streamEnd ∉ (Token.scan s).tokens := by
  unfold Token.scan
  rw [cut]
  exact Lexer.run_cut trouble _ (x := .start s.text) (by simp [Lexer.Unended, Lexer.start])

structure Reading.Cut (x : Reading) : Prop where
  ending : x.ending ≠ none
  untold : Token.streamEnd ∉ x.tokens

namespace Reader

/-- From the tokens of a text that is cut off only such tokens are left, and what is read satisfies a condition. -/
def Yields {α : Type} (m : Reader α) (P : α → Prop) : Prop :=
  ∀ x : Reading, x.Cut → Leaves (m x) fun r => P r.1 ∧ r.2.Cut

section
variable {α β : Type} {m : Reader α} {f : α → Reader β} {P : α → Prop} {Q : β → Prop}

theorem Yields.bind (first : Yields m P) (others : ∀ a, P a → Yields (f a) Q) : Yields (m >>= f) Q :=
  fun x cut => (first x cut).bind fun r holds => others r.1 holds.1 r.2 holds.2

theorem Yields.imp {P' : α → Prop} (holds : Yields m P) (imp : ∀ a, P a → P' a) : Yields m P' :=
  fun x cut => (holds x cut).imp fun r both => ⟨imp r.1 both.1, both.2⟩

theorem yields_pure {a : α} (holds : P a) : Yields (pure a) P := fun _ cut => leaves_ok ⟨holds, cut⟩

theorem yields_fail : Yields fail P := fun _ _ => leaves_error _

theorem yields_ite {p : Prop} [Decidable p] {m' : Reader α} (yes : p → Yields m P) (no : ¬p → Yields m' P) :
    Yields (if p then m else m') P := by
  split
  · exact yes ‹_›
  · exact no ‹_›

theorem yields_map (g : α → β) (reads : Yields m fun _ => True) (holds : ∀ a, Q (g a)) : Yields (g <$> m) Q :=
  fun x cut => (reads x cut).bind fun r both => leaves_ok ⟨holds r.1, both.2⟩

abbrev Reads (m : Reader α) : Prop := Yields m fun _ => True

theorem reads_pure (a : α) : Reads (pure a) := yields_pure trivial

theorem Reads.bind (first : Reads m) (others : ∀ a, Yields (f a) Q) : Yields (m >>= f) Q :=
  Yields.bind first fun a _ => others a

theorem Reads.unless {p : Prop} [Decidable p] {m : Reader Unit} {f : Unit → Reader β} (first : Reads m)
    (rest : ∀ u, Yields (f u) Q) : Yields (if p then m >>= f else f ()) Q :=
  yields_ite (fun _ => first.bind rest) fun _ => rest ()

theorem yields_peek : Yields peek (· ≠ .streamEnd) := by
  intro x cut
  unfold peek
  split
  · rename_i t rest _ tokens
    refine leaves_ok ⟨?_, cut⟩
    rintro rfl
    exact cut.untold (tokens ▸ List.mem_cons_self)
  · rename_i ending
    exact absurd ending cut.ending
  · exact leaves_error _

theorem reads_skip : Reads skip := fun _ cut =>
  leaves_ok ⟨trivial, cut.ending, fun told => cut.untold (List.mem_of_mem_drop told)⟩

theorem reads_modify {g : Reading → Reading} (tokens : ∀ x, (g x).tokens = x.tokens)
    (ending : ∀ x, (g x).ending = x.ending) :
    Reads (modify g) := fun x cut =>
  leaves_ok ⟨trivial, (ending x).symm ▸ cut.ending, (tokens x).symm ▸ cut.untold⟩

theorem reads_get : Reads (get : Reader Reading) := fun _ cut => leaves_ok ⟨trivial, cut⟩

theorem yields_accept (t : Token) : Yields (accept t) fun accepted => accepted = true → t ≠ .streamEnd := by
  refine yields_peek.bind fun u other => yields_ite (fun same => ?_) fun _ => yields_pure nofun
  exact reads_skip.bind fun _ => yields_pure fun _ => same ▸ other

theorem reads_expect (t : Token) : Reads (expect t) := by
  refine (yields_accept t).bind fun _ _ => yields_ite (fun _ => yields_fail) fun _ => reads_pure _

theorem reads_add (x : Node) : Reads (add x) := fun _ cut => leaves_ok ⟨trivial, cut.ending, cut.untold⟩

theorem reads_keep (anchor : Option Text) (n : Nat) : Reads (keep anchor n) := by
  cases anchor with
  | none => exact reads_pure _
  | some name => exact reads_modify (fun _ => rfl) fun _ => rfl

theorem reads_anchored (name : Text) : Reads (anchored? name) := reads_get.bind fun _ => reads_pure _

theorem reads_refuseAgain (anchor : Option Text) : Reads (refuseAgain anchor) := by
  cases anchor with
  | none => exact reads_pure _
  | some name => exact (reads_anchored name).bind fun _ => yields_ite (fun _ => yields_fail) fun _ => reads_pure _

theorem reads_referent (name : Text) : Reads (referent name) := by
  refine (reads_anchored name).bind fun found => ?_
  cases found with
  | none => exact yields_fail
  | some n => exact reads_pure _

theorem reads_leaf (anchor : Option Text) (x : Node) : Reads (leaf anchor x) :=
  (reads_add x).bind fun n => (reads_keep anchor n).bind fun _ => reads_pure _

theorem reads_collection (levels : Nat) (anchor : Option Text) (bare : Node) {fill : Nat → Reader Node}
    (reads : ∀ levels, Reads (fill levels)) : Reads (collection levels anchor bare fill) := by
  cases levels with
  | zero => exact fun _ _ => leaves_error _
  | succ levels =>
    refine (reads_leaf anchor bare).bind fun n => (reads levels).bind fun x => ?_
    exact Reads.bind (reads_modify (fun _ => rfl) fun _ => rfl) fun _ => reads_pure n

theorem reads_sequenceNode (levels : Nat) (anchor : Option Text) (kind : Kind) {items : Nat → Reader (List Nat)}
    (reads : ∀ levels, Reads (items levels)) : Reads (sequenceNode levels anchor kind items) :=
  reads_collection _ _ _ fun levels => yields_map _ (reads levels) fun _ => trivial

theorem reads_mappingNode (levels : Nat) (anchor : Option Text) (kind : Kind)
    {entries : Nat → Reader (List (Nat × Nat))}
    (reads : ∀ levels, Reads (entries levels)) : Reads (mappingNode levels anchor kind entries) :=
  reads_collection _ _ _ fun levels => yields_map _ (reads levels) fun _ => trivial

theorem reads_anchor : Reads anchor? := by
  refine yields_peek.bind fun t _ => ?_
  split
  · exact reads_skip.bind fun _ => reads_pure _
  · exact reads_pure _

theorem reads_writtenTag : Reads writtenTag? := by
  refine yields_peek.bind fun t _ => ?_
  split
  · exact reads_skip.bind fun _ => reads_pure _
  · exact reads_pure _

theorem reads_resolveTag (tag : Option Text × Text) : Reads (resolveTag tag) := by
  obtain ⟨handle, suffix⟩ := tag
  cases handle with
  | none => exact reads_pure _
  | some handle =>
    refine reads_get.bind fun x => ?_
    split
    · exact reads_pure _
    · exact yields_fail

theorem reads_properties : Reads properties := by
  refine reads_anchor.bind fun early => reads_writtenTag.bind fun written => ?_
  dsimp only
  refine yields_ite (fun _ => reads_anchor.bind fun anchor => ?_) fun _ => (reads_pure early).bind fun anchor => ?_
  all_goals
    cases written with
    | none => exact reads_pure _
    | some tag => exact (reads_resolveTag tag).bind fun _ => reads_pure _

theorem reads_bare (anchor tag : Option Text) : Reads (bare anchor tag) :=
  yields_ite (fun _ => yields_fail) fun _ => reads_leaf _ _

structure ReadsWithin (room : Nat) : Prop where
  node : ∀ levels place, Reads (Reader.node room levels place)
  nodeUnless : ∀ levels place stops, Reads (Reader.nodeUnless room levels place stops)
  valueNode : ∀ levels place stops, Reads (Reader.valueNode room levels place stops)
  blockItems : ∀ levels, Reads (Reader.blockItems room levels)
  looseItems : ∀ levels, Reads (Reader.looseItems room levels)
  blockEntries : ∀ levels, Reads (Reader.blockEntries room levels)
  flowItems : ∀ first levels, Reads (Reader.flowItems room first levels)
  flowEntries : ∀ first levels, Reads (Reader.flowEntries room first levels)

variable {room : Nat}

theorem ReadsWithin.node_succ (within : ReadsWithin room) (levels : Nat) (place : Place) :
    Reads (Reader.node (room + 1) levels place) := by
  rw [Reader.node]
  refine yields_peek.bind fun t _ => ?_
  split
  · exact reads_skip.bind fun _ => reads_referent _
  · refine reads_properties.bind fun properties => yields_peek.bind fun t _ => (reads_refuseAgain _).bind fun _ => ?_
    refine yields_ite (fun _ => reads_sequenceNode _ _ _ within.looseItems) fun _ => ?_
    split
    · exact reads_skip.bind fun _ => reads_leaf _ _
    · exact reads_skip.bind fun _ => reads_sequenceNode _ _ _ (within.flowItems true)
    · exact reads_skip.bind fun _ => reads_mappingNode _ _ _ (within.flowEntries true)
    · refine yields_ite (fun _ => reads_bare _ _) fun _ => ?_
      exact reads_skip.bind fun _ => reads_sequenceNode _ _ _ within.blockItems
    · refine yields_ite (fun _ => reads_bare _ _) fun _ => ?_
      exact reads_skip.bind fun _ => reads_mappingNode _ _ _ within.blockEntries
    · exact reads_bare _ _

theorem ReadsWithin.flowItems_succ (within : ReadsWithin room) (first : Bool) (levels : Nat) :
    Reads (Reader.flowItems (room + 1) first levels) := by
  rw [Reader.flowItems]
  refine (yields_accept _).bind fun closed _ => yields_ite (fun _ => reads_pure _) fun _ => ?_
  refine (reads_expect .flowEntry).unless fun _ => (yields_accept .key).bind fun keyed _ =>
    yields_ite (fun _ => ?_) fun _ => ?_
  · refine (reads_mappingNode _ _ _ fun levels => ?_).bind fun item => (within.flowItems _ _).bind fun _ => reads_pure _
    exact (within.nodeUnless _ _ _).bind fun key => (within.valueNode _ _ _).bind fun value => reads_pure _
  · refine (yields_accept _).bind fun closed _ => yields_ite (fun _ => reads_pure _) fun _ => ?_
    exact (within.node _ _).bind fun item => (within.flowItems _ _).bind fun _ => reads_pure _

theorem ReadsWithin.flowEntries_succ (within : ReadsWithin room) (first : Bool) (levels : Nat) :
    Reads (Reader.flowEntries (room + 1) first levels) := by
  rw [Reader.flowEntries]
  refine (yields_accept _).bind fun closed _ => yields_ite (fun _ => reads_pure _) fun _ => ?_
  refine (reads_expect .flowEntry).unless fun _ => (yields_accept .key).bind fun keyed _ =>
    yields_ite (fun _ => ?_) fun _ => ?_
  · refine (within.nodeUnless _ _ _).bind fun key => (within.valueNode _ _ _).bind fun value => ?_
    exact (within.flowEntries _ _).bind fun _ => reads_pure _
  · refine (yields_accept _).bind fun closed _ => yields_ite (fun _ => reads_pure _) fun _ => ?_
    exact (within.node _ _).bind fun key => (reads_add _).bind fun value => (within.flowEntries _ _).bind fun _ =>
      reads_pure _

theorem readsWithin (room : Nat) : ReadsWithin room := by
  induction room with
  | zero =>
    constructor <;> intros <;> simp only [Reader.node, Reader.nodeUnless, Reader.valueNode, Reader.blockItems,
      Reader.looseItems, Reader.blockEntries, Reader.flowItems, Reader.flowEntries] <;> exact yields_fail
  | succ room within =>
    refine ⟨within.node_succ, fun levels place stops => ?_, fun levels place stops => ?_, fun levels => ?_,
      fun levels => ?_, fun levels => ?_, within.flowItems_succ, within.flowEntries_succ⟩
    · rw [Reader.nodeUnless]
      exact yields_peek.bind fun _ _ => yields_ite (fun _ => reads_add _) fun _ => within.node _ _
    · rw [Reader.valueNode]
      exact (yields_accept _).bind fun _ _ => yields_ite (fun _ => within.nodeUnless _ _ _) fun _ => reads_add _
    · rw [Reader.blockItems]
      refine (yields_accept _).bind fun _ _ => yields_ite (fun _ => ?_) fun _ => ?_
      · exact (within.nodeUnless _ _ _).bind fun _ => (within.blockItems _).bind fun _ => reads_pure _
      · exact (reads_expect _).bind fun _ => reads_pure _
    · rw [Reader.looseItems]
      refine (yields_accept _).bind fun _ _ => yields_ite (fun _ => ?_) fun _ => reads_pure _
      exact (within.nodeUnless _ _ _).bind fun _ => (within.looseItems _).bind fun _ => reads_pure _
    · rw [Reader.blockEntries]
      refine (yields_accept _).bind fun _ _ => yields_ite (fun _ => ?_) fun _ => ?_
      · refine (within.nodeUnless _ _ _).bind fun _ => (within.valueNode _ _ _).bind fun _ => ?_
        exact (within.blockEntries _).bind fun _ => reads_pure _
      · exact (reads_expect _).bind fun _ => reads_pure _

theorem reads_directives (room : Nat) (versioned : Bool) (handles : List (Text × Text)) :
    Reads (directives room versioned handles) := by
  induction room generalizing versioned handles with
  | zero => exact reads_pure _
  | succ room ih =>
    rw [directives]
    refine yields_peek.bind fun t _ => ?_
    split
    · exact Reads.unless yields_fail fun _ => reads_skip.bind fun _ => ih _ _
    · exact Reads.unless yields_fail fun _ => reads_skip.bind fun _ => ih _ _
    · exact reads_skip.bind fun _ => ih _ _
    · exact reads_pure _

theorem reads_documentStart (room : Nat) : Reads (documentStart room) :=
  (reads_directives _ _ _).bind fun _ =>
    Reads.bind (reads_modify (fun _ => rfl) fun _ => rfl) fun _ => reads_expect _

theorem reads_skipDocumentEnds (room : Nat) : Reads (skipDocumentEnds room) := by
  induction room with
  | zero => exact reads_pure _
  | succ room ih => exact (yields_accept _).bind fun _ _ => yields_ite (fun _ => ih) fun _ => reads_pure _

theorem yields_root (room : Nat) : Yields (root room) fun n => n ≠ none := by
  have node : Yields (some <$> Reader.node room nestingLimit .block) fun n => n ≠ none :=
    yields_map _ ((readsWithin room).node _ _) fun n => Option.some_ne_none n
  have empty : Yields (some <$> add .empty) fun n => n ≠ none :=
    yields_map _ (reads_add _) fun n => Option.some_ne_none n
  refine yields_peek.bind fun t other => ?_
  split
  · exact absurd rfl other
  iterate 2
    · refine (reads_documentStart room).bind fun _ => yields_peek.bind fun t _ => ?_
      split
      all_goals first | exact empty | exact node
  · exact node

theorem yields_finish (room : Nat) : Yields (finish room) fun _ => False := by
  -- Reading does not get through where the end of the text is not told.
  refine (reads_skipDocumentEnds room).bind fun _ => (yields_accept .streamEnd).bind fun accepted told => ?_
  cases accepted with
  | true => exact absurd rfl (told rfl)
  | false => exact (reads_documentStart room).bind fun _ => yields_fail

theorem yields_document (room : Nat) : Yields (document room) fun _ => False := by
  refine (yields_root room).bind fun n some => ?_
  cases n with
  | none => exact absurd rfl some
  | some n => exact (yields_finish room).bind fun _ => False.elim

end

end Reader

theorem Graph.not_ofTokens {x : TokenStream} (ending : x.ending ≠ none) (untold : Token.streamEnd ∉ x.tokens) :
    Leaves (Graph.ofTokens x) fun _ => False :=
  (Reader.yields_document _ _ ⟨ending, untold⟩).bind fun _ both => both.1.elim

theorem Document.cut_of_read {levels : Nat} {s : Source} {v : Value} (read : Document.read levels s = .ok v) :
    s.cut = none := by
  cases cut : s.cut with
  | none => rfl
  | some trouble =>
    obtain ⟨ending, untold⟩ := Token.scan_of_cut cut
    have unread : Leaves (Document.read levels s) fun _ => False :=
      (Graph.not_ofTokens ending untold).bind fun _ => False.elim
    exact (unread v read).elim

end PageComposer.Yaml

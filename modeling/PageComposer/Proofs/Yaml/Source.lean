import PageComposer.Proofs.Yaml.Lines
import PageComposer.Yaml.Source

/-!
# Sources of printable texts

A text of printable characters and line feeds is one byte a character, and a file that holds these bytes is read as the
whole text (`ofBytes_written`).
-/

namespace PageComposer

namespace Utf8

theorem encodeChar_ascii {c : Char} (ascii : c.toNat < 0x80) : String.utf8EncodeChar c = [UInt8.ofNat c.toNat] :=
  if_pos (Nat.le_of_lt_succ ascii)

theorem charAt_ascii {c : Char} (ascii : c.toNat < 0x80) (rest : List UInt8) :
    charAt (UInt8.ofNat c.toNat) rest = .ok (c, 0) := by
  have value : (UInt8.ofNat c.toNat).toNat = c.toNat := UInt8.toNat_ofNat_of_lt' (Nat.lt_trans ascii (by decide))
  rw [charAt, value, if_pos ascii, Char.ofNat_toNat]

theorem decodeFrom_ascii {s : Text} (ascii : ∀ c ∈ s, c.toNat < 0x80) (position : Nat) :
    decodeFrom position 0 (encode s) = .ok s := by
  induction s generalizing position with
  | nil => rfl
  | cons c s ih =>
      obtain ⟨here, later⟩ := List.forall_mem_cons.1 ascii
      have bytes : encode (c :: s) = UInt8.ofNat c.toNat :: encode s := by
        rw [encode, List.flatMap_cons, encodeChar_ascii here]
        rfl
      rw [bytes, decodeFrom, charAt_ascii here]
      dsimp only
      rw [ih later]
      rfl

theorem unifyLineEnds_of_not_mem {s : Text} (noReturn : '\r' ∉ s) : unifyLineEnds s = s := by
  induction s with
  | nil => rfl
  | cons c s ih =>
      obtain ⟨other, later⟩ := not_or.1 fun member => noReturn (List.mem_cons.2 member)
      rw [unifyLineEnds.eq_4, ih later]
      · exact fun _ same => absurd same.symm other
      · exact fun same => other same.symm

theorem read_ascii {s : Text} (ascii : ∀ c ∈ s, c.toNat < 0x80) (noReturn : '\r' ∉ s) : read (encode s) = .ok s := by
  rw [read, decode, decodeFrom_ascii ascii, Except.map, unifyLineEnds_of_not_mem noReturn]

end Utf8

namespace Yaml
open Scalar (isPrintable)

def isWritten (c : Char) : Bool := isPrintable c || c == '\n'

theorem isAllowed_of_isWritten {c : Char} (written : isWritten c = true) : isAllowed c = true := by
  rcases Bool.or_eq_true_iff.1 written with printable | feed
  · rw [isPrintable] at printable
    simp [isAllowed, printable]
  · rw [beq_iff_eq] at feed
    subst feed
    rfl

theorem toNat_of_isWritten {c : Char} (written : isWritten c = true) : c.toNat < 0x80 := by
  rcases Bool.or_eq_true_iff.1 written with printable | feed
  · simp only [isPrintable, Bool.and_eq_true, decide_eq_true_eq, Char.le_def, UInt32.le_iff_toNat_le] at printable
    exact Nat.lt_of_le_of_lt printable.2 (by decide)
  · rw [beq_iff_eq] at feed
    subst feed
    decide

theorem ofBytes_written {s : Text} (written : ∀ c ∈ s, isWritten c = true) :
    Source.ofBytes (Utf8.encode s) = ⟨s, none⟩ := by
  have noReturn : '\r' ∉ s := fun member => by cases written '\r' member
  have allowed : s.findIdx? (!isAllowed ·) = none :=
    List.findIdx?_eq_none_iff.2 fun c hc => by rw [isAllowed_of_isWritten (written c hc)]; rfl
  rw [Source.ofBytes, Utf8.read_ascii (fun c hc => toNat_of_isWritten (written c hc)) noReturn]
  dsimp only
  rw [Source.ofText, allowed]

theorem isWritten_newLine (n : Nat) : ∀ c ∈ Scalar.newLine n, isWritten c = true :=
  List.forall_mem_cons.2 ⟨rfl, fun c hc => by rw [List.eq_of_mem_replicate hc]; rfl⟩

theorem IsKey.written {name : Text} (key : IsKey name) : ∀ c ∈ name, isWritten c = true := by
  intro c hc
  rw [isWritten, isPrintable_of_isInk (key.letters c hc).1]
  rfl

theorem Stands.written {indent : Nat} {w s : Text} {plain : Bool} (stands : Stands indent w s plain) :
    ∀ c ∈ w, isWritten c = true := by
  have inside {style : Scalar.Style} {w : Text} (form : Scalar.Form indent style w s) : ∀ c ∈ w, isWritten c = true :=
    fun c hc => by simpa [isWritten] using form.chars c hc
  cases stands with
  | plain _ form => exact inside form
  | @quoted style w _ _ form =>
      have quote : isWritten style.quote = true := by cases style <;> rfl
      exact List.forall_mem_cons.2 ⟨quote, List.forall_mem_append.2 ⟨inside form, by simpa using quote⟩⟩

theorem Field.Fits.written {indent : Nat} {f : Field} (fits : f.Fits indent) (n : Nat) :
    ∀ c ∈ f.text n, isWritten c = true := by
  refine List.forall_mem_append.2 ⟨isWritten_newLine n, List.forall_mem_append.2 ⟨fits.key.written, ?_⟩⟩
  exact List.forall_mem_cons.2 ⟨rfl, List.forall_mem_cons.2 ⟨rfl, fits.stands.written⟩⟩

end Yaml
end PageComposer

import PageComposer.Proofs.Yaml.Content
import PageComposer.Proofs.Yaml.Source
import PageComposer.Settings.Store

/-!
# Settings as they are written

Written settings are a document of fields, which is read as the value of the settings (`read_write`) and hence as the
settings themselves (`ofContent_write`).
-/

namespace PageComposer
open Yaml

theorem isKey_of_all {name : Text}
    (letters :
      (name.all (fun ch => isInk ch && ch != ':') && name.head?.any Char.isAlpha && name.length ≤ 1024) = true) :
    IsKey name := by
  simp only [Bool.and_eq_true, List.all_eq_true, bne_iff_ne, Option.any_eq_true, decide_eq_true_eq] at letters
  obtain ⟨⟨letters, starts⟩, short⟩ := letters
  exact ⟨letters, starts, short⟩

namespace Directories

def field (name content : Text) : Field :=
  ⟨name, Scalar.write 4 ("  ".toList ++ name ++ ": ".toList).length content, Scalar.isPlain content, content⟩

def fields (d : Directories) : List Field := d.entries.map fun e => field e.1 e.2

theorem lines_fields (d : Directories) :
    '\n' :: (d.entries.flatMap fun e => writeEntry e.1 e.2) = d.fields.flatMap (Field.text 2) ++ ['\n'] := by
  have line (name content : Text) : '\n' :: writeEntry name content = (field name content).text 2 ++ ['\n'] := by
    rw [writeEntry, field, Field.text]
    generalize Scalar.write 4 ("  ".toList ++ name ++ ": ".toList).length content = written
    simp [Scalar.newLine]
  rw [fields]
  induction d.entries with
  | nil => rfl
  | cons e es ih =>
      rw [List.flatMap_cons, List.map_cons, List.flatMap_cons, List.append_assoc, ← ih]
      exact (congrArg (· ++ es.flatMap fun e => writeEntry e.1 e.2) (line e.1 e.2)).trans (List.append_assoc _ _ _)

theorem field_fits {name : Text} (key : IsKey name) (content : Text) : (field name content).Fits 4 :=
  ⟨key, stands_write (by decide) _ content⟩

theorem fields_fit (d : Directories) : ∀ f ∈ d.fields, f.Fits 4 := by
  simp only [fields, entries, List.map_cons, List.map_nil, List.forall_mem_cons]
  refine ⟨?_, ?_, ?_, ?_, by simp⟩ <;> exact field_fits (isKey_of_all rfl) _

theorem fields_mean (d : Directories) :
    List.Forall₂ Field.Means d.fields (d.entries.map fun e => (.text e.1, .text e.2)) := by
  have name {key : Text} (means : Scalar.Means true key (.text key)) (content : Text) :
      Field.Means (field key content) (.text key, .text content) := ⟨means, means_write content⟩
  exact .cons (name ⟨rfl, rfl⟩ _)
    (.cons (name ⟨rfl, rfl⟩ _) (.cons (name ⟨rfl, rfl⟩ _) (.cons (name ⟨rfl, rfl⟩ _) .nil)))

end Directories

namespace Settings

def wordField (name content : Text) : Field := ⟨name, content, true, content⟩

def fields (s : Settings) : List Field :=
  [wordField "watch".toList (Scalar.writeFlag s.watch), wordField "verbose".toList (Scalar.writeFlag s.verbose),
    wordField "watch_interval".toList (Scalar.numberLayout.write s.interval)]

theorem write_eq_fields (s : Settings) :
    s.write = "directories".toList ++ ':' ::
      (s.directories.fields.flatMap (Field.text 2) ++ (s.fields.flatMap (Field.text 0) ++ ['\n'])) := by
  have group :
      s.directories.write = "directories".toList ++ ':' :: (s.directories.fields.flatMap (Field.text 2) ++ ['\n']) := by
    rw [← Directories.lines_fields]
    rfl
  have rest :
    '\n' :: ("watch: ".toList ++ Scalar.writeFlag s.watch ++ "\nverbose: ".toList ++ Scalar.writeFlag s.verbose ++
      "\nwatch_interval: ".toList ++ Scalar.numberLayout.write s.interval ++ ['\n']) =
        s.fields.flatMap (Field.text 0) ++ ['\n'] := by
    rw [fields]
    generalize Scalar.writeFlag s.watch = watch
    generalize Scalar.writeFlag s.verbose = verbose
    generalize Scalar.numberLayout.write s.interval = interval
    simp [wordField, Field.text, Scalar.newLine]
  rw [write, group, ← rest]
  simp only [List.append_assoc, List.cons_append, List.nil_append]

variable {s : Settings}

theorem pointed_interval (finite : s.interval.isFinite = true) (positive : s.interval.isPositive = true) :
    s.interval = ⟨false, s.interval.code⟩ ∧
      Numeral.IsPointed s.interval.code (Scalar.numberLayout.write s.interval) := by
  obtain ⟨_, _, _, negative, code⟩ := s
  simp only [Binary64.isFinite, decide_eq_true_eq] at finite
  simp only [Binary64.isPositive, Bool.and_eq_true, Bool.not_eq_true', decide_eq_true_eq] at positive
  obtain ⟨⟨-, rfl⟩, positive⟩ := positive
  exact ⟨rfl, Layout.pointed_write rfl rfl (Nat.ne_of_gt positive) finite⟩

theorem fields_fit (finite : s.interval.isFinite = true) (positive : s.interval.isPositive = true) :
    ∀ f ∈ s.fields, f.Fits 4 := by
  obtain ⟨-, pointed⟩ := pointed_interval finite positive
  simp only [fields, wordField, List.forall_mem_cons]
  exact ⟨⟨isKey_of_all rfl, stands_flag _⟩, ⟨isKey_of_all rfl, stands_flag _⟩,
    ⟨isKey_of_all rfl, stands_number pointed⟩, by simp⟩

theorem fields_mean (finite : s.interval.isFinite = true) (positive : s.interval.isPositive = true) :
    List.Forall₂ Field.Means s.fields
      [(.text "watch".toList, .flag s.watch), (.text "verbose".toList, .flag s.verbose),
        (.text "watch_interval".toList, .number s.interval)] := by
  obtain ⟨same, pointed⟩ := pointed_interval finite positive
  rw [same]
  exact .cons ⟨⟨rfl, rfl⟩, means_flag _⟩
    (.cons ⟨⟨rfl, rfl⟩, means_flag _⟩ (.cons ⟨⟨rfl, rfl⟩, means_number pointed⟩ .nil))

theorem mem_write (finite : s.interval.isFinite = true) (positive : s.interval.isPositive = true) :
    ∀ c ∈ s.write, isWritten c = true := by
  have lines {fs : List Field} (fits : ∀ f ∈ fs, f.Fits 4) (n : Nat) :
      ∀ c ∈ fs.flatMap (Field.text n), isWritten c = true := by
    intro c hc
    obtain ⟨f, member, hc⟩ := List.mem_flatMap.1 hc
    exact (fits f member).written n c hc
  rw [write_eq_fields]
  refine List.forall_mem_append.2 ⟨List.all_eq_true.1 rfl, List.forall_mem_cons.2 ⟨rfl, ?_⟩⟩
  refine List.forall_mem_append.2 ⟨lines (Directories.fields_fit _) 2, ?_⟩
  exact List.forall_mem_append.2 ⟨lines (fields_fit finite positive) 0, List.all_eq_true.1 rfl⟩

theorem read_write (finite : s.interval.isFinite = true) (positive : s.interval.isPositive = true) :
    Document.read levels (.ofBytes (Utf8.encode s.write)) = .ok s.toValue := by
  have scanned :
      Token.scan ⟨s.write, none⟩ = ⟨groupedTokens "directories".toList s.directories.fields s.fields, none⟩ := by
    rw [write_eq_fields]
    exact scan_grouped (isKey_of_all rfl) (List.cons_ne_nil _ _) (List.cons_ne_nil _ _) (Directories.fields_fit _)
      (fields_fit finite positive)
  have graph := ofTokens_grouped "directories".toList s.directories.fields s.fields
  rw [← scanned, ← ofBytes_written (mem_write finite positive)] at graph
  rw [Document.read_of_graph graph]
  exact value_grouped ⟨rfl, rfl⟩ (Directories.fields_mean _) (fields_mean finite positive)

theorem field_of_given {α : Type} {entries : List (Value × Value)} {name : Text} {v : Value}
    {read : Value → Except IssueKind α}
    {a : α} (given : given? entries name = some v) (reads : read v = .ok a) (location : Text) (otherwise : α) :
    field entries location name read otherwise = (a, []) := by
  rw [field, given]
  dsimp only
  rw [reads]

theorem ofValue_toValue (path : Text) (positive : s.interval.isPositive = true) : ofValue path s.toValue = .ok s := by
  have interval : readInterval (.number s.interval) = .ok s.interval := by
    simp [readInterval, readNumber, bind, Except.bind, positive, pure, Except.pure]
  have read : ofEntries (s.entries.map fun e => (.text e.1, e.2)) = .ok s := by
    have directories : readDirectories (s.entries.map fun e => (.text e.1, e.2)) = (s.directories, []) := rfl
    have watch :
        field (s.entries.map fun e => (.text e.1, e.2)) [] "watch".toList readFlag default.watch = (s.watch, []) :=
      rfl
    have verbose : field (s.entries.map fun e => (.text e.1, e.2)) [] "verbose".toList readFlag default.verbose =
        (s.verbose, []) := rfl
    rw [ofEntries, directories, watch, verbose, field_of_given (v := .number s.interval) rfl interval]
    rfl
  have named : (s.entries.map fun e => ((.text e.1, e.2) : Value × Value)).all (isText ·.1) = true := rfl
  have filled : isVoid s.toValue = false := rfl
  have mapped : s.toValue = .map (s.entries.map fun e => (.text e.1, e.2)) := rfl
  unfold ofValue
  rw [filled, if_neg Bool.false_ne_true, mapped]
  dsimp only
  rw [named, if_pos rfl, read]
  rfl

theorem ofContent_write (path : Text) (finite : s.interval.isFinite = true) (positive : s.interval.isPositive = true) :
    ofContent path (Utf8.encode s.write) = .ok s := by
  unfold ofContent
  rw [read_write finite positive]
  exact ofValue_toValue path positive

end Settings
end PageComposer

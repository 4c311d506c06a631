import PageComposer.Proofs.Settings.Saved
import PageComposer.Proofs.Yaml.Cut

/-!
# Loading any file

Which files are loaded as they should be: those that hold settings give them, all others are refused as bad settings
(`load_lawful_iff`). The exceptions are values that count as nothing, mappings with keys that are no texts, and
documents that cannot be read for another reason than their form.
-/

namespace PageComposer.Settings
open FileTree Workspace

def HasDocument (content : List UInt8) (v : Value) : Prop :=
  ∃ s, Utf8.read content = .ok s ∧ Yaml.Document.read levels (.ofText s none) = .ok v

/-- Nothing stands for the defaults, a mapping with texts as its keys for what can be read of it. -/
inductive Describes : Value → Settings → Prop
  | nothing : Describes .nothing default
  | map {entries : List (Value × Value)} {s : Settings} : (∀ e ∈ entries, isText e.1) → ofEntries entries = .ok s →
      Describes (.map entries) s

/-- Settings come of a file that holds some, a fault of the settings of any other. -/
def Lawful (content : List UInt8) : Except Failure Settings → Prop
  | .ok s => ∃ v, HasDocument content v ∧ Describes v s
  | .error f => (∃ fault, f = .fault (.settings fault) ∧ (Fault.settings fault).exitCode = 2) ∧
      ¬∃ v s, HasDocument content v ∧ Describes v s

/-- Values that are taken for nothing, and mappings that are taken for settings although a key is no text. -/
inductive Misread : Value → Prop
  | void {v : Value} : isVoid v → v ≠ .nothing → (∀ entries, v ≠ .map entries) → Misread v
  | unnamed {entries : List (Value × Value)} {e : Value × Value} : e ∈ entries → isText e.1 = false →
      Misread (.map entries)

/-- What is noticed too late or not at all, with a document or without. -/
inductive Overlooked (content : List UInt8) : Prop
  | document {v : Value} : HasDocument content v → Misread v → Overlooked content
  | trouble {t : Yaml.Trouble} : Yaml.Document.read levels (.ofBytes content) = .error t → t ≠ .malformed →
      Overlooked content

theorem cut_ofText (s : Text) (t : Yaml.Trouble) : (Yaml.Source.ofText s (some t)).cut ≠ none := by
  unfold Yaml.Source.ofText
  split <;> exact nofun

section
variable {content : List UInt8} {v v' : Value} {s : Settings} {t : Yaml.Trouble}

theorem cut_ofFaulty (f : Utf8.Fault) : (Yaml.Source.ofFaulty content f).cut ≠ none := by
  unfold Yaml.Source.ofFaulty
  split
  · exact nofun
  · exact cut_ofText _ _

theorem hasDocument_iff : HasDocument content v ↔ Yaml.Document.read levels (.ofBytes content) = .ok v := by
  unfold HasDocument Yaml.Source.ofBytes
  cases decoded : Utf8.read content with
  | ok s => simp
  | error f =>
    constructor
    · rintro ⟨s, ⟨⟩, -⟩
    · intro read
      exact absurd (Yaml.Document.cut_of_read read) (cut_ofFaulty f)

theorem HasDocument.unique (document : HasDocument content v) (other : HasDocument content v') : v' = v :=
  Except.ok.inj ((hasDocument_iff.1 other).symm.trans (hasDocument_iff.1 document))

theorem ofContent_of_document (path : Text) (document : HasDocument content v) :
    ofContent path content = ofValue path v := by
  unfold ofContent
  rw [hasDocument_iff.1 document]

theorem not_hasDocument (read : Yaml.Document.read levels (.ofBytes content) = .error t) : ¬HasDocument content v := by
  intro document
  cases read.symm.trans (hasDocument_iff.1 document)

theorem HasDocument.lawful_ok_iff (document : HasDocument content v) : Lawful content (.ok s) ↔ Describes v s := by
  constructor
  · rintro ⟨_, other, describes⟩
    exact document.unique other ▸ describes
  · exact fun describes => ⟨v, document, describes⟩

theorem HasDocument.lawful_fault_iff (document : HasDocument content v) (fault : SettingsFault) :
    Lawful content (.error (.fault (.settings fault))) ↔ ¬∃ s, Describes v s := by
  constructor
  · rintro ⟨-, unsettled⟩ ⟨s, describes⟩
    exact unsettled ⟨v, s, document, describes⟩
  · refine fun unsettled => ⟨⟨fault, rfl, rfl⟩, ?_⟩
    rintro ⟨_, s, other, describes⟩
    exact unsettled ⟨s, document.unique other ▸ describes⟩

theorem HasDocument.overlooked_iff (document : HasDocument content v) : Overlooked content ↔ Misread v := by
  constructor
  · rintro (⟨other, misread⟩ | ⟨read, -⟩)
    · exact document.unique other ▸ misread
    · exact absurd document (not_hasDocument read)
  · exact .document document

theorem not_lawful_defect (d : Defect) : ¬Lawful content (.error (.defect d)) := by
  rintro ⟨⟨_, ⟨⟩, -⟩, -⟩

theorem misread_other (something : v ≠ .nothing) (other : ∀ entries, v ≠ .map entries) : Misread v ↔ isVoid v := by
  constructor
  · rintro (⟨void, -, -⟩ | _)
    · exact void
    · exact absurd rfl (other _)
  · exact fun void => .void void something other

theorem misread_map {entries : List (Value × Value)} : Misread (.map entries) ↔ entries.all (isText ·.1) = false := by
  rw [List.all_eq_false]
  constructor
  · rintro (⟨-, -, other⟩ | ⟨inside, unnamed⟩)
    · exact absurd rfl (other _)
    · exact ⟨_, inside, by simp [unnamed]⟩
  · rintro ⟨e, inside, unnamed⟩
    exact .unnamed inside (Bool.eq_false_iff.2 unnamed)

theorem described_map_iff {entries : List (Value × Value)} (named : entries.all (isText ·.1) = true) :
    Describes (.map entries) s ↔ ofEntries entries = .ok s := by
  constructor
  · rintro (_ | ⟨-, read⟩)
    exact read
  · exact .map (List.all_eq_true.1 named)

theorem ofValue_other (path : Text) (something : v ≠ .nothing) (other : ∀ entries, v ≠ .map entries) :
    ofValue path v = if isVoid v then .ok default else .error (.fault (.settings (.notMapping path))) := by
  cases v with
  | nothing => exact absurd rfl something
  | map entries => exact absurd rfl (other entries)
  | _ => rfl

theorem ofValue_map (path : Text) (entries : List (Value × Value)) : ofValue path (.map entries) =
    if entries.all (isText ·.1) then (ofEntries entries).mapError fun issues =>
      .fault (.settings (.rejected path issues))
    else .error (.defect .unnamedSetting) := by
  cases entries with
  | nil => rfl
  | cons e rest => rfl

theorem HasDocument.lawful_iff (document : HasDocument content v) (path : Text) :
    Lawful content (ofValue path v) ↔ ¬Misread v := by
  by_cases something : v = .nothing
  · subst something
    have unread : ¬Misread .nothing := by
      rintro ⟨-, something, -⟩
      exact something rfl
    exact iff_of_true (document.lawful_ok_iff.2 .nothing) unread
  by_cases mapping : ∃ entries, v = .map entries
  · obtain ⟨entries, rfl⟩ := mapping
    rw [ofValue_map, misread_map]
    cases named : entries.all (isText ·.1) with
    | false => simpa using not_lawful_defect .unnamedSetting
    | true =>
      simp only [if_true, Bool.true_eq_false, not_false_eq_true, iff_true]
      cases read : ofEntries entries with
      | ok s => exact document.lawful_ok_iff.2 ((described_map_iff named).2 read)
      | error issues =>
        apply (document.lawful_fault_iff _).2
        rintro ⟨s, describes⟩
        cases read.symm.trans ((described_map_iff named).1 describes)
  · rw [ofValue_other path something (not_exists.1 mapping), misread_other something (not_exists.1 mapping)]
    have undescribed (s : Settings) : ¬Describes v s := by
      rintro (_ | _)
      · exact something rfl
      · exact mapping ⟨_, rfl⟩
    cases void : isVoid v with
    | true => simpa [document.lawful_ok_iff] using undescribed default
    | false => simpa [document.lawful_fault_iff] using undescribed

theorem ofValue_of_misread (path : Text) (misread : Misread v) :
    ofValue path v = .ok default ∨ ∃ d, ofValue path v = .error (.defect d) := by
  cases misread with
  | void void something other => exact .inl (by rw [ofValue_other path something other, if_pos void])
  | unnamed inside unnamed =>
    have named := misread_map.1 (.unnamed inside unnamed)
    exact .inr ⟨.unnamedSetting, by rw [ofValue_map, named, if_neg Bool.false_ne_true]⟩

end

variable {w : Workspace} {p : Path} {l : Location} {content : List UInt8} {changed : Int}

theorem lawful_failure_iff (path : Text) {t : Yaml.Trouble}
    (read : Yaml.Document.read levels (.ofBytes content) = .error t) :
    Lawful content (.error (failureOf path t)) ↔ t = .malformed := by
  have undescribed : ¬∃ v s, HasDocument content v ∧ Describes v s :=
    fun ⟨_, _, document, _⟩ => not_hasDocument read document
  constructor
  · intro lawful
    cases t with
    | malformed => rfl
    | undecodable | tooDeep | scalar => exact absurd lawful (not_lawful_defect _)
  · rintro rfl
    exact ⟨⟨.malformed path, rfl, rfl⟩, undescribed⟩

/-- A stated file is loaded lawfully unless it is overlooked; then the defaults hold, or a defect ends the work. -/
theorem load_lawful_iff (found : w.tree.stat w.here p = .ok (l, .file content changed)) (directory : Path) :
    (Lawful content (w.outcome (load (some p) directory)) ↔ ¬Overlooked content) ∧
      (Overlooked content → w.outcome (load (some p) directory) = .ok default ∨
        ∃ d, w.outcome (load (some p) directory) = .error (.defect d)) ∧
      w.after (load (some p) directory) = w := by
  obtain ⟨loaded, kept⟩ := load_of_stat found directory
  rw [loaded]
  cases read : Yaml.Document.read levels (.ofBytes content) with
  | ok v =>
    have document := hasDocument_iff.2 read
    rw [ofContent_of_document _ document, document.overlooked_iff]
    exact ⟨document.lawful_iff _, ofValue_of_misread _, kept⟩
  | error t =>
    have overlooked_iff : Overlooked content ↔ t ≠ .malformed := by
      constructor
      · rintro (⟨document, -⟩ | ⟨other, wellFormed⟩)
        · exact absurd document (not_hasDocument read)
        · exact Except.error.inj (read.symm.trans other) ▸ wellFormed
      · exact .trouble read
    have failed : ofContent p.toText content = .error (failureOf p.toText t) := by
      unfold ofContent
      rw [read]
    rw [failed, overlooked_iff, not_not]
    refine ⟨lawful_failure_iff _ read, fun wellFormed => .inr ?_, kept⟩
    cases t with
    | malformed => exact absurd rfl wellFormed
    | undecodable | tooDeep | scalar => exact ⟨_, rfl⟩

theorem load_lawful_iff_watching :
    let w := Workspace.holding [("tessel.yaml", some "watch: true")]
    let p := Path.ofText "tessel.yaml".toList
    let content := Utf8.encode "watch: true".toList
    w.tree.stat w.here p = .ok (["tessel.yaml".toList], .file content 0) ∧
      (Lawful content (w.outcome (load (some p) ⟨[], []⟩)) ↔ ¬Overlooked content) ∧
      (Overlooked content → w.outcome (load (some p) ⟨[], []⟩) = .ok default ∨
        ∃ d, w.outcome (load (some p) ⟨[], []⟩) = .error (.defect d)) ∧
      w.after (load (some p) ⟨[], []⟩) = w := by
  have found :
    (Workspace.holding [("tessel.yaml", some "watch: true")]).tree.stat [] (Path.ofText "tessel.yaml".toList) =
      .ok (["tessel.yaml".toList], .file (Utf8.encode "watch: true".toList) 0) := rfl
  exact ⟨found, load_lawful_iff (w := Workspace.holding [("tessel.yaml", some "watch: true")]) found ⟨[], []⟩⟩

/-- An empty list is no mapping, but it is loaded as the defaults. -/
theorem not_lawful_of_empty_list :
    let w := Workspace.holding [("tessel.yaml", some "[]")]
    let p := Path.ofText "tessel.yaml".toList
    let content := Utf8.encode "[]".toList
    HasDocument content (.list []) ∧ w.outcome (load (some p) ⟨[], []⟩) = .ok default ∧
      ¬Lawful content (w.outcome (load (some p) ⟨[], []⟩)) := by
  have document : HasDocument (Utf8.encode "[]".toList) (.list []) := by
    refine ⟨"[]".toList, rfl, ?_⟩
    with_unfolding_all rfl
  have found : (Workspace.holding [("tessel.yaml", some "[]")]).tree.stat [] (Path.ofText "tessel.yaml".toList) =
      .ok (["tessel.yaml".toList], .file (Utf8.encode "[]".toList) 0) := rfl
  have loaded := (load_of_stat (w := Workspace.holding [("tessel.yaml", some "[]")]) found ⟨[], []⟩).1
  rw [ofContent_of_document _ document] at loaded
  refine ⟨document, loaded, fun lawful => ?_⟩
  have described := document.lawful_ok_iff.1 (loaded ▸ lawful)
  cases described

end PageComposer.Settings

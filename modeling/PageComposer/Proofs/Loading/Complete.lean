import Mathlib.Data.List.DropRight
import PageComposer.Proofs.Loading.Naming
import PageComposer.Proofs.Loading.Search

/-!
# All components of a directory

Where a directory can be searched, its templates are loaded in the order of the ways to them, up to the first that has
a flaw (`loadEach_loads`). They are those whose name is a stem and the suffix, each under a name of its own, and
nothing else is registered (`loadComponents_exact`).
-/

namespace PageComposer

open FileTree Workspace

namespace Workspace
variable {w : Workspace}

def noting (w : Workspace) (records : List Record) : Workspace :=
  { w with journal := w.journal ++ records.filter (·.passes w.threshold) }

@[simp] theorem noting_nil : w.noting [] = w := by simp [noting]

@[simp] theorem noting_noting (records later : List Record) :
    (w.noting records).noting later = w.noting (records ++ later) := by
  simp [noting]

theorem after_record (r : Record) : w.after (Action.record r) = w.noting [r] := by
  rw [Action.record, after_modify, noting]
  split
  · rename_i passes
    simp [passes]
  · rename_i kept
    simp [kept]

theorem after_records (records : List Record) : w.after (records.forM Action.record) = w.noting records := by
  induction records generalizing w with
  | nil => exact noting_nil.symm
  | cons r records ih =>
      change w.after (Action.record r >>= fun _ => records.forM Action.record) = _
      rw [after_bind_of_ok (outcome_record r), after_record, ih, noting_noting]
      rfl

end Workspace

namespace Registry
variable {registry : Registry} {name content : Text}

theorem get_insert_self : (registry.insert name content).get (.text name) = .ok content := by
  rw [get, find?_insert, if_pos rfl]
  rfl

theorem get_insert_of_ne {other : Value} (apart : other ≠ .text name) :
    (registry.insert name content).get other = registry.get other := by
  cases other with
  | text s => rw [get, find?_insert, if_neg fun same => apart (congrArg Value.text same), get]
  | _ => rfl

theorem registrationRecords_insert {other : Text} (apart : other ≠ name) :
    (registry.insert name content).registrationRecords other = registry.registrationRecords other := by
  have known : (registry.insert name content).components.contains other = registry.components.contains other := by
    rw [OrderedMap.contains, OrderedMap.contains, insert, OrderedMap.find?_assign, if_neg apart]
  rw [registrationRecords, known, registrationRecords]

end Registry

namespace Loading
variable {w : Workspace} {base : Path} {way : List Text} {registry registry' : Registry} {ways : List (List Text)}
  {texts : List Text → Option (Except Utf8.Fault Text)}

def TemplateWay (way : List Text) : Prop := ∃ above stem, stem ≠ [] ∧ way = above ++ [stem ++ templateSuffix]

theorem templateWay_iff (base : Path) : TemplateWay way ↔ way ≠ [] ∧ isTemplate (base.below way) = true := by
  constructor
  · rintro ⟨above, stem, nonempty, rfl⟩
    have split : Path.splitName (stem ++ templateSuffix) = (stem, templateSuffix) :=
      Path.splitName_append nonempty (by decide) (by decide)
    exact ⟨by simp, isTemplate_below.2 (by rw [split])⟩
  · rintro ⟨nonempty, template⟩
    obtain ⟨above, last, rfl⟩ := (List.eq_nil_or_concat' way).resolve_left nonempty
    have template : isTemplate ((base.below above).child last) = true := by rwa [Path.below_child]
    obtain ⟨nonempty, whole⟩ := (isTemplate_child_iff _ last _).1 ⟨template, rfl⟩
    exact ⟨above, _, nonempty, congrArg (above ++ [·]) whole⟩

def wayName (way : List Text) : Text := (Text.join ['/'] way).rdrop templateSuffix.length

theorem wayName_append (above : List Text) (stem : Text) :
    wayName (above ++ [stem ++ templateSuffix]) = Text.join ['/'] (above ++ [stem]) := by
  rw [wayName, Text.join_append_last, List.rdrop_append_length]

theorem TemplateWay.join (template : TemplateWay way) : wayName way ++ templateSuffix = Text.join ['/'] way := by
  obtain ⟨above, stem, -, rfl⟩ := template
  rw [wayName_append, Text.join_append_last]

theorem TemplateWay.componentName? (template : TemplateWay way) :
    componentName? base (base.below way) = some (wayName way) := by
  obtain ⟨above, stem, nonempty, rfl⟩ := template
  have split : Path.splitName (stem ++ templateSuffix) = (stem, templateSuffix) :=
    Path.splitName_append nonempty (by decide) (by decide)
  rw [componentName?_below, wayName_append, split]

/-- The ways to the templates below a path, in their order. -/
structure LeadTo (w : Workspace) (base : Path) (ways : List (List Text)) : Prop where
  sorted : ways.Pairwise (· < ·)
  mem_iff : ∀ way, way ∈ ways ↔ TemplateWay way ∧ (w.tree.content? (base.resolve w.here ++ way)).isSome

def templateWays (w : Workspace) (base : Path) : List (List Text) :=
  ((w.tree.filesBelow (base.resolve w.here)).map Prod.fst).filter fun way => isTemplate (base.below way)

theorem leadTo_templateWays (sound : w.Sound) (base : Path) : LeadTo w base (templateWays w base) := by
  refine ⟨?_, fun way => ?_⟩
  · exact (List.pairwise_map.2 (sorted_filesBelow sound.tree)).filter _
  · simp only [templateWays, List.mem_filter, List.mem_map, Prod.exists, exists_and_right, exists_eq_right]
    rw [isSome_content?, templateWay_iff base]
    simp only [mem_filesBelow sound.tree, exists_and_left]
    tauto

theorem LeadTo.eq_templateWays (sound : w.Sound) (leads : LeadTo w base ways) : ways = templateWays w base := by
  have leads' := leadTo_templateWays sound base
  exact leads.sorted.eq_of_mem_iff leads'.sorted fun way => by rw [leads.mem_iff, leads'.mem_iff]

theorem LeadTo.named (leads : LeadTo w base ways) (sound : w.Sound) (member : way ∈ ways) :
    ∀ part ∈ way, IsName part := by
  obtain ⟨content, changed, found⟩ := isSome_content?.1 ((leads.mem_iff way).1 member).2
  exact fun part inside => sound.tree.name found (List.mem_append_right _ inside)

theorem reached_eq_templateWays :
    reached true base (w.tree.filesBelow (base.resolve w.here)) = (templateWays w base).map base.below := by
  simp [reached, templateWays, List.filter_map, Function.comp_def]

theorem outcome_readText {p : Path} {l : Location} {bytes : List UInt8} (located : w.tree.locate w.here p = .ok l)
    (there : w.tree.content? l = some bytes) : w.outcome (Files.readText p) =
      (Utf8.read bytes).mapError fun fault => .fault (.file .read p.toText (.undecodable fault)) := by
  obtain ⟨changed, found⟩ := content?_eq_some.1 there
  obtain rfl := resolve_of_locate located
  have read : w.outcome (Action.storage (Action.fileFailure .read p) (Storage.readFile p)) = .ok (bytes, changed) :=
    outcome_storage_eq_ok.2 (Files.readFile_iff.2 (stat_eq_ok.2 ⟨located, found⟩))
  rw [Files.readText, outcome_bind_of_ok read]
  dsimp only
  cases Utf8.read bytes <;> rfl

theorem after_readText (p : Path) : w.after (Files.readText p) = w := by
  have kept : w.after (Action.storage (Action.fileFailure .read p) (Storage.readFile p)) = w := by
    rw [after_storage, Files.after_readFile]
  rw [Files.readText, after_bind, kept]
  cases w.outcome (Action.storage (Action.fileFailure .read p) (Storage.readFile p)) with
  | error e => rfl
  | ok found =>
      dsimp only
      cases Utf8.read found.1 <;> rfl

def textAt (w : Workspace) (base : Path) (way : List Text) : Option (Except Utf8.Fault Text) :=
  (w.tree.content? (base.resolve w.here ++ way)).map Utf8.read

/-- What is wrong with the file that a way leads to: the text is read before the name is looked at. -/
inductive Flaw (texts : List Text → Option (Except Utf8.Fault Text)) (base : Path) (way : List Text) : Failure → Prop
  | unreadable {fault : Utf8.Fault} : texts way = some (.error fault) →
      Flaw texts base way (.fault (.file .read (base.below way).toText (.undecodable fault)))
  | misnamed {text : Text} : texts way = some (.ok text) → ComponentName.isValid (wayName way) = false →
      Flaw texts base way (.fault (.invalidName (.text (wayName way))))

theorem Flaw.ofTemplate {e : Failure} (flaw : Flaw texts base way e) : e.ofTemplate = true := by
  cases flaw <;> rfl

theorem loadComponent_run (template : TemplateWay way)
    (located : w.tree.locate w.here (base.below way) = .ok (base.resolve w.here ++ way))
    (there : (w.tree.content? (base.resolve w.here ++ way)).isSome) (registry : Registry) :
    (∃ text, textAt w base way = some (.ok text) ∧ ComponentName.isValid (wayName way) = true ∧
      w.outcome (loadComponent base registry (base.below way)) = .ok (registry.insert (wayName way) text, wayName way) ∧
      w.after (loadComponent base registry (base.below way)) = w.noting (registry.registrationRecords (wayName way))) ∨
    ∃ e, Flaw (textAt w base) base way e ∧ w.outcome (loadComponent base registry (base.below way)) = .error e ∧
      w.after (loadComponent base registry (base.below way)) = w := by
  obtain ⟨bytes, there⟩ := Option.isSome_iff_exists.1 there
  have text : textAt w base way = some (Utf8.read bytes) := by rw [textAt, there, Option.map_some]
  have read := outcome_readText located there
  have kept := after_readText (w := w) (base.below way)
  rw [loadComponent, template.componentName?]
  dsimp only
  cases decoded : Utf8.read bytes with
  | error fault =>
      rw [decoded] at text read
      refine .inr ⟨_, .unreadable text, outcome_bind_of_error read, ?_⟩
      rw [after_bind_of_error read, kept]
  | ok text' =>
      rw [decoded] at text read
      rw [outcome_bind_of_ok read, after_bind_of_ok read, kept]
      by_cases valid : ComponentName.isValid (wayName way) = true
      · rw [register_of_valid valid]
        refine .inl ⟨text', text, valid, ?_, ?_⟩
        · rw [outcome_bind_of_ok (outcome_ofExcept _), outcome_bind_of_ok (outcome_records _), outcome_pure]
        · rw [after_bind_of_ok (outcome_ofExcept _), after_ofExcept, after_bind_of_ok (outcome_records _),
            after_records, after_pure]
      · have refused : (registry.register (.text (wayName way)) text').mapError Failure.fault =
            .error (.fault (.invalidName (.text (wayName way)))) := by
          rw [Registry.register, if_neg valid]
          rfl
        rw [refused]
        exact .inr ⟨_, .misnamed text (Bool.eq_false_of_not_eq_true valid), rfl, rfl⟩

/-- The registry has got the files on the ways under their names, and nothing else. -/
structure Filled (texts : List Text → Option (Except Utf8.Fault Text)) (registry registry' : Registry)
    (ways : List (List Text)) : Prop where
  loaded : ∀ way ∈ ways, ComponentName.isValid (wayName way) = true ∧
    ∃ text, texts way = some (.ok text) ∧ registry'.get (.text (wayName way)) = .ok text
  others : ∀ name, (∀ way ∈ ways, name ≠ .text (wayName way)) → registry'.get name = registry.get name

theorem Filled.nil : Filled texts registry registry [] := ⟨by simp, fun _ _ => rfl⟩

theorem Filled.cons {text : Text} (valid : ComponentName.isValid (wayName way) = true)
    (read : texts way = some (.ok text))
    (other : wayName way ∉ ways.map wayName)
    (filled : Filled texts (registry.insert (wayName way) text) registry' ways) :
    Filled texts registry registry' (way :: ways) := by
  have apart : ∀ later ∈ ways, Value.text (wayName way) ≠ .text (wayName later) := fun later member same =>
    other (Value.text.inj same ▸ List.mem_map_of_mem member)
  refine ⟨List.forall_mem_cons.2 ⟨⟨valid, text, read, ?_⟩, filled.loaded⟩, fun name unnamed => ?_⟩
  · rw [filled.others _ apart, Registry.get_insert_self]
  · obtain ⟨notFirst, notLater⟩ := List.forall_mem_cons.1 unnamed
    rw [filled.others name notLater, Registry.get_insert_of_ne notFirst]

theorem Filled.flawless (filled : Filled texts registry registry' ways) (member : way ∈ ways) {e : Failure} :
    ¬Flaw texts base way e := by
  obtain ⟨valid, text, read, -⟩ := filled.loaded way member
  intro flaw
  cases flaw with
  | unreadable unread =>
      rw [read] at unread
      cases unread
  | misnamed _ invalid =>
      rw [valid] at invalid
      cases invalid

def notes (registry : Registry) (ways : List (List Text)) : List Record :=
  ways.flatMap fun way => registry.registrationRecords (wayName way)

theorem notes_insert {text : Text} (other : wayName way ∉ ways.map wayName) :
    registry.registrationRecords (wayName way) ++ notes (registry.insert (wayName way) text) ways =
      notes registry (way :: ways) := by
  rw [notes, notes, List.flatMap_cons]
  congr 1
  refine List.flatMap_congr fun later member => Registry.registrationRecords_insert fun same => ?_
  exact other (same ▸ List.mem_map_of_mem member)

inductive Loads (texts : List Text → Option (Except Utf8.Fault Text)) (base : Path) (registry : Registry) :
    List (List Text) → List Record → Registry → Except Failure (List Text) → Prop
  | all {registry' : Registry} {ways : List (List Text)} : Filled texts registry registry' ways →
      Loads texts base registry ways (notes registry ways) registry' (.ok (ways.map wayName))
  | upTo {registry' : Registry} {way : List Text} {e : Failure} (earlier later : List (List Text)) :
      Filled texts registry registry' earlier → Flaw texts base way e →
      Loads texts base registry (earlier ++ way :: later) (notes registry earlier) registry' (.error e)

theorem Loads.cons {text : Text} {records : List Record} {result : Except Failure (List Text)}
    (valid : ComponentName.isValid (wayName way) = true) (read : texts way = some (.ok text))
    (other : wayName way ∉ ways.map wayName)
    (loads : Loads texts base (registry.insert (wayName way) text) ways records registry' result) :
    Loads texts base registry (way :: ways) (registry.registrationRecords (wayName way) ++ records) registry'
      (result.map (wayName way :: ·)) := by
  cases loads with
  | all filled =>
      rw [notes_insert other]
      exact .all (filled.cons valid read other)
  | upTo earlier later filled flaw =>
      have other : wayName way ∉ earlier.map wayName := fun member =>
        other (List.map_append ▸ List.mem_append_left _ member)
      rw [notes_insert other]
      exact .upTo (way :: earlier) later (filled.cons valid read other) flaw

theorem loadEach_loads
    (templates : ∀ way ∈ ways, TemplateWay way ∧ (w.tree.content? (base.resolve w.here ++ way)).isSome)
    (located : ∀ way ∈ ways, w.tree.locate w.here (base.below way) = .ok (base.resolve w.here ++ way))
    (once : (ways.map wayName).Nodup) (registry : Registry) : ∃ records registry' result,
      w.outcome (loadEach (loadComponent base) registry (ways.map base.below)) = .ok (registry', result) ∧
      w.after (loadEach (loadComponent base) registry (ways.map base.below)) = w.noting records ∧
      Loads (textAt w base) base registry ways records registry' result := by
  induction ways generalizing w registry with
  | nil => exact ⟨[], registry, .ok [], rfl, noting_nil.symm, .all .nil⟩
  | cons way ways ih =>
      obtain ⟨⟨template, there⟩, templates⟩ := List.forall_mem_cons.1 templates
      obtain ⟨isLocated, located⟩ := List.forall_mem_cons.1 located
      obtain ⟨other, once⟩ := List.nodup_cons.1 once
      rw [List.map_cons, loadEach]
      rcases loadComponent_run template isLocated there registry with
        ⟨text, read, valid, done, recorded⟩ | ⟨e, flaw, refused, kept⟩
      · have attempted : w.outcome (Action.attempt (loadComponent base registry (base.below way))) =
            .ok (.ok (registry.insert (wayName way) text, wayName way)) := by rw [outcome_attempt, done]
        -- the journal does not matter to what is loaded later
        obtain ⟨records, registry', result, later, laterRecorded, loads⟩ :=
          ih (w := w.noting (registry.registrationRecords (wayName way))) templates located once
            (registry.insert (wayName way) text)
        rw [outcome_bind_of_ok attempted, after_bind_of_ok attempted, after_attempt, recorded]
        dsimp only
        rw [outcome_bind_of_ok later, after_bind_of_ok later, laterRecorded]
        exact ⟨_, registry', _, rfl, noting_noting _ _, .cons valid read other loads⟩
      · have attempted :
            w.outcome (Action.attempt (loadComponent base registry (base.below way))) = .ok (.error e) := by
          rw [outcome_attempt, refused]
        rw [outcome_bind_of_ok attempted, after_bind_of_ok attempted, after_attempt, kept]
        exact ⟨[], registry, .error e, rfl, noting_nil.symm, .upTo [] ways .nil flaw⟩

theorem once_templateWays (sound : w.Sound) (base : Path) : ((templateWays w base).map wayName).Nodup := by
  have leads := leadTo_templateWays sound base
  have whole :
      ((templateWays w base).map wayName).map (· ++ templateSuffix) = (templateWays w base).map (Text.join ['/']) := by
    rw [List.map_map]
    exact List.map_congr_left fun way member => ((leads.mem_iff way).1 member).1.join
  refine .of_map (· ++ templateSuffix) (whole ▸ Text.nodup_map_join (leads.sorted.imp ne_of_lt) fun way member => ?_)
  obtain ⟨above, stem, -, rfl⟩ := ((leads.mem_iff way).1 member).1
  exact ⟨by simp, leads.named sound member⟩

theorem templates_of_searchable {room : Nat} (sound : w.Sound) (searchable : Searchable w room base) :
    w.outcome (templates true room base) = .ok ((templateWays w base).map base.below) ∧
      ∀ way ∈ templateWays w base, w.tree.locate w.here (base.below way) = .ok (base.resolve w.here ++ way) := by
  obtain ⟨paths, done⟩ := (templates_iff sound).2 searchable
  have found := templates_ok sound done
  have paths_eq := found.paths_eq.trans reached_eq_templateWays
  refine ⟨paths_eq ▸ done, fun way member => ?_⟩
  rw [found.located _ (paths_eq ▸ List.mem_map_of_mem member), Path.resolve_below fun part inside =>
    ((leadTo_templateWays sound base).named sound member part inside).notUp]

theorem loadComponents_of_templates {found : Except Failure (List Path)}
    (searched : w.outcome (templates true Files.walkLimit base) = found)
    (registry : Registry) :
    w.outcome (loadComponents registry base) =
      w.outcome (loadFound (loadComponent base) registry (componentsSummary base) found) ∧
      w.after (loadComponents registry base) =
        w.after (loadFound (loadComponent base) registry (componentsSummary base) found) := by
  have attempted : w.outcome (Action.attempt (templates true Files.walkLimit base)) = .ok found := by
    rw [outcome_attempt, searched]
  have kept : w = w.after (templates true Files.walkLimit base) := keeps_templates true Files.walkLimit base w
  rw [loadComponents, outcome_bind_of_ok attempted, after_bind_of_ok attempted, after_attempt, ← kept]
  exact ⟨rfl, rfl⟩

theorem loadComponents_of_not_searchable (sound : w.Sound) (barred : ¬Searchable w Files.walkLimit base)
    (registry : Registry) :
    ∃ e, w.outcome (loadComponents registry base) = .ok (registry, .error e) ∧ e.ofTemplate = false := by
  cases searched : w.outcome (templates true Files.walkLimit base) with
  | ok paths => exact absurd (searchable_of_ok sound searched) barred
  | error e =>
      refine ⟨e, ?_, failsOnly_templates _ _ w base e searched⟩
      rw [(loadComponents_of_templates searched registry).1]
      rfl

theorem loadComponents_of_searchable (sound : w.Sound) (searchable : Searchable w Files.walkLimit base)
    (registry : Registry) :
    ∃ records registry' result, w.outcome (loadComponents registry base) = .ok (registry', result) ∧
      Loads (textAt w base) base registry (templateWays w base) records registry' result ∧
      (∀ names, result = .ok names → w.after (loadComponents registry base) =
        w.noting (records ++ [⟨.debug, componentsSummary base names.length⟩])) ∧
      ∀ e, result = .error e → w.after (loadComponents registry base) = w.noting records := by
  obtain ⟨searched, located⟩ := templates_of_searchable sound searchable
  obtain ⟨outcome, after⟩ := loadComponents_of_templates searched registry
  obtain ⟨records, registry', result, done, recorded, loads⟩ :=
    loadEach_loads (fun way member => ((leadTo_templateWays sound base).mem_iff way).1 member) located
      (once_templateWays sound base) registry
  refine ⟨records, registry', result, ?_, loads, ?_, ?_⟩
  · rw [outcome, loadFound, outcome_bind_of_ok done]
    cases result <;> rfl
  · rintro names rfl
    rw [after, loadFound, after_bind_of_ok done, recorded]
    dsimp only
    rw [Action.log, after_bind_of_ok (outcome_record _), after_record, noting_noting, after_pure]
  · rintro e rfl
    rw [after, loadFound, after_bind_of_ok done, recorded]
    rfl

/-- Loading the components below a path is complete, and no two of them get the same name. Each is registered with its
text, and nothing else changes in the registry. It fails for a template only where the search gets through, and then
for the first one that has a flaw. -/
theorem loadComponents_exact (sound : w.Sound) (registry : Registry) (base : Path) :
    ∃ ways registry' result, LeadTo w base ways ∧ w.outcome (loadComponents registry base) = .ok (registry', result) ∧
      (∀ names, result = .ok names → names = ways.map wayName ∧ names.Nodup ∧
        Filled (textAt w base) registry registry' ways ∧
        w.after (loadComponents registry base) =
          w.noting (notes registry ways ++ [⟨.debug, componentsSummary base ways.length⟩])) ∧
      ((∃ e, result = .error e ∧ e.ofTemplate = true) ↔
        Searchable w Files.walkLimit base ∧ ∃ way ∈ ways, ∃ e, Flaw (textAt w base) base way e) ∧
      (∀ e, result = .error e → e.ofTemplate = true → ∃ earlier way later, ways = earlier ++ way :: later ∧
        (∀ before ∈ earlier, ∀ e, ¬Flaw (textAt w base) base before e) ∧ Flaw (textAt w base) base way e ∧
        Filled (textAt w base) registry registry' earlier ∧
          w.after (loadComponents registry base) = w.noting (notes registry earlier)) ∧
      ((∃ e, result = .error e ∧ e.ofTemplate = false) ↔ ¬Searchable w Files.walkLimit base) ∧
      (¬Searchable w Files.walkLimit base → registry' = registry) := by
  refine ⟨templateWays w base, ?_⟩
  have leads := leadTo_templateWays sound base
  have once := once_templateWays sound base
  by_cases searchable : Searchable w Files.walkLimit base
  · obtain ⟨records, registry', result, done, loads, summed, ended⟩ :=
      loadComponents_of_searchable sound searchable registry
    refine ⟨registry', result, leads, done, ?_⟩
    generalize templateWays w base = ways at once loads ⊢
    cases loads with
    | all filled =>
        refine ⟨fun names same => ?_, ?_, nofun, ?_, fun barred => absurd searchable barred⟩
        · cases same
          refine ⟨rfl, once, filled, ?_⟩
          rw [summed _ rfl, List.length_map]
        · refine iff_of_false nofun ?_
          rintro ⟨-, way, member, e, flaw⟩
          exact filled.flawless member flaw
        · exact iff_of_false nofun fun barred => barred searchable
    | @upTo _ way e earlier later filled flaw =>
        refine ⟨nofun, ?_, fun e' same _ => ?_, ?_, fun barred => absurd searchable barred⟩
        · exact iff_of_true ⟨e, rfl, flaw.ofTemplate⟩ ⟨searchable, way, by simp, e, flaw⟩
        · cases same
          exact ⟨earlier, way, later, rfl, fun before member e => filled.flawless member, flaw, filled, ended _ rfl⟩
        · refine iff_of_false ?_ fun barred => barred searchable
          rintro ⟨e', same, other⟩
          cases same
          rw [flaw.ofTemplate] at other
          cases other
  · obtain ⟨e, done, other⟩ := loadComponents_of_not_searchable sound searchable registry
    have notOf {e' : Failure} (same : Except.error e = (.error e' : Except Failure (List Text))) :
        e'.ofTemplate ≠ true := by
      cases same
      simp [other]
    refine ⟨registry, .error e, leads, done, nofun, ?_, ?_, ?_, fun _ => rfl⟩
    · refine iff_of_false ?_ fun through => searchable through.1
      rintro ⟨e', same, of⟩
      exact notOf same of
    · exact fun e' same of => absurd of (notOf same)
    · exact iff_of_true ⟨e, rfl, other⟩ searchable

def cupboard : Workspace :=
  .holding [("parts", none), ("parts/.html", some "?"), ("parts/Card.html", some "<i/>"), ("parts/notes.txt", some "?"),
    ("parts/old.html", none), ("parts/ui", none), ("parts/ui/Button.html", some "<b>new</b>")]

theorem loadComponents_exact_cupboard :
    cupboard.Sound ∧ ∃ registry, cupboard.outcome (loadComponents buttons (.ofText "parts".toList)) =
        .ok (registry, .ok ["Card".toList, "ui/Button".toList]) ∧
      registry.get (.text "Card".toList) = .ok "<i/>".toList ∧
      registry.get (.text "ui/Button".toList) = .ok "<b>new</b>".toList ∧
      cupboard.after (loadComponents buttons (.ofText "parts".toList)) =
        cupboard.noting [⟨.debug, "Registered component: Card".toList⟩,
          ⟨.warning, "Component \"ui/Button\" already exists, overriding".toList⟩,
          ⟨.debug, "Registered component: ui/Button".toList⟩,
            ⟨.debug, "Registered 2 components from parts".toList⟩] := by
  have sound : cupboard.Sound := by decide +kernel
  have all :
    ((cupboard.outcome (loadComponents buttons (.ofText "parts".toList))).toOption.bind fun done => done.2.toOption) =
      some ["Card".toList, "ui/Button".toList] := by decide +kernel
  obtain ⟨ways, registry, result, leads, done, exact, -⟩ := loadComponents_exact sound buttons (.ofText "parts".toList)
  rw [done] at all
  cases result with
  | error e => cases all
  | ok names =>
      obtain rfl : names = _ := Option.some.inj all
      obtain ⟨-, -, filled, after⟩ := exact _ rfl
      have those : ways = [["Card.html".toList], ["ui".toList, "Button.html".toList]] :=
        (leads.eq_templateWays sound).trans (by decide +kernel)
      have got (name text : Text) (way : List Text) (member : way ∈ ways) (named : wayName way = name)
          (read : textAt cupboard (.ofText "parts".toList) way = some (.ok text)) :
            registry.get (.text name) = .ok text := by
        obtain ⟨-, text', read', got⟩ := filled.loaded way member
        rw [read] at read'
        cases read'
        exact named ▸ got
      refine ⟨sound, registry, done, got _ _ ["Card.html".toList] (by simp [those]) (by decide) (by decide +kernel),
        got _ _ ["ui".toList, "Button.html".toList] (by simp [those]) (by decide) (by decide +kernel), ?_⟩
      rw [after, those]
      exact congrArg cupboard.noting (by decide +kernel)

/-- The components are named by a path that goes up and down until it is nearly as long as a path may be. The path of
the file is too long to ask what is there, and that ends the loading before the name of the file is looked at. -/
theorem not_of_template_of_winding :
    let w := Workspace.holding [("src", none), ("src/components", none),
      ("src/components/my very long button.html", some "x")]
    let base := Path.ofText ((List.replicate 580 "src/../".toList).flatten ++ "src/components".toList)
    let way := ["my very long button.html".toList]
    w.Sound ∧ TemplateWay way ∧ (w.tree.content? (base.resolve w.here ++ way)).isSome ∧
      ComponentName.isValid (wayName way) = false ∧
      ∃ registry e, w.outcome (loadComponents .empty base) = .ok (registry, .error e) ∧ e.ofTemplate = false := by
  intro w base way
  have sound : w.Sound := by decide +kernel
  have there : (w.tree.content? (base.resolve w.here ++ way)).isSome := by decide +kernel
  have tooLong : w.tree.locate w.here (base.below way) = .error (.system .nameTooLong) := by decide +kernel
  refine ⟨sound, ⟨[], "my very long button".toList, by decide, rfl⟩, there, by decide, .empty, ?_⟩
  refine loadComponents_of_not_searchable sound (fun searchable => searchable.short way (by decide) ?_ tooLong) .empty
  obtain ⟨content, changed, found⟩ := isSome_content?.1 there
  rw [found]
  rfl

end Loading
end PageComposer

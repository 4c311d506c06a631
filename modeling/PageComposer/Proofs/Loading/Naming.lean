import PageComposer.Proofs.Loading
import PageComposer.Proofs.Tag.Call

/-!
# Names of components

What may be registered, what a tag may name, what is read of a tag, and how a file below the components directory is
called describe the same names (`Registry.Reachable.names_agree`). The ways to the files lead from one description to
the other: `componentFile` is where a component of a name is loaded from.
-/

namespace PageComposer

namespace Text
variable {parts : List Text} {s : Text}

theorem join_cons {rest : List Text} (more : rest ≠ []) (sep s : Text) :
    join sep (s :: rest) = s ++ sep ++ join sep rest := by
  cases rest with
  | nil => exact absurd rfl more
  | cons t rest => rfl

theorem join_eq_intercalate (sep : Text) (parts : List Text) : join sep parts = sep.intercalate parts := by
  induction parts with
  | nil => rfl
  | cons part parts ih =>
      by_cases last : parts = []
      · rw [last, List.intercalate_singleton]
        rfl
      · rw [join_cons last, ih, List.intercalate_cons_of_ne_nil last, List.append_assoc]

theorem splitOn_join (slashless : ∀ part ∈ parts, '/' ∉ part) (nonempty : parts ≠ []) :
    (join ['/'] parts).splitOn '/' = parts := by
  rw [join_eq_intercalate]
  exact List.splitOn_intercalate '/' slashless nonempty

theorem nodup_map_join {ways : List (List Text)} (once : ways.Nodup)
    (named : ∀ names ∈ ways, names ≠ [] ∧ ∀ part ∈ names, IsName part) : (ways.map (join ['/'])).Nodup := by
  refine once.map_on fun names member names' member' same => ?_
  have split {names : List Text} (member : names ∈ ways) : (join ['/'] names).splitOn '/' = names :=
    splitOn_join (fun part inside => ((named names member).2 part inside).slashless) (named names member).1
  rw [← split member, same, split member']

theorem join_append_last (sep : Text) (parts : List Text) (s t : Text) :
    join sep (parts ++ [s ++ t]) = join sep (parts ++ [s]) ++ t := by
  induction parts with
  | nil => rfl
  | cons part parts ih =>
      rw [List.cons_append, List.cons_append, join_cons (by simp), join_cons (by simp), ih, List.append_assoc _ _ t]

def Loose (s : Text) : Prop := ['/'] <+: s ∨ ['/'] <:+ s ∨ ['/', '/'] <:+: s

theorem nil_mem_splitOn_iff : [] ∈ s.splitOn '/' ↔ s = [] ∨ Loose s := by
  -- All parts but the first stand behind a slash.
  have of_later {s : Text} (later : [] ∈ (s.splitOn '/').tail ↔ ['/'] <:+ s ∨ ['/', '/'] <:+: s) :
      [] ∈ s.splitOn '/' ↔ s = [] ∨ Loose s := by
    cases s with
    | nil => simp
    | cons c s =>
        rw [List.splitOn_cons_eq_if_modifyHead] at later ⊢
        split at later
        · rename_i slash
          obtain rfl : c = '/' := by simpa using slash
          simp [Loose]
        · rename_i other
          have other : ¬c = '/' := by simpa using other
          obtain ⟨first, rest, same⟩ := List.exists_cons_of_ne_nil (List.splitOn_ne_nil '/' s)
          rw [same, List.modifyHead_cons, List.tail_cons] at later
          simp [same, other, later, Loose, Ne.symm other]
  refine of_later ?_
  induction s with
  | nil => simp
  | cons c s ih =>
      rw [List.splitOn_cons_eq_if_modifyHead]
      split
      · rename_i slash
        obtain rfl : c = '/' := by simpa using slash
        rw [List.tail_cons, of_later ih, List.suffix_cons_iff, List.infix_cons_iff, Loose]
        simp [List.cons_prefix_cons]
        tauto
      · rename_i other
        have other : ¬c = '/' := by simpa using other
        have tail : ((s.splitOn '/').modifyHead (List.cons c)).tail = (s.splitOn '/').tail := by
          cases s.splitOn '/' <;> rfl
        rw [tail, ih, List.suffix_cons_iff, List.infix_cons_iff]
        simp [List.cons_prefix_cons, Ne.symm other]

end Text

namespace ComponentName
variable {name : Text}

theorem isSegment_iff {s : Text} : isSegment s = true ↔ s ≠ [] ∧ ∀ c ∈ s, isSegmentChar c = true := by
  simp [isSegment]

theorem slashless_of_isSegment {s : Text} (segment : isSegment s = true) : '/' ∉ s :=
  fun slash => absurd ((isSegment_iff.1 segment).2 _ slash) (by decide)

theorem isValid_iff : isValid name = true ↔ ∃ segments, segments ≠ [] ∧
    (∀ s ∈ segments, s ≠ [] ∧ ∀ c ∈ s, isSegmentChar c = true) ∧ name = Text.join ['/'] segments := by
  constructor
  · intro valid
    refine ⟨segments name, List.splitOn_ne_nil '/' name, fun s member =>
      isSegment_iff.1 (List.all_eq_true.1 valid s member), ?_⟩
    rw [Text.join_eq_intercalate, segments, List.intercalate_splitOn]
  · rintro ⟨segments, nonempty, all, rfl⟩
    have all : ∀ s ∈ segments, isSegment s = true := fun s member => isSegment_iff.2 (all s member)
    rw [isValid, ComponentName.segments,
      Text.splitOn_join (fun s member => slashless_of_isSegment (all s member)) nonempty]
    exact List.all_eq_true.2 all

theorem isValid_of_nameChars (nonempty : name ≠ []) (nameChars : ∀ c ∈ name, Tag.isNameChar c = true) :
    isValid name = true ↔ ¬Text.Loose name := by
  have segment : ∀ s ∈ segments name, isSegment s = true ↔ s ≠ [] := by
    intro s member
    refine isSegment_iff.trans (and_iff_left fun c hc => ?_)
    have inName : Tag.isNameChar c = true := by
      refine nameChars c ?_
      rw [← @List.intercalate_splitOn _ name _ _ '/', ← Text.join_eq_intercalate]
      exact Path.mem_join member hc
    have notSlash : c ≠ '/' := fun slash => Path.slashless_of_mem_splitOn member (slash ▸ hc)
    simpa [isSegmentChar, Tag.isNameChar, notSlash] using inName
  have empty := Text.nil_mem_splitOn_iff (s := name)
  rw [or_iff_right nonempty] at empty
  rw [← empty, isValid, List.all_eq_true]
  exact ⟨fun all isIn => (segment _ isIn).1 (all _ isIn) rfl,
    fun none s member => (segment s member).2 fun isEmpty => none (isEmpty ▸ member)⟩

end ComponentName

namespace Tag
variable {name : Text}

def bare (name : Text) : Text := opening ++ name ++ closing

theorem bare_eq (name : Text) : bare name = written name [] := by
  simp [bare, written]

theorem fits_bare (valid : ComponentName.isValid name = true) : Fits name [] := by
  obtain ⟨nonempty, nameChars⟩ := ComponentName.nameChars_of_isValid valid
  exact ⟨nonempty, nameChars, by simp [Braceless], by simp⟩

theorem ofTag_bare (valid : ComponentName.isValid name = true) : Reference.ofTag (bare name) = .ok ⟨name, .empty⟩ := by
  obtain ⟨named, nameChars, -, apart⟩ := fits_bare valid
  rw [bare_eq, Reference.ofTag_eq, name_written named nameChars apart, clause_written named nameChars apart]
  rfl

end Tag

namespace Loading
open FileTree Workspace
variable {w : Workspace} {base : Path} {name : Text}

def componentFile (base : Path) (name : Text) : Path := base.below ((name ++ templateSuffix).splitOn '/')

theorem componentFile_inj {other : Text} (same : componentFile base name = componentFile base other) :
    name = other := by
  have split : (name ++ templateSuffix).splitOn '/' = (other ++ templateSuffix).splitOn '/' :=
    List.append_cancel_left (Path.mk.inj same).2
  have whole := congrArg (List.intercalate ['/']) split
  rw [List.intercalate_splitOn, List.intercalate_splitOn] at whole
  exact List.append_cancel_right whole

theorem componentName?_below {names : List Text} {last : Text} :
    componentName? base (base.below (names ++ [last])) =
      some (Text.join ['/'] (names ++ [(Path.splitName last).1])) := by
  have below : base.below? (base.below (names ++ [last])) = some (names ++ [last]) := by
    refine (if_pos rfl).trans ?_
    rw [List.isPrefixOf?_eq_some_iff_append_eq]
    rfl
  obtain ⟨first, rest, same⟩ := List.exists_cons_of_ne_nil (l := names ++ [last]) (by simp)
  rw [componentName?, below, same]
  dsimp only
  rw [← same]
  simp

theorem isTemplate_below {names : List Text} {last : Text} :
    isTemplate (base.below (names ++ [last])) = true ↔ (Path.splitName last).2 = templateSuffix := by
  simp [isTemplate, Path.suffix, Path.name, Path.below]

theorem componentName?_componentFile (valid : ComponentName.isValid name = true) :
    isTemplate (componentFile base name) = true ∧ componentName? base (componentFile base name) = some name := by
  obtain ⟨segments, nonempty, all, rfl⟩ := ComponentName.isValid_iff.1 valid
  obtain ⟨names, last, rfl⟩ := (List.eq_nil_or_concat' segments).resolve_left nonempty
  have slashless : ∀ part ∈ names ++ [last ++ templateSuffix], '/' ∉ part := by
    have segment : ∀ part ∈ names ++ [last], '/' ∉ part := fun part member =>
      ComponentName.slashless_of_isSegment (ComponentName.isSegment_iff.2 (all part member))
    intro part member
    rcases List.mem_append.1 member with member | member
    · exact segment part (List.mem_append_left _ member)
    · have suffix : '/' ∉ templateSuffix := by decide
      simp [List.mem_singleton.1 member, segment last (by simp), suffix]
  have file :
      componentFile base (Text.join ['/'] (names ++ [last])) = base.below (names ++ [last ++ templateSuffix]) := by
    rw [componentFile, ← Text.join_append_last, Text.splitOn_join slashless (by simp)]
  have split : Path.splitName (last ++ templateSuffix) = (last, templateSuffix) :=
    Path.splitName_append (all last (by simp)).1 (by decide) (by decide)
  rw [file, isTemplate_below, componentName?_below, split]
  exact ⟨rfl, rfl⟩

theorem eq_componentFile {names : List Text} (nonempty : names ≠ []) (slashless : ∀ part ∈ names, '/' ∉ part)
    (template : isTemplate (base.below names) = true) (named : componentName? base (base.below names) = some name) :
    base.below names = componentFile base name := by
  obtain ⟨names, last, rfl⟩ := (List.eq_nil_or_concat' names).resolve_left nonempty
  rw [isTemplate_below] at template
  rw [componentName?_below, Option.some.injEq] at named
  have whole : (Path.splitName last).1 ++ templateSuffix = last := by
    have parts := Path.stem_append_suffix ⟨[], [last]⟩
    simpa [Path.stem, Path.suffix, Path.name, template] using parts
  rw [componentFile, ← named, ← Text.join_append_last, whole, Text.splitOn_join slashless nonempty]

theorem loadComponent_ok {registry registry' : Registry} {p : Path}
    (done : w.outcome (loadComponent base registry p) = .ok (registry', name)) :
    componentName? base p = some name ∧ ComponentName.isValid name = true ∧
      ∃ text, w.outcome (Files.readText p) = .ok text ∧ registry' = registry.insert name text := by
  unfold loadComponent at done
  split at done
  · cases done
  · rename_i own named
    obtain ⟨text, read, done⟩ := outcome_bind_eq_ok.1 done
    obtain ⟨⟨inserted, records⟩, registered, done⟩ := outcome_bind_eq_ok.1 done
    rw [outcome_ofExcept, Registry.register] at registered
    split at registered
    · rename_i valid
      cases registered
      obtain ⟨-, -, done⟩ := outcome_bind_eq_ok.1 done
      cases done
      exact ⟨named, valid, text, read, rfl⟩
    · cases registered

theorem register_of_valid (valid : ComponentName.isValid name = true) (registry : Registry) (content : Text) :
    (registry.register (.text name) content).mapError Failure.fault =
      .ok (registry.insert name content, registry.registrationRecords name) := by
  rw [Registry.register, if_pos valid]
  rfl

theorem loadComponent_componentFile (valid : ComponentName.isValid name = true) (registry : Registry) {text : Text}
    (read : w.outcome (Files.readText (componentFile base name)) = .ok text) :
    w.outcome (loadComponent base registry (componentFile base name)) = .ok (registry.insert name text, name) := by
  rw [loadComponent, (componentName?_componentFile valid).2]
  dsimp only
  rw [outcome_bind_of_ok read, register_of_valid valid, outcome_bind_of_ok (outcome_ofExcept _),
    outcome_bind_of_ok (outcome_records _), outcome_pure]

theorem loadComponents_names (sound : w.Sound) {registry registry' : Registry} {names : List Text}
    (done : w.outcome (loadComponents registry base) = .ok (registry', .ok names)) :
    (∀ name, name ∈ names ↔ ComponentName.isValid name = true ∧
      (w.tree.content? (base.resolve w.here ++ (name ++ templateSuffix).splitOn '/')).isSome) ∧
    ∀ name ∈ names, ∃ text, w.outcome (Files.readText (componentFile base name)) = .ok text ∧
      registry'.find? name = some text := by
  obtain ⟨paths, found, done⟩ := loadComponents_ok done
  have reached := (templates_ok sound found).paths_eq
  have there (name : Text) (valid : ComponentName.isValid name = true) : componentFile base name ∈ paths ↔
      (w.tree.content? (base.resolve w.here ++ (name ++ templateSuffix).splitOn '/')).isSome := by
    rw [reached, mem_reached_iff sound.tree, and_iff_right (componentName?_componentFile valid).1]
    constructor
    · rintro ⟨names, -, -, same, there⟩
      rwa [List.append_cancel_left (Path.mk.inj same).2]
    · exact fun there => ⟨_, List.splitOn_ne_nil _ _, .inl rfl, rfl, there⟩
  have isFile {q : Path} {name : Text} (member : q ∈ paths) (named : componentName? base q = some name) :
      q = componentFile base name := by
    rw [reached, mem_reached_iff sound.tree] at member
    obtain ⟨template, names, nonempty, -, rfl, there⟩ := member
    obtain ⟨content, changed, found⟩ := isSome_content?.1 there
    exact eq_componentFile nonempty
      (fun part isPart => (sound.tree.name found (List.mem_append_right _ isPart)).slashless) template named
  have each := loadEach_ok (reads_loadComponent base) (P := fun paths names registry =>
    (∀ name, name ∈ names ↔ ComponentName.isValid name = true ∧ componentFile base name ∈ paths) ∧
    ∀ name ∈ names, ∃ text, w.outcome (Files.readText (componentFile base name)) = .ok text ∧
      registry.find? name = some text) (by simp) ?_ done
  · refine ⟨fun name => (each.1 name).trans ?_, each.2⟩
    exact and_congr_right fun valid => there name valid
  · rintro earlier known q loaded loaded' own member ⟨those, texts⟩ done
    obtain ⟨named, valid, text, read, rfl⟩ := loadComponent_ok done
    obtain rfl := isFile member named
    refine ⟨fun name => ?_, fun name isIn => ?_⟩
    · rw [List.mem_append, List.mem_append, those, List.mem_singleton, List.mem_singleton, and_or_left]
      refine or_congr_right ⟨?_, fun same => componentFile_inj same.2⟩
      rintro rfl
      exact ⟨valid, rfl⟩
    · rw [Registry.find?_insert]
      split
      · rename_i same
        exact ⟨text, same ▸ read, rfl⟩
      · rename_i other
        exact texts name ((List.mem_append.1 isIn).resolve_right fun last => other (List.mem_singleton.1 last))

theorem loadComponents_keeps {P : Registry → Prop} {registry registry' : Registry} {names : Except Failure (List Text)}
    (insert : ∀ registry name text, P registry → ComponentName.isValid name = true → P (registry.insert name text))
    (start : P registry) (done : w.outcome (loadComponents registry base) = .ok (registry', names)) : P registry' := by
  obtain ⟨found, -, done⟩ := outcome_bind_eq_ok.1 done
  cases found with
  | error e =>
      cases done
      exact start
  | ok paths =>
      obtain ⟨⟨loaded, names'⟩, each, done⟩ := outcome_bind_eq_ok.1 done
      have kept : P loaded := by
        refine loadEach_keeps (fun w registry p registry' name holds done => ?_) start each
        obtain ⟨-, valid, text, -, rfl⟩ := loadComponent_ok done
        exact insert _ _ _ holds valid
      cases names' with
      | error e =>
          cases done
          exact kept
      | ok names' =>
          cases done
          exact kept

end Loading

namespace Registry
variable {registry registry' : Registry} {name : Text}

/-- The registries that registering and loading lead to. A load that fails leaves what has been loaded as far as that;
clearing leads back to the empty registry. -/
inductive Reachable : Registry → Prop
  | empty : Reachable .empty
  | register {registry registry' name content records} : Reachable registry →
      registry.register name content = .ok (registry', records) → Reachable registry'
  | load {registry registry' names} {w : Workspace} {base : Path} : Reachable registry →
      w.outcome (Loading.loadComponents registry base) = .ok (registry', names) → Reachable registry'

def Valid (registry : Registry) : Prop := ∀ name ∈ registry.names, ComponentName.isValid name = true

theorem Valid.insert (known : registry.Valid) (valid : ComponentName.isValid name = true) (content : Text) :
    (registry.insert name content).Valid := by
  intro other member
  rw [names, Registry.insert, OrderedMap.keys_assign] at member
  split at member
  · exact known other member
  · rcases List.mem_append.1 member with before | new
    · exact known other before
    · exact List.mem_singleton.1 new ▸ valid

theorem register_ok {name : Value} {content : Text} {records : List Record}
    (done : registry.register name content = .ok (registry', records)) :
    ∃ s, name = .text s ∧ ComponentName.isValid s = true ∧ registry' = registry.insert s content := by
  unfold register at done
  split at done
  · rename_i s
    split at done
    · rename_i valid
      cases done
      exact ⟨s, rfl, valid, rfl⟩
    · cases done
  · cases done

theorem Reachable.valid (reachable : registry.Reachable) : registry.Valid := by
  induction reachable with
  | empty => exact fun _ member => absurd member List.not_mem_nil
  | register _ done ih =>
      obtain ⟨s, -, valid, rfl⟩ := register_ok done
      exact ih.insert valid _
  | load _ done ih =>
      exact Loading.loadComponents_keeps (fun _ _ text known valid => Valid.insert known valid text) ih done

theorem find?_eq_none_iff : registry.find? name = none ↔ name ∉ registry.names := by
  rw [names, ← OrderedMap.contains_iff_mem_keys]
  simp [find?, OrderedMap.contains]

/-- Registered names, tags and files agree. A registered name is made of segments; a tag of it is found wherever it
stands, and is read as this name without properties; and its file is loaded under this name. The other way round, a
tag can name what is not the name of a component only by its slashes, and nothing is registered or can be registered
under that. -/
theorem Reachable.names_agree (reachable : registry.Reachable) :
    (∀ n ∈ registry.names,
      (∃ segments, segments ≠ [] ∧ (∀ s ∈ segments, s ≠ [] ∧ ∀ c ∈ s, ComponentName.isSegmentChar c = true) ∧
        n = Text.join ['/'] segments) ∧
      (∀ before behind, Tag.Braceless before → Tag.Braceless behind →
        Tag.occurrences (before ++ (Tag.bare n ++ behind)) = [Tag.bare n] ∧
        Tag.all (before ++ (Tag.bare n ++ behind)) = [Tag.bare n]) ∧
      Reference.ofTag (Tag.bare n) = .ok ⟨n, .empty⟩ ∧
      (∀ (w : Workspace) base earlier text,
        w.outcome (Files.readText (Loading.componentFile base n)) = .ok text →
        w.outcome (Loading.loadComponent base earlier (Loading.componentFile base n)) =
          .ok (earlier.insert n text, n)) ∧
      ∀ (w : Workspace) base earlier later names, w.Sound →
        w.outcome (Loading.loadComponents earlier base) = .ok (later, .ok names) →
        (n ∈ names ↔ (w.tree.content? (base.resolve w.here ++ (n ++ Loading.templateSuffix).splitOn '/')).isSome) ∧
        (n ∈ names → ∃ text, w.outcome (Files.readText (Loading.componentFile base n)) = .ok text ∧
          later.find? n = some text)) ∧
    ∀ text, ∀ tag ∈ Tag.all text, ∀ ref, Reference.ofTag tag = .ok ref →
      (ComponentName.isValid ref.name = false ↔ Text.Loose ref.name) ∧
      (ComponentName.isValid ref.name = false → ref.name ∉ registry.names ∧
        registry.get (.text ref.name) = .error (.componentNotFound (.text ref.name)) ∧
        ∀ content, registry.register (.text ref.name) content = .error (.invalidName (.text ref.name))) := by
  constructor
  · intro n member
    have valid := reachable.valid n member
    refine ⟨ComponentName.isValid_iff.1 valid, fun before behind before' behind' => ?_, Tag.ofTag_bare valid,
      fun w base earlier text =>
        Loading.loadComponent_componentFile valid earlier, fun w base earlier later names sound done => ?_⟩
    · have found := Piece.occurrences_around ⟨n, [], Tag.fits_bare valid, Tag.bare_eq n⟩ before' behind'
      refine ⟨found, ?_⟩
      rw [Tag.all, found]
      rfl
    · obtain ⟨those, texts⟩ := Loading.loadComponents_names sound done
      exact ⟨(those n).trans (and_iff_right valid), texts n⟩
  · intro text tag member ref read
    obtain ⟨name, clause, fits, rfl⟩ := Piece.isTag_of_mem_all member
    have named : ref.name = name :=
      (Reference.ofTag_ok read).1.trans (Tag.name_written fits.named fits.nameChars fits.apart)
    rw [named]
    refine ⟨?_, fun invalid => ?_⟩
    · rw [← Bool.not_eq_true, ComponentName.isValid_of_nameChars fits.named fits.nameChars, not_not]
    · have unknown : name ∉ registry.names := fun known => by
        rw [reachable.valid name known] at invalid
        cases invalid
      refine ⟨unknown, ?_, fun content => ?_⟩
      · rw [get, find?_eq_none_iff.2 unknown]
        rfl
      · rw [Registry.register, invalid]
        rfl

end Registry

def shelf : Workspace := .holding [("parts", none), ("parts/ui", none), ("parts/ui/Button.html", "<b/>")]

def buttons : Registry := ⟨⟨[("ui/Button".toList, "<b/>".toList)]⟩⟩

theorem names_agree_button : buttons.Reachable ∧ "ui/Button".toList ∈ buttons.names ∧
    shelf.outcome (Loading.loadComponents .empty (.ofText "parts".toList)) = .ok (buttons, .ok ["ui/Button".toList]) ∧
    Tag.all "Go: \x7b\x7bui/Button\x7d\x7d!".toList = [Tag.bare "ui/Button".toList] ∧
    shelf.outcome (Files.readText (Loading.componentFile (.ofText "parts".toList) "ui/Button".toList)) =
      .ok "<b/>".toList ∧
    "\x7b\x7bui//Button\x7d\x7d".toList ∈ Tag.all "\x7b\x7bui//Button\x7d\x7d".toList ∧
    buttons.get (.text "ui//Button".toList) = .error (.componentNotFound (.text "ui//Button".toList)) := by
  have loaded : shelf.outcome (Loading.loadComponents .empty (.ofText "parts".toList)) =
      .ok (buttons, .ok ["ui/Button".toList]) := by
    have result : ((shelf.outcome (Loading.loadComponents .empty (.ofText "parts".toList))).toOption.bind fun loaded =>
        loaded.2.toOption.map (loaded.1, ·)) = some (buttons, ["ui/Button".toList]) := by decide +kernel
    generalize shelf.outcome (Loading.loadComponents .empty (.ofText "parts".toList)) = done at result ⊢
    rcases done with e | ⟨registry, e | names⟩
    · cases result
    · cases result
    · cases result
      rfl
  have reachable : buttons.Reachable := .load .empty loaded
  have member : "ui/Button".toList ∈ buttons.names := by decide
  have sound : shelf.Sound := by decide +kernel
  have loose : "\x7b\x7bui//Button\x7d\x7d".toList ∈ Tag.all "\x7b\x7bui//Button\x7d\x7d".toList := by decide
  have read : Reference.ofTag "\x7b\x7bui//Button\x7d\x7d".toList = .ok ⟨"ui//Button".toList, .empty⟩ := rfl
  obtain ⟨registered, unregistered⟩ := reachable.names_agree
  obtain ⟨-, found, -, -, files⟩ := registered _ member
  obtain ⟨-, texts⟩ := files shelf (.ofText "parts".toList) .empty buttons _ sound loaded
  obtain ⟨text, isText, same⟩ := texts List.mem_cons_self
  obtain rfl : "<b/>".toList = text := Option.some.inj same
  obtain ⟨-, unknown⟩ := unregistered _ _ loose _ read
  refine ⟨reachable, member, loaded, ?_, isText, loose, (unknown (by decide)).2.1⟩
  exact (found "Go: ".toList "!".toList (Tag.braceless_of_all rfl) (Tag.braceless_of_all rfl)).2

end PageComposer

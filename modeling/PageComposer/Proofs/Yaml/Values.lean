import PageComposer.Proofs.Yaml.Nodes
import PageComposer.Yaml.Document
import Mathlib.Data.List.Forall2

/-!
# Values of fields

The value of the graph that a document of fields makes (`value_grouped`). A node is looked at with what is known of
others: of scalars their values, of collections the turns that they wait for.
-/

namespace PageComposer.Yaml

structure Scalar.Means (plain : Bool) (s : Text) (v : Value) : Prop where
  scalar : (Reader.scalarNode none plain (some s)).kind.isScalar = true
  read : (Reader.scalarNode none plain (some s)).kind.readText s = .ok v

def Field.Means (f : Field) (e : Value × Value) : Prop :=
  Scalar.Means true f.name e.1 ∧ Scalar.Means f.plain f.content e.2

namespace Nodes

def Says (nodes : Nodes) (n : Nat) (v : Value) : Prop :=
  ∃ plain s, nodes.node n = Reader.scalarNode none plain (some s) ∧ Scalar.Means plain s v

def SaysBoth (nodes : Nodes) (e : Nat × Nat) (kv : Value × Value) : Prop := nodes.Says e.1 kv.1 ∧ nodes.Says e.2 kv.2

variable {nodes : Nodes} {n : Nat} {v w : Value}

theorem Says.kind (given : nodes.Says n v) :
    (nodes.node n).kind.isScalar = true ∧ (nodes.node n).kind.isCollection = false ∧
      (nodes.node n).kind ≠ .merge ∧ (nodes.node n).kind ≠ .standIn := by
  obtain ⟨plain, s, found, means⟩ := given
  have scalar := means.scalar
  rw [← found] at scalar
  generalize (nodes.node n).kind = kind at scalar
  cases kind <;> simp_all [Kind.isScalar, Kind.isCollection]

theorem Says.unique (given : nodes.Says n v) (given' : nodes.Says n w) : v = w := by
  obtain ⟨plain, s, found, means⟩ := given
  obtain ⟨plain', s', found', means'⟩ := given'
  have same : Reader.scalarNode none plain (some s) = Reader.scalarNode none plain' (some s') := found.symm.trans found'
  have read := means.read
  rw [same] at read
  cases (Node.scalar.inj same).2
  exact Except.ok.inj (read.symm.trans means'.read)

theorem node_append (xs ys : List Node) (x : Node) : Nodes.node (xs ++ x :: ys).toArray xs.length = x := by
  simp [node]

theorem put_node {x : Node} (found : nodes.node n = x) : nodes.put n x = nodes := by
  subst found
  refine Array.ext_getElem? fun i => ?_
  rw [put, node, Array.getD_eq_getD_getElem?, Array.getElem?_setIfInBounds]
  split
  · rename_i same
    subst same
    split
    · rename_i inside
      rw [Array.getElem?_eq_getElem inside]
      rfl
    · rename_i outside
      exact (Array.getElem?_eq_none (Nat.le_of_not_lt outside)).symm
  · rfl

end Nodes

namespace Builder
variable {α β : Type} {b b' : Building} {m : Builder α} {a : α} {nodes : Nodes} {parts : Array (Option Part)}
  {turns : Array Nat} {n room : Nat} {v : Value} {es : List (Nat × Nat)} {kvs : List (Value × Value)} {kind : Kind}

theorem bind_ok (read : m b = .ok (a, b')) (f : α → Builder β) : (m >>= f) b = f a b' := by
  simp only [bind, StateT.bind, read, Except.bind]

theorem get_bind (f : Building → Builder β) : (get >>= f) b = f b b := rfl

inductive Gives (nodes : Nodes) (turns : Array Nat) (n : Nat) : Part → Prop
  | value {v : Value} (given : nodes.Says n v) : Gives nodes turns n (.value v)
  | collection (kind : (nodes.node n).kind.isCollection = true) (turn : n ∈ turns) : Gives nodes turns n (.collection n)

def Knows (nodes : Nodes) (parts : Array (Option Part)) (turns : Array Nat) : Prop :=
  ∀ n p, parts.getD n none = some p → Gives nodes turns n p

theorem Gives.mono {turns' : Array Nat} {p : Part} (gives : Gives nodes turns n p) (sub : ∀ k ∈ turns, k ∈ turns') :
    Gives nodes turns' n p := by
  cases gives with
  | value given => exact .value given
  | collection kind turn => exact .collection kind (sub n turn)

theorem Knows.set {turns' : Array Nat} {p : Part} (knows : Knows nodes parts turns) (gives : Gives nodes turns' n p)
    (sub : ∀ k ∈ turns, k ∈ turns') : Knows nodes (parts.setIfInBounds n (some p)) turns' := by
  intro k q found
  rw [Array.getD_eq_getD_getElem?, Array.getElem?_setIfInBounds] at found
  split at found
  · rename_i same
    subst same
    split at found
    · cases found
      exact gives
    · cases found
  · rw [← Array.getD_eq_getD_getElem?] at found
    exact (knows k q found).mono sub

theorem scalarValue_eq (given : nodes.Says n v) : scalarValue nodes n = .ok v := by
  obtain ⟨plain, s, found, means⟩ := given
  have held : content nodes chainLimit n = .ok (some s) := by
    rw [chainLimit, content, found]
    rfl
  rw [scalarValue, held]
  simp only [bind, Except.bind, found]
  exact means.read

theorem part_scalar (knows : Knows nodes parts turns) (given : nodes.Says n v) (members : Array Members) :
    ∃ parts', part n ⟨nodes, parts, members, turns⟩ = .ok (.value v, ⟨nodes, parts', members, turns⟩) ∧
      Knows nodes parts' turns := by
  have ⟨scalar, noCollection, _⟩ := given.kind
  cases met : parts.getD n none with
  | some p =>
      have same : p = .value v := by
        cases knows n p met with
        | value given' => rw [given'.unique given]
        | collection kind => rw [kind] at noCollection; cases noCollection
      refine ⟨parts, ?_, knows⟩
      simp only [part, get_bind, met, same]
      rfl
  | none =>
      refine ⟨parts.setIfInBounds n (some (.value v)), ?_, knows.set (.value given) fun _ => id⟩
      simp only [part, get_bind, met, noCollection, scalar, scalarValue_eq given]
      rfl

theorem part_collection (knows : Knows nodes parts turns) (kind : (nodes.node n).kind.isCollection = true)
    (unmet : n ∉ turns) (members : Array Members) :
    ∃ parts', part n ⟨nodes, parts, members, turns⟩ = .ok (.collection n, ⟨nodes, parts', members, turns.push n⟩) ∧
      Knows nodes parts' (turns.push n) := by
  have met : parts.getD n none = none := by
    cases met : parts.getD n none with
    | none => rfl
    | some p =>
        cases knows n p met with
        | value given => rw [given.kind.2.1] at kind; cases kind
        | collection _ turn => exact absurd turn unmet
  refine ⟨parts.setIfInBounds n (some (.collection n)), ?_, knows.set (.collection kind (by simp)) fun k => by
    simp +contextual⟩
  simp only [part, get_bind, met, kind]
  rfl

theorem mapM_entry_cons {b₁ b₂ b₃ : Building} {e : Nat × Nat} {p : Part} {ps : List (Part × Part)}
    (key : part e.1 b = .ok (.value v, b₁)) (value : part e.2 b₁ = .ok (p, b₂))
    (rest : es.mapM entry b₂ = .ok (ps, b₃)) :
    (e :: es).mapM entry b = .ok ((.value v, p) :: ps, b₃) := by
  have first : entry e b = .ok ((.value v, p), b₂) := by
    rw [entry, bind_ok key]
    dsimp only
    rw [bind_ok value]
    rfl
  rw [List.mapM_cons, bind_ok first, bind_ok rest]
  rfl

theorem mapM_entry (knows : Knows nodes parts turns) (given : List.Forall₂ nodes.SaysBoth es kvs)
    (members : Array Members) :
    ∃ parts', es.mapM entry ⟨nodes, parts, members, turns⟩ =
        .ok (kvs.map fun e => (.value e.1, .value e.2), ⟨nodes, parts', members, turns⟩) ∧
          Knows nodes parts' turns := by
  induction given generalizing parts with
  | nil => exact ⟨parts, rfl, knows⟩
  | @cons e kv es kvs both later ih =>
      obtain ⟨parts₁, key, knows₁⟩ := part_scalar knows both.1 members
      obtain ⟨parts₂, value, knows₂⟩ := part_scalar knows₁ both.2 members
      obtain ⟨parts₃, rest, knows₃⟩ := ih knows₂
      exact ⟨parts₃, mapM_entry_cons key value rest, knows₃⟩

theorem forM_settleKey (keys : ∀ e ∈ es, (nodes.node e.1).kind ≠ .standIn) (members : Array Members) :
    es.forM (fun e => settleKey e.1) ⟨nodes, parts, members, turns⟩ = .ok ((), ⟨nodes, parts, members, turns⟩) := by
  induction es with
  | nil => rfl
  | cons e es ih =>
      obtain ⟨ordinary, later⟩ := List.forall_mem_cons.1 keys
      have settled : settleKey e.1 ⟨nodes, parts, members, turns⟩ = .ok ((), ⟨nodes, parts, members, turns⟩) :=
        congrArg (fun b => Except.ok ((), b)) (if_neg ordinary)
      exact (bind_ok settled _).trans (ih later)

theorem entries_eq (found : b.nodes.node n = .mapping kind es) : entries n b = .ok (es, b) := by
  have own : b.nodes.entries n = es := by rw [Nodes.entries, found]
  exact congrArg (fun es => Except.ok (es, b)) own

theorem takeMerged_none (found : nodes.node n = .mapping kind es) (noMerge : ∀ e ∈ es, (nodes.node e.1).kind ≠ .merge)
    (members : Array Members) :
    takeMerged n ⟨nodes, parts, members, turns⟩ = .ok (none, ⟨nodes, parts, members, turns⟩) := by
  have none' : es.findIdx? (fun e => (nodes.node e.1).kind = .merge) = none :=
    List.findIdx?_eq_none_iff.2 fun e he => decide_eq_false (noMerge e he)
  simp only [takeMerged, get_bind, Nodes.entries, found, none']
  rfl

theorem putEntries_own (found : nodes.node n = .mapping kind es) (members : Array Members) :
    putEntries n es ⟨nodes, parts, members, turns⟩ = .ok ((), ⟨nodes, parts, members, turns⟩) := by
  have same : nodes.putEntries n es = nodes := by
    rw [Nodes.putEntries, found]
    exact Nodes.put_node found
  exact congrArg (fun nodes => Except.ok ((), Building.mk nodes parts members turns)) same

theorem flatten_scalars (found : nodes.node n = .mapping kind es) (keys : ∀ e ∈ es, ∃ v, nodes.Says e.1 v)
    (members : Array Members) :
    flatten (room + 1) n ⟨nodes, parts, members, turns⟩ = .ok ((), ⟨nodes, parts, members, turns⟩) := by
  have own : entries n ⟨nodes, parts, members, turns⟩ = .ok (es, ⟨nodes, parts, members, turns⟩) := entries_eq found
  have noMerge : ∀ e ∈ es, (nodes.node e.1).kind ≠ .merge := by
    intro e he
    obtain ⟨v, given⟩ := keys e he
    exact given.kind.2.2.1
  have ordinary : ∀ e ∈ es, (nodes.node e.1).kind ≠ .standIn := by
    intro e he
    obtain ⟨v, given⟩ := keys e he
    exact given.kind.2.2.2
  have before (room' : Nat) : merged (flatten room) n room' ⟨nodes, parts, members, turns⟩ =
      .ok ([], ⟨nodes, parts, members, turns⟩) := by
    cases room' with
    | zero => rfl
    | succ room' =>
        rw [merged, bind_ok (takeMerged_none found noMerge members)]
        rfl
  rw [flatten, bind_ok own, bind_ok (before _), bind_ok own, bind_ok (forM_settleKey ordinary members)]
  exact putEntries_own found members

theorem membersOf_entries (found : nodes.node n = .mapping .mapping es) (keys : ∀ e ∈ es, ∃ v, nodes.Says e.1 v)
    {members : Array Members} {parts' : Array (Option Part)} {turns' : Array Nat} {ps : List (Part × Part)}
    (read : es.mapM entry ⟨nodes, parts, members, turns⟩ = .ok (ps, ⟨nodes, parts', members, turns'⟩)) :
    membersOf n ⟨nodes, parts, members, turns⟩ = .ok (.entries ps, ⟨nodes, parts', members, turns'⟩) := by
  have entries' : mappingEntries n ⟨nodes, parts, members, turns⟩ = .ok (ps, ⟨nodes, parts', members, turns'⟩) := by
    have own : entries n ⟨nodes, parts, members, turns⟩ = .ok (es, ⟨nodes, parts, members, turns⟩) := entries_eq found
    rw [mappingEntries, chainLimit, bind_ok (flatten_scalars found keys members), bind_ok own]
    exact read
  have node' : node n ⟨nodes, parts, members, turns⟩ = .ok (.mapping .mapping es, ⟨nodes, parts, members, turns⟩) := by
    rw [← found]
    rfl
  rw [membersOf, bind_ok node']
  dsimp only
  rw [bind_ok entries']
  rfl

theorem fillFrom_turn (room turn : Nat) {x : Members} (next : b.turns[turn]? = some n)
    (read : membersOf n b = .ok (x, b')) :
    fillFrom (room + 1) turn b = fillFrom room (turn + 1) { b' with members := b'.members.setIfInBounds n x } := by
  simp only [fillFrom, get_bind, next]
  rw [bind_ok read]
  rfl

theorem fillFrom_end {turn : Nat} (last : b.turns[turn]? = none) : fillFrom room turn b = .ok ((), b) := by
  cases room with
  | zero => rfl
  | succ room =>
      simp only [fillFrom, get_bind, last]
      rfl

end Builder

theorem forall₂_entriesFrom {fs : List Field} {kvs : List (Value × Value)} (means : List.Forall₂ Field.Means fs kvs)
    (xs ys : List Node) :
    List.Forall₂ (Nodes.SaysBoth (xs ++ (fs.flatMap Field.nodes ++ ys)).toArray) (entriesFrom xs.length fs) kvs := by
  induction means generalizing xs with
  | nil => exact .nil
  | @cons f kv fs kvs both later ih =>
      have split : xs ++ ((f :: fs).flatMap Field.nodes ++ ys) =
          xs ++ Reader.scalarNode none true (some f.name) :: Reader.scalarNode none f.plain (some f.content) ::
            (fs.flatMap Field.nodes ++ ys) := rfl
      have key :=
        Nodes.node_append xs (Reader.scalarNode none f.plain (some f.content) :: (fs.flatMap Field.nodes ++ ys))
        (Reader.scalarNode none true (some f.name))
      have value := Nodes.node_append (xs ++ [Reader.scalarNode none true (some f.name)]) (fs.flatMap Field.nodes ++ ys)
        (Reader.scalarNode none f.plain (some f.content))
      have rest := ih (xs ++ f.nodes)
      rw [List.length_append, List.length_singleton, List.append_assoc] at value
      rw [List.length_append, List.append_assoc] at rest
      rw [split]
      exact .cons ⟨⟨true, f.name, key, both.1⟩, f.plain, f.content, value, both.2⟩ rest

theorem Nodes.exists_key {nodes : Nodes} {es : List (Nat × Nat)} {kvs : List (Value × Value)}
    (given : List.Forall₂ nodes.SaysBoth es kvs) : ∀ e ∈ es, ∃ v, nodes.Says e.1 v := by
  induction given with
  | nil => simp
  | @cons e kv es kvs both later ih => exact List.forall_mem_cons.2 ⟨⟨kv.1, both.1⟩, ih⟩

theorem Part.unfold_nested {members : Array Members} {v : Value} {inner outer : List (Value × Value)} {n k : Nat}
    (first : members.getD n (.items []) =
      .entries ((.value v, .collection k) :: outer.map fun e => (.value e.1, .value e.2)))
    (second : members.getD k (.items []) = .entries (inner.map fun e => (.value e.1, .value e.2))) :
    (Part.collection n).unfold members 2 = .map ((v, .map inner) :: outer) := by
  have scalars (levels : Nat) (kvs : List (Value × Value)) :
      (kvs.map fun e => (Part.value e.1, Part.value e.2)).map
        (fun p => (p.1.unfold members levels, p.2.unfold members levels)) = kvs := by
    simp [Part.unfold, Function.comp_def]
  have group : (Part.collection k).unfold members 1 = .map inner := by
    rw [Part.unfold, second]
    exact congrArg Value.map (scalars 0 inner)
  have whole := scalars 1 outer
  rw [Part.unfold, first]
  dsimp only
  rw [List.map_cons, group, whole]
  rfl

open Builder in
theorem value_nested {nodes : Nodes} {n k m : Nat} {v : Value} {es es' : List (Nat × Nat)}
    {inner outer : List (Value × Value)}
    (root : nodes.node n = .mapping .mapping ((m, k) :: es)) (group : nodes.node k = .mapping .mapping es')
    (apart : n ≠ k) (inside : n < nodes.size) (inside' : k < nodes.size) (key : nodes.Says m v)
    (given : List.Forall₂ nodes.SaysBoth es outer) (given' : List.Forall₂ nodes.SaysBoth es' inner) :
    Graph.value 2 ⟨nodes, n⟩ = .ok (.map ((v, .map inner) :: outer)) := by
  let members : Array Members := .replicate nodes.size (.items [])
  have nothing : Knows nodes (.replicate nodes.size none) #[] := by
    intro i p found
    rw [Array.getD_eq_getD_getElem?, Array.getElem?_replicate] at found
    split at found <;> cases found
  obtain ⟨parts₁, start, knows₁⟩ := part_collection nothing (by rw [root]; rfl) (by simp : n ∉ #[]) members
  obtain ⟨parts₂, first, knows₂⟩ := part_scalar knows₁ key members
  obtain ⟨parts₃, second, knows₃⟩ := part_collection knows₂ (by rw [group]; rfl) (by simpa using apart.symm) members
  obtain ⟨parts₄, rest, knows₄⟩ := mapM_entry knows₃ given members
  obtain ⟨parts₅, entries', -⟩ := mapM_entry knows₄ given' (members.setIfInBounds n
    (.entries ((.value v, .collection k) :: outer.map fun e => (.value e.1, .value e.2))))
  have entries := mapM_entry_cons (e := (m, k)) first second rest
  have whole := membersOf_entries root (List.forall_mem_cons.2 ⟨⟨v, key⟩, Nodes.exists_key given⟩) entries
  have part' := membersOf_entries group (Nodes.exists_key given') entries'
  obtain ⟨room, size⟩ : ∃ room, nodes.size = room + 2 := Nat.exists_eq_add_of_le' (by omega)
  have filled :=
    (fillFrom_turn (room + 1) 0 rfl whole).trans ((fillFrom_turn room 1 rfl part').trans (fillFrom_end rfl))
  rw [← size] at filled
  have built :=
    (bind_ok start fun root => fillFrom nodes.size 0 >>= fun _ => pure root).trans (bind_ok filled fun _ => pure _)
  refine (congrArg (Except.map fun r => r.1.unfold r.2.members 2) built).trans
    (congrArg Except.ok (Part.unfold_nested (k := k) ?_ ?_))
  · simp [members, apart.symm, inside]
  · simp [members, inside']

theorem value_grouped {name : Text} {fs gs : List Field} {inner outer : List (Value × Value)} {v : Value}
    (key : Scalar.Means true name v) (means : List.Forall₂ Field.Means fs inner)
    (means' : List.Forall₂ Field.Means gs outer) :
    Graph.value 2 ⟨(groupedNodes name fs gs).toArray, 0⟩ = .ok (.map ((v, .map inner) :: outer)) := by
  let front : List Node := [.mapping .mapping ((1, 2) :: entriesFrom (3 + 2 * fs.length) gs),
    Reader.scalarNode none true (some name), .mapping .mapping (entriesFrom 3 fs)]
  have split : groupedNodes name fs gs = front ++ (fs.flatMap Field.nodes ++ gs.flatMap Field.nodes) := rfl
  have nodesInner := forall₂_entriesFrom means front (gs.flatMap Field.nodes)
  have nodesOuter := forall₂_entriesFrom means' (front ++ fs.flatMap Field.nodes) []
  rw [List.length_append, length_nodes, List.append_nil, List.append_assoc] at nodesOuter
  rw [← split] at nodesInner nodesOuter
  have size :
      (groupedNodes name fs gs).toArray.size = (fs.flatMap Field.nodes ++ gs.flatMap Field.nodes).length + 3 := rfl
  exact value_nested rfl rfl (by decide) (by omega) (by omega) ⟨true, name, rfl, key⟩ nodesOuter nodesInner

theorem Document.read_of_graph {levels : Nat} {s : Source} {g : Graph}
    (graph : Graph.ofTokens (Token.scan s) = .ok (some g)) : Document.read levels s = g.value levels := by
  rw [Document.read, graph]
  rfl

end PageComposer.Yaml

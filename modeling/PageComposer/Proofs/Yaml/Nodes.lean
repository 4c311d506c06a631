import PageComposer.Proofs.Yaml.Lines
import PageComposer.Yaml.Graph.Reader

/-!
# Nodes of fields

The graph that the tokens of a document of fields make (`ofTokens_grouped`). A field adds a node for its key and one for
its value, a block one for itself in front of those of its fields.
-/

namespace PageComposer.Yaml

def Field.nodes (f : Field) : List Node :=
  [Reader.scalarNode none true (some f.name), Reader.scalarNode none f.plain (some f.content)]

def entriesFrom (n : Nat) : List Field → List (Nat × Nat)
  | [] => []
  | _ :: fs => (n, n + 1) :: entriesFrom (n + 2) fs

namespace Reader

def reached (tokens : List Token) (nodes : List Node) : Reading :=
  ⟨tokens, none, defaultHandles, [], nodes.toArray⟩

variable {α β : Type} {m : Reader α} {x y : Reading} {a : α} {t u : Token} {tokens : List Token} {nodes : List Node}
  {room levels : Nat} {place : Place} {stops : List Token} {plain : Bool} {s : Content}

theorem bind_ok (read : m x = .ok (a, y)) (f : α → Reader β) : (m >>= f) x = f a y := by
  simp only [bind, StateT.bind, read, Except.bind]

theorem map_ok (read : m x = .ok (a, y)) (f : α → β) : (f <$> m) x = .ok (f a, y) := by
  simp only [Functor.map, StateT.map, read, bind, Except.bind, pure, Except.pure]

theorem peek_reached : peek (reached (t :: tokens) nodes) = .ok (t, reached (t :: tokens) nodes) := rfl

theorem skip_reached : skip (reached (t :: tokens) nodes) = .ok ((), reached tokens nodes) := rfl

theorem accept_same : accept t (reached (t :: tokens) nodes) = .ok (true, reached tokens nodes) := by
  rw [accept, bind_ok peek_reached, if_pos rfl, bind_ok skip_reached]
  rfl

theorem accept_other (other : u ≠ t) :
    accept t (reached (u :: tokens) nodes) = .ok (false, reached (u :: tokens) nodes) := by
  rw [accept, bind_ok peek_reached, if_neg other]
  rfl

theorem expect_same : expect t (reached (t :: tokens) nodes) = .ok ((), reached tokens nodes) := by
  rw [expect, bind_ok accept_same]
  rfl

theorem leaf_reached (x : Node) :
    leaf none x (reached tokens nodes) = .ok (nodes.length, reached tokens (nodes ++ [x])) := by
  have added : add x (reached tokens nodes) = .ok (nodes.length, reached tokens (nodes ++ [x])) := by
    simp [add, reached]
  rw [leaf, bind_ok added]
  rfl

theorem properties_reached (noAnchor : ∀ name, t ≠ .anchor name) (noTag : ∀ handle suffix, t ≠ .tag handle suffix) :
    properties (reached (t :: tokens) nodes) = .ok ((none, none), reached (t :: tokens) nodes) := by
  have early : anchor? (reached (t :: tokens) nodes) = .ok (none, reached (t :: tokens) nodes) := by
    rw [anchor?, bind_ok peek_reached]
    split
    · rename_i name
      exact absurd rfl (noAnchor name)
    · rfl
  have written : writtenTag? (reached (t :: tokens) nodes) = .ok (none, reached (t :: tokens) nodes) := by
    rw [writtenTag?, bind_ok peek_reached]
    split
    · rename_i handle suffix
      exact absurd rfl (noTag handle suffix)
    · rfl
  rw [properties, bind_ok early, bind_ok written]
  rfl

theorem refuseAgain_none (x : Reading) : refuseAgain none x = .ok ((), x) := rfl

theorem node_scalar : node (room + 1) levels place (reached (.scalar plain s :: tokens) nodes) =
    .ok (nodes.length, reached tokens (nodes ++ [scalarNode none plain s])) := by
  rw [node, bind_ok peek_reached]
  dsimp only
  rw [bind_ok (properties_reached (t := .scalar plain s) (by simp) (by simp)), bind_ok peek_reached]
  dsimp only
  rw [bind_ok (refuseAgain_none _), if_neg (by simp), bind_ok skip_reached, leaf_reached]

theorem node_mapping {entries : List (Nat × Nat)} {rest : List Token} {more : List Node} (nodes : List Node)
    (block : place ≠ .flow)
    (read : blockEntries room levels (reached tokens (nodes ++ [.mapping .mapping []])) =
      .ok (entries, reached rest (nodes ++ .mapping .mapping [] :: more))) :
    node (room + 1) (levels + 1) place (reached (.blockMappingStart :: tokens) nodes) =
      .ok (nodes.length, reached rest (nodes ++ .mapping .mapping entries :: more)) := by
  have filled :
    (reached rest (nodes ++ .mapping .mapping [] :: more)).nodes.put nodes.length (.mapping .mapping entries) =
      (nodes ++ .mapping .mapping entries :: more).toArray := by
    simp [reached, Nodes.put]
  rw [node, bind_ok peek_reached]
  dsimp only
  rw [bind_ok (properties_reached (t := .blockMappingStart) (by simp) (by simp)), bind_ok peek_reached]
  dsimp only
  rw [bind_ok (refuseAgain_none _), if_neg (by simp), if_neg block, bind_ok skip_reached,
    show kindOf none .mapping = .mapping from rfl, mappingNode, collection, bind_ok (leaf_reached _),
    bind_ok (map_ok read _)]
  exact congrArg (fun filled => Except.ok (nodes.length, Reading.mk rest none defaultHandles [] filled)) filled

theorem nodeUnless_of_node {n : Nat} (other : stops.contains t = false)
    (read : node room levels place (reached (t :: tokens) nodes) = .ok (n, y)) :
    nodeUnless (room + 1) levels place stops (reached (t :: tokens) nodes) = .ok (n, y) := by
  rw [nodeUnless, bind_ok peek_reached, other]
  exact read

theorem blockEntries_entry {name : Content} {n : Nat} {entries : List (Nat × Nat)}
    (other : blockMappingStops.contains t = false)
    (value : node room levels .blockMember (reached (t :: tokens) (nodes ++ [scalarNode none true name])) = .ok (n, x))
    (rest : blockEntries (room + 2) levels x = .ok (entries, y)) :
    blockEntries (room + 3) levels (reached (.key :: .scalar true name :: .value :: t :: tokens) nodes) =
      .ok ((nodes.length, n) :: entries, y) := by
  have key : nodeUnless (room + 2) levels .blockMember blockMappingStops
      (reached (.scalar true name :: .value :: t :: tokens) nodes) =
        .ok (nodes.length, reached (.value :: t :: tokens) (nodes ++ [scalarNode none true name])) :=
    nodeUnless_of_node rfl node_scalar
  have value' : valueNode (room + 2) levels .blockMember blockMappingStops
      (reached (.value :: t :: tokens) (nodes ++ [scalarNode none true name])) = .ok (n, x) := by
    rw [valueNode, bind_ok accept_same]
    exact nodeUnless_of_node other value
  rw [blockEntries, bind_ok accept_same, if_pos rfl, bind_ok key, bind_ok value', bind_ok rest]
  rfl

theorem blockEntries_end : blockEntries (room + 1) levels (reached (.blockEnd :: tokens) nodes) =
    .ok ([], reached tokens nodes) := by
  rw [blockEntries, bind_ok (accept_other (by simp)), if_neg (by simp), bind_ok expect_same]
  rfl

theorem blockEntries_fields (room levels : Nat) (tokens : List Token) (nodes : List Node) (fs : List Field) :
    blockEntries (room + fs.length + 3) levels (reached (fs.flatMap Field.tokens ++ .blockEnd :: tokens) nodes) =
      .ok (entriesFrom nodes.length fs, reached tokens (nodes ++ fs.flatMap Field.nodes)) := by
  induction fs generalizing nodes with
  | nil => simpa [entriesFrom] using blockEntries_end
  | cons f fs ih =>
      have rest := ih (nodes ++ [scalarNode none true (some f.name)] ++ [scalarNode none f.plain (some f.content)])
      have room' : room + (f :: fs).length + 3 = room + fs.length + 1 + 3 := by
        rw [List.length_cons]
        omega
      rw [room', List.flatMap_cons, List.append_assoc]
      refine (blockEntries_entry rfl node_scalar rest).trans ?_
      simp [entriesFrom, Field.nodes]

theorem document_of_node {n : Nat}
    (read : node (room + 1) nestingLimit .block (reached (.blockMappingStart :: tokens) []) =
      .ok (n, reached [.streamEnd] nodes)) :
    document (room + 1) (reached (.blockMappingStart :: tokens) []) =
      .ok (some ⟨nodes.toArray, n⟩, reached [] nodes) := by
  have root' :
      root (room + 1) (reached (.blockMappingStart :: tokens) []) = .ok (some n, reached [.streamEnd] nodes) := by
    rw [root, bind_ok peek_reached]
    exact map_ok read some
  have skipped : skipDocumentEnds (room + 1) (reached [.streamEnd] nodes) = .ok ((), reached [.streamEnd] nodes) := by
    rw [skipDocumentEnds, bind_ok (accept_other (by simp))]
    rfl
  have finish' : finish (room + 1) (reached [.streamEnd] nodes) = .ok ((), reached [] nodes) := by
    rw [finish, bind_ok skipped, bind_ok accept_same]
    rfl
  rw [document, bind_ok root']
  dsimp only
  rw [bind_ok finish']
  rfl

end Reader

def groupedNodes (name : Text) (fs gs : List Field) : List Node :=
  .mapping .mapping ((1, 2) :: entriesFrom (3 + 2 * fs.length) gs) :: Reader.scalarNode none true (some name) ::
    .mapping .mapping (entriesFrom 3 fs) :: (fs.flatMap Field.nodes ++ gs.flatMap Field.nodes)

theorem length_tokens (fs : List Field) : (fs.flatMap Field.tokens).length = 4 * fs.length := by
  simp only [List.length_flatMap, Field.tokens, List.length_cons, List.length_nil, List.map_const',
    List.sum_replicate_nat]
  omega

theorem length_nodes (fs : List Field) : (fs.flatMap Field.nodes).length = 2 * fs.length := by
  simp only [List.length_flatMap, Field.nodes, List.length_cons, List.length_nil, List.map_const',
    List.sum_replicate_nat]
  omega

open Reader in
theorem ofTokens_grouped (name : Text) (fs gs : List Field) :
    Graph.ofTokens ⟨groupedTokens name fs gs, none⟩ = .ok (some ⟨(groupedNodes name fs gs).toArray, 0⟩) := by
  obtain ⟨room, roomInner, roomOuter, enough, inner, outer⟩ : ∃ room roomInner roomOuter,
      3 * (groupedTokens name fs gs).length + 3 = room + 4 ∧ room = roomInner + fs.length + 3 + 1 ∧
        room + 2 = roomOuter + gs.length + 3 := by
    refine ⟨3 * (groupedTokens name fs gs).length - 1, 3 * (groupedTokens name fs gs).length - fs.length - 5,
      3 * (groupedTokens name fs gs).length - gs.length - 2, ?_, ?_, ?_⟩ <;>
    · simp only [groupedTokens, List.length_append, length_tokens, List.length_cons, List.length_nil]
      omega
  have group : node room 485 .blockMember
      (reached (.blockMappingStart :: (fs.flatMap Field.tokens ++ .blockEnd :: (gs.flatMap Field.tokens ++
        .blockEnd :: [.streamEnd]))) [.mapping .mapping [], scalarNode none true (some name)]) =
      .ok (2, reached (gs.flatMap Field.tokens ++ .blockEnd :: [.streamEnd])
        ([.mapping .mapping [], scalarNode none true (some name)] ++ .mapping .mapping (entriesFrom 3 fs) ::
          fs.flatMap Field.nodes)) := by
    rw [inner]
    have fields := blockEntries_fields roomInner 484 (gs.flatMap Field.tokens ++ .blockEnd :: [.streamEnd])
      [.mapping .mapping [], scalarNode none true (some name), .mapping .mapping []] fs
    exact node_mapping _ (by simp) fields
  have entries := blockEntries_fields roomOuter 485 [.streamEnd]
    ([.mapping .mapping [], scalarNode none true (some name)] ++ .mapping .mapping (entriesFrom 3 fs) ::
      fs.flatMap Field.nodes) gs
  rw [← outer] at entries
  have whole := node_mapping [] (by simp : Place.block ≠ .flow) (blockEntries_entry rfl group entries)
  have count : ([.mapping .mapping [], scalarNode none true (some name)] ++ .mapping .mapping (entriesFrom 3 fs) ::
      fs.flatMap Field.nodes).length = 3 + 2 * fs.length := by
    simp only [List.length_append, List.length_cons, List.length_nil, length_nodes]
    omega
  rw [count] at whole
  have tokens : groupedTokens name fs gs = .blockMappingStart :: .key :: .scalar true (some name) :: .value ::
      .blockMappingStart ::
        (fs.flatMap Field.tokens ++ .blockEnd :: (gs.flatMap Field.tokens ++ .blockEnd :: [.streamEnd])) := by
    simp [groupedTokens]
  have nodes :
    [] ++ Node.mapping .mapping ((1, 2) :: entriesFrom (3 + 2 * fs.length) gs) :: scalarNode none true (some name) ::
      .mapping .mapping (entriesFrom 3 fs) :: (fs.flatMap Field.nodes ++ gs.flatMap Field.nodes) =
        groupedNodes name fs gs := rfl
  rw [Graph.ofTokens, enough, tokens, ← nodes]
  exact congrArg (Except.map (·.1)) (document_of_node whole)

end PageComposer.Yaml

import PageComposer.Yaml.Graph
import PageComposer.Yaml.Scalar

/-!
# Values of graphs

`Graph.value` gives the value of a document. Each node gets its value once. A collection is met before its
members are looked at: collections wait for their turn in the order in which they are met, so of several
troubles with values the least deep one is reported. When the turn of a mapping comes, it takes over the
entries of what it merges.
-/

namespace PageComposer.Yaml

inductive Part where
  | value (v : Value)
  | collection (n : Nat)

inductive Members where
  | items (parts : List Part)
  | pairs (parts : List (Part × Part))
  | entries (parts : List (Part × Part))

structure Building where
  nodes : Nodes
  parts : Array (Option Part)
  members : Array Members
  turns : Array Nat

abbrev Builder := StateT Building (Except Trouble)

namespace Builder

def fail {α : Type} : Builder α := fun _ => malformed

def node (n : Nat) : Builder Node := return (← get).nodes.node n

def entries (n : Nat) : Builder (List (Nat × Nat)) := return (← get).nodes.entries n

def putEntries (n : Nat) (entries : List (Nat × Nat)) : Builder Unit :=
  modify fun b => { b with nodes := b.nodes.putEntries n entries }

/-- How long a chain of merged or standing-in nodes can be. It is an approximation, since the stack of the caller counts
as well. -/
def chainLimit : Nat := 970

/-! ## Merging -/

def takeMerged (n : Nat) : Builder (Option Nat) := do
  let b ← get
  let entries := b.nodes.entries n
  match entries.findIdx? fun e => (b.nodes.node e.1).kind = .merge with
  | none => return none
  | some i =>
    putEntries n (entries.eraseIdx i)
    return entries[i]?.map (·.2)

def mergedFrom (flatten : Nat → Builder Unit) (n : Nat) : Builder (List (Nat × Nat)) := do
  match ← node n with
  | .mapping .. =>
    flatten n
    entries n
  | _ => fail

/-- The entries that the value of a merging key brings: those of a mapping, or of several, the last one
first. -/
def mergedBy (flatten : Nat → Builder Unit) (n : Nat) : Builder (List (Nat × Nat)) := do
  match ← node n with
  | .sequence _ items => return (← items.mapM (mergedFrom flatten)).reverse.flatten
  | _ => mergedFrom flatten n

def merged (flatten : Nat → Builder Unit) (n : Nat) : Nat → Builder (List (Nat × Nat))
  | 0 => return []
  | room + 1 => do
    match ← takeMerged n with
    | none => return []
    | some source =>
      let first ← mergedBy flatten source
      return first ++ (← merged flatten n room)

/-- A key that could stand in for its mapping is an ordinary text once the mapping is read as one. -/
def settleKey (n : Nat) : Builder Unit :=
  modify fun b =>
    let x := b.nodes.node n
    if x.kind = .standIn then { b with nodes := b.nodes.put n (x.withKind .text) } else b

def flatten : Nat → Nat → Builder Unit
  | 0, _ => throw .tooDeep
  | room + 1, n => do
    let before ← merged (flatten room) n (← entries n).length
    let own ← entries n
    own.forM fun e => settleKey e.1
    putEntries n (before ++ own)

/-! ## Scalars -/

def content (nodes : Nodes) : Nat → Nat → Result Content
  | 0, _ => .error .tooDeep
  | room + 1, n =>
    match nodes.node n with
    | .scalar _ s => .ok s
    | .sequence .. => malformed
    | .mapping _ entries =>
      match entries.find? fun e => (nodes.node e.1).kind = .standIn with
      | some e => content nodes room e.2
      | none => malformed

def scalarValue (nodes : Nodes) (n : Nat) : Result Value := do
  let s ← content nodes chainLimit n
  match nodes.node n with
  | .mapping .moment _ => defect .momentOfCollection
  | x => x.kind.read s

/-! ## Collections -/

/-- What a node stands for. A collection that is met for the first time waits for its turn. -/
def part (n : Nat) : Builder Part := do
  let b ← get
  match b.parts.getD n none with
  | some p => return p
  | none =>
    let kind := (b.nodes.node n).kind
    if kind.isCollection then
      set { b with parts := b.parts.setIfInBounds n (some (.collection n)), turns := b.turns.push n }
      return .collection n
    else if kind.isScalar then
      let v ← scalarValue b.nodes n
      set { b with parts := b.parts.setIfInBounds n (some (.value v)) }
      return .value v
    else fail

def entry (e : Nat × Nat) : Builder (Part × Part) := do
  match ← part e.1 with
  | .collection _ => fail
  | key => return (key, ← part e.2)

def onlyEntry (n : Nat) : Builder (Part × Part) := do
  match ← node n with
  | .mapping _ [(key, value)] => return (← part key, ← part value)
  | _ => fail

def mappingEntries (n : Nat) : Builder (List (Part × Part)) := do
  flatten chainLimit n
  (← entries n).mapM entry

/-- The members of a collection. A set is a list of its members. -/
def membersOf (n : Nat) : Builder Members := do
  match ← node n with
  | .sequence .sequence items => return .items (← items.mapM part)
  | .sequence .pairs items => return .pairs (← items.mapM onlyEntry)
  | .sequence .orderedMapping items => return .pairs (← items.mapM onlyEntry)
  | .mapping .mapping _ => return .entries (← mappingEntries n)
  | .mapping .set _ => return .items ((← mappingEntries n).map (·.1))
  | _ => fail

/-- Reads collections from a turn on. There is at most one turn for each node. -/
def fillFrom : Nat → Nat → Builder Unit
  | 0, _ => return
  | room + 1, turn => do
    match (← get).turns[turn]? with
    | none => return
    | some n =>
      let members ← membersOf n
      modify fun b => { b with members := b.members.setIfInBounds n members }
      fillFrom room (turn + 1)

end Builder

def Part.unfold (members : Array Members) : Nat → Part → Value
  | _, value v => v
  | 0, collection n =>
    match members.getD n (.items []) with
    | .entries _ => .map []
    | _ => .list []
  | levels + 1, collection n =>
    let pair (p : Part × Part) := (unfold members levels p.1, unfold members levels p.2)
    match members.getD n (.items []) with
    | .items parts => .list (parts.map (unfold members levels))
    | .pairs parts => .list (parts.map fun p => .list [(pair p).1, (pair p).2])
    | .entries parts => .map (parts.map pair)

def Graph.value (levels : Nat) (g : Graph) : Result Value :=
  let size := g.nodes.size
  let start : Building := ⟨g.nodes, .replicate size none, .replicate size (.items []), #[]⟩
  let build : Builder Part := do
    let root ← Builder.part g.root
    Builder.fillFrom size 0
    return root
  (build.run start).map fun (root, b) => root.unfold b.members levels

end PageComposer.Yaml

import PageComposer.Yaml.Graph
import PageComposer.Yaml.Token.Lexer

/-!
# Reading graphs

`Graph.ofTokens` reads the tokens of a text with at most one document. The trouble that ends the tokens
counts only where reading comes to it. An anchor stands for its node from the node's beginning on.
-/

namespace PageComposer.Yaml

/-! ## Reading state -/

structure Reading where
  tokens : List Token
  ending : Option Trouble
  handles : List (Text × Text)
  anchors : List (Text × Nat)
  nodes : Nodes

abbrev Reader := StateT Reading (Except Trouble)

namespace Reader

def fail {α : Type} : Reader α := fun _ => malformed

def peek : Reader Token := fun x =>
  match x.tokens, x.ending with
  | t :: _, _ => .ok (t, x)
  | [], none => .ok (.streamEnd, x)
  | [], some trouble => .error trouble

def skip : Reader Unit := modify fun x => { x with tokens := x.tokens.drop 1 }

def accept (t : Token) : Reader Bool := do
  if (← peek) = t then
    skip
    return true
  else return false

def expect (t : Token) : Reader Unit := do
  if !(← accept t) then fail

/-! ## Nodes and anchors -/

def add (x : Node) : Reader Nat := fun r => .ok (r.nodes.size, { r with nodes := r.nodes.push x })

def keep (anchor : Option Text) (n : Nat) : Reader Unit :=
  match anchor with
  | none => pure ()
  | some name => modify fun x => { x with anchors := (name, n) :: x.anchors }

def anchored? (name : Text) : Reader (Option Nat) := return (← get).anchors.lookup name

def refuseAgain (anchor : Option Text) : Reader Unit := do
  match anchor with
  | none => return
  | some name => if (← anchored? name).isSome then fail

def referent (name : Text) : Reader Nat := do
  match ← anchored? name with
  | some n => return n
  | none => fail

def leaf (anchor : Option Text) (x : Node) : Reader Nat := do
  let n ← add x
  keep anchor n
  return n

/-- How deep collections can be nested. It is an approximation, since the stack of the caller counts as well. -/
def nestingLimit : Nat := 486

/-- A collection with its anchor, empty until its members are read. `levels` is the number of levels that
are left for it and the collections in it. -/
def collection (levels : Nat) (anchor : Option Text) (bare : Node) (fill : Nat → Reader Node) :
    Reader Nat := do
  match levels with
  | 0 => throw .tooDeep
  | levels + 1 =>
    let n ← leaf anchor bare
    let x ← fill levels
    modify fun r => { r with nodes := r.nodes.put n x }
    return n

def sequenceNode (levels : Nat) (anchor : Option Text) (kind : Kind) (items : Nat → Reader (List Nat)) :
    Reader Nat :=
  collection levels anchor (.sequence kind []) fun levels => .sequence kind <$> items levels

def mappingNode (levels : Nat) (anchor : Option Text) (kind : Kind)
    (entries : Nat → Reader (List (Nat × Nat))) : Reader Nat :=
  collection levels anchor (.mapping kind []) fun levels => .mapping kind <$> entries levels

/-! ## Properties of nodes -/

def anchor? : Reader (Option Text) := do
  match ← peek with
  | .anchor name =>
    skip
    return some name
  | _ => return none

def writtenTag? : Reader (Option (Option Text × Text)) := do
  match ← peek with
  | .tag handle suffix =>
    skip
    return some (handle, suffix)
  | _ => return none

def resolveTag : Option Text × Text → Reader Text
  | (none, suffix) => return suffix
  | (some handle, suffix) => do
    match (← get).handles.lookup handle with
    | some lead => return lead ++ suffix
    | none => fail

def properties : Reader (Option Text × Option Text) := do
  let early ← anchor?
  let written ← writtenTag?
  let anchor ← if early.isNone && written.isSome then anchor? else pure early
  match written with
  | none => return (anchor, none)
  | some tag => return (anchor, some (← resolveTag tag))

def kindOf (tag : Option Text) (otherwise : Kind) : Kind :=
  match tag with
  | none => otherwise
  | some t => if t = ['!'] then otherwise else .ofTag t

/-- A text that holds no character of its own has no form but that of a text. -/
def kindOfContent : Content → Kind
  | some s => .ofPlain s
  | none => .text

def scalarNode (tag : Option Text) (plain : Bool) (s : Content) : Node :=
  .scalar (kindOf tag (if plain || tag.isSome then kindOfContent s else .text)) s

def bare (anchor tag : Option Text) : Reader Nat :=
  if anchor.isNone && tag.isNone then fail else leaf anchor (scalarNode tag true (some []))

/-! ## Nodes -/

inductive Place where
  | flow
  | block
  /-- In a block mapping, where a sequence needs no indentation of its own. -/
  | blockMember
  deriving DecidableEq

/-- The tokens that close the collection of a style or begin its next part. -/
def flowSequenceStops : List Token := [.value, .flowEntry, .flowSequenceEnd]

def flowMappingStops : List Token := [.value, .flowEntry, .flowMappingEnd]

def blockMappingStops : List Token := [.key, .value, .blockEnd]

mutual

def node : Nat → Nat → Place → Reader Nat
  | 0, _, _ => fail
  | room + 1, levels, place => do
    match ← peek with
    | .reference name =>
      skip
      referent name
    | _ =>
      let (anchor, tag) ← properties
      let t ← peek
      refuseAgain anchor
      if place = .blockMember && t = .blockEntry then
        sequenceNode levels anchor (kindOf tag .sequence) (looseItems room)
      else match t with
        | .scalar plain s =>
          skip
          leaf anchor (scalarNode tag plain s)
        | .flowSequenceStart =>
          skip
          sequenceNode levels anchor (kindOf tag .sequence) (flowItems room true)
        | .flowMappingStart =>
          skip
          mappingNode levels anchor (kindOf tag .mapping) (flowEntries room true)
        | .blockSequenceStart =>
          if place = .flow then bare anchor tag
          else
            skip
            sequenceNode levels anchor (kindOf tag .sequence) (blockItems room)
        | .blockMappingStart =>
          if place = .flow then bare anchor tag
          else
            skip
            mappingNode levels anchor (kindOf tag .mapping) (blockEntries room)
        | _ => bare anchor tag

def nodeUnless : Nat → Nat → Place → List Token → Reader Nat
  | 0, _, _, _ => fail
  | room + 1, levels, place, stops => do
    if stops.contains (← peek) then add .empty else node room levels place

def valueNode : Nat → Nat → Place → List Token → Reader Nat
  | 0, _, _, _ => fail
  | room + 1, levels, place, stops => do
    if ← accept .value then nodeUnless room levels place stops else add .empty

def blockItems : Nat → Nat → Reader (List Nat)
  | 0, _ => fail
  | room + 1, levels => do
    if ← accept .blockEntry then
      let item ← nodeUnless room levels .block [.blockEntry, .blockEnd]
      return item :: (← blockItems room levels)
    else
      expect .blockEnd
      return []

def looseItems : Nat → Nat → Reader (List Nat)
  | 0, _ => fail
  | room + 1, levels => do
    if ← accept .blockEntry then
      let item ← nodeUnless room levels .block (.blockEntry :: blockMappingStops)
      return item :: (← looseItems room levels)
    else return []

def blockEntries : Nat → Nat → Reader (List (Nat × Nat))
  | 0, _ => fail
  | room + 1, levels => do
    if ← accept .key then
      let key ← nodeUnless room levels .blockMember blockMappingStops
      let value ← valueNode room levels .blockMember blockMappingStops
      return (key, value) :: (← blockEntries room levels)
    else
      expect .blockEnd
      return []

/-- Items of a flow sequence. A key in it makes a mapping of one entry. -/
def flowItems : Nat → Bool → Nat → Reader (List Nat)
  | 0, _, _ => fail
  | room + 1, first, levels => do
    if ← accept .flowSequenceEnd then return []
    if !first then expect .flowEntry
    if ← accept .key then
      let item ← mappingNode levels none .mapping fun levels => do
        let key ← nodeUnless room levels .flow flowSequenceStops
        let value ← valueNode room levels .flow [.flowEntry, .flowSequenceEnd]
        return [(key, value)]
      return item :: (← flowItems room false levels)
    else if ← accept .flowSequenceEnd then return []
    else
      let item ← node room levels .flow
      return item :: (← flowItems room false levels)

def flowEntries : Nat → Bool → Nat → Reader (List (Nat × Nat))
  | 0, _, _ => fail
  | room + 1, first, levels => do
    if ← accept .flowMappingEnd then return []
    if !first then expect .flowEntry
    if ← accept .key then
      let key ← nodeUnless room levels .flow flowMappingStops
      let value ← valueNode room levels .flow [.flowEntry, .flowMappingEnd]
      return (key, value) :: (← flowEntries room false levels)
    else if ← accept .flowMappingEnd then return []
    else
      let key ← node room levels .flow
      let value ← add .empty
      return (key, value) :: (← flowEntries room false levels)

end

/-! ## Documents -/

def defaultHandles : List (Text × Text) := [(['!'], ['!']), ("!!".toList, "tag:yaml.org,2002:".toList)]

/-- The directives in front of a document: at most one version, which must be 1, and each handle once. -/
def directives : Nat → Bool → List (Text × Text) → Reader (List (Text × Text))
  | 0, _, handles => return handles
  | room + 1, versioned, handles => do
    match ← peek with
    | .directive (.version major) =>
      if versioned || major ≠ 1 then fail
      skip
      directives room true handles
    | .directive (.handle name lead) =>
      if (handles.lookup name).isSome then fail
      skip
      directives room versioned ((name, lead) :: handles)
    | .directive .unknown =>
      skip
      directives room versioned handles
    | _ => return handles

def documentStart (room : Nat) : Reader Unit := do
  let handles ← directives room false []
  modify fun x => { x with handles := handles ++ defaultHandles }
  expect .documentStart

def root (room : Nat) : Reader (Option Nat) := do
  match ← peek with
  | .streamEnd => return none
  | .directive _ | .documentStart =>
    documentStart room
    match ← peek with
    | .directive _ | .documentStart | .documentEnd | .streamEnd => some <$> add .empty
    | _ => some <$> node room nestingLimit .block
  | _ => some <$> node room nestingLimit .block

def skipDocumentEnds : Nat → Reader Unit
  | 0 => return
  | room + 1 => do if ← accept .documentEnd then skipDocumentEnds room

/-- The end of the text. A second document is refused once its start is read. -/
def finish (room : Nat) : Reader Unit := do
  skipDocumentEnds room
  if !(← accept .streamEnd) then
    documentStart room
    fail

def document (room : Nat) : Reader (Option Graph) := do
  match ← root room with
  | none => return none
  | some n =>
    finish room
    return some ⟨(← get).nodes, n⟩

end Reader

/-- The document that the tokens make. Between two tokens there are at most three steps down the tree. -/
def Graph.ofTokens (x : TokenStream) : Result (Option Graph) :=
  (Reader.document (3 * x.tokens.length + 3)).run' ⟨x.tokens, x.ending, Reader.defaultHandles, [], #[]⟩

end PageComposer.Yaml

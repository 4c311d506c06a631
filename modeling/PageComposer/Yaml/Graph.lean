import PageComposer.Yaml.Kind
import PageComposer.Yaml.Token

/-!
# Graphs

The nodes of a document: scalars, sequences and mappings with their kinds. A collection names its members
by their numbers, so that references share nodes and a node can be among its own members.
-/

namespace PageComposer.Yaml

inductive Node where
  | scalar (kind : Kind) (content : Content)
  | sequence (kind : Kind) (items : List Nat)
  | mapping (kind : Kind) (entries : List (Nat × Nat))

namespace Node

def empty : Node := .scalar .null (some [])

def kind : Node → Kind
  | scalar kind _ => kind
  | sequence kind _ => kind
  | mapping kind _ => kind

def withKind (kind : Kind) : Node → Node
  | scalar _ content => scalar kind content
  | sequence _ items => sequence kind items
  | mapping _ entries => mapping kind entries

end Node

abbrev Nodes := Array Node

namespace Nodes

def node (nodes : Nodes) (n : Nat) : Node := nodes.getD n .empty

def entries (nodes : Nodes) (n : Nat) : List (Nat × Nat) :=
  match nodes.node n with
  | .mapping _ entries => entries
  | _ => []

def put (nodes : Nodes) (n : Nat) (x : Node) : Nodes := nodes.setIfInBounds n x

def putEntries (nodes : Nodes) (n : Nat) (entries : List (Nat × Nat)) : Nodes :=
  nodes.put n (.mapping (nodes.node n).kind entries)

end Nodes

structure Graph where
  nodes : Nodes
  root : Nat

end PageComposer.Yaml

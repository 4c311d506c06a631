import PageComposer.Fault
import PageComposer.Journal
import PageComposer.Name
import PageComposer.OrderedMap

/-!
# Registry

The components by name, in order of first registration. A name that is not valid is refused and changes
nothing; registering a known name replaces its text and keeps its place. `perform` is what can be asked of a
registry, call by call.
-/

namespace PageComposer

structure Registry where
  components : OrderedMap Text
  deriving DecidableEq

namespace Registry

def empty : Registry := ⟨.empty⟩

def find? (registry : Registry) (name : Text) : Option Text := registry.components.find? name

def names (registry : Registry) : List Text := registry.components.keys

def size (registry : Registry) : Nat := registry.components.size

/-- Does the registry hold a component of this name? Only texts are names. -/
def has (registry : Registry) : Value → Bool
  | .text name => registry.components.contains name
  | _ => false

def get (registry : Registry) (name : Value) : Except Fault Text :=
  match name with
  | .text s => ((registry.find? s).map .ok).getD (.error (.componentNotFound name))
  | _ => .error (.componentNotFound name)

def registrationRecords (registry : Registry) (name : Text) : List Record :=
  (if registry.components.contains name then
    [⟨.warning, "Component \"".toList ++ name ++ "\" already exists, overriding".toList⟩]
  else []) ++ [⟨.debug, "Registered component: ".toList ++ name⟩]

def insert (registry : Registry) (name content : Text) : Registry :=
  ⟨registry.components.assign name content⟩

theorem find?_insert (registry : Registry) (name other content : Text) :
    (registry.insert name content).find? other = if other = name then some content else registry.find? other :=
  OrderedMap.find?_assign _ _ _ _

def register (registry : Registry) (name : Value) (content : Text) :
    Except Fault (Registry × List Record) :=
  match name with
  | .text s =>
    if ComponentName.isValid s then .ok (registry.insert s content, registry.registrationRecords s)
    else .error (.invalidName name)
  | _ => .error (.invalidName name)

/-! ## Calls -/

inductive Call where
  | register (name : Value) (content : Text)
  | get (name : Value)
  | has (name : Value)
  | contains (name : Value)
  | names
  | count
  | length
  | clear

inductive Answer where
  | done
  | name (name : Value)
  | content (s : Text)
  | flag (b : Bool)
  | names (names : List Text)
  | number (n : Nat)

structure Reply where
  registry : Registry
  answer : Except Failure Answer
  records : List Record

def Reply.refused (registry : Registry) (f : Fault) : Reply := ⟨registry, .error f.raise, []⟩

def perform (registry : Registry) : Call → Reply
  | .register name content =>
    match registry.register name content with
    | .ok (registry, records) => ⟨registry, .ok (.name name), records⟩
    | .error f => .refused registry f
  | .get name =>
    match registry.get name with
    | .ok content => ⟨registry, .ok (.content content), []⟩
    | .error f => .refused registry f
  | .has name => ⟨registry, .ok (.flag (registry.has name)), []⟩
  | .contains name => ⟨registry, .ok (.flag (registry.has name)), []⟩
  | .names => ⟨registry, .ok (.names registry.names), []⟩
  | .count => ⟨registry, .ok (.number registry.size), []⟩
  | .length => ⟨registry, .ok (.number registry.size), []⟩
  | .clear => ⟨.empty, .ok .done, []⟩

end Registry
end PageComposer

import PageComposer.Interpolation
import PageComposer.Reference
import PageComposer.Registry

/-!
# Expansion

Replaces the tags of a text by components, recursively. Each different tag of a text is resolved once:
its component is looked up, filled with the tag's properties, expanded in turn, and put in place of every
occurrence of the tag. Substitution can form new tags with stray braces; they are expanded as well, one
level deeper.

The components being expanded form the path. A tag that names one of them is circular. The nesting is
limited, and so is the call stack that the expansion of a text inside another one takes a part of.
Missing components are collected over the whole expansion and end it only afterwards; everything else
that goes wrong ends it at once.

An expansion leaves a trace of the texts it opened and closed, the components it looked up, and the
references it resolved.
-/

namespace PageComposer

/-- A reference to a component that is not registered, and the component that holds it, if any. -/
structure Missing where
  name : Text
  owner : Option Text
  deriving DecidableEq

def Missing.message (m : Missing) : Text :=
  Fault.componentMessage m.name ++
    match m.owner with
    | some owner => " (in \"".toList ++ owner ++ "\")".toList
    | none => []

inductive ExpansionFault where
  | unresolved (context : Text) (missing : List Missing)
  | circular (context : Text) (path : List Text)
  | tooDeep (context : Text) (limit : Int)
  | numeral (e : NumeralTooLong)
  | outOfStack
  deriving DecidableEq

def ExpansionFault.toFailure : ExpansionFault → Failure
  | unresolved context missing => .fault (.unresolved context (missing.map Missing.message))
  | circular context path => .fault (.circular context path)
  | tooDeep context limit => .fault (.tooDeep context limit)
  | numeral e => .defect (.numeral e)
  | outOfStack => .defect .nestedTooDeep

inductive Event where
  | opened (owner : Text) (depth : Int) (path : List Text)
  | closed (owner : Text) (depth : Int)
  | lookedUp (name : Text)
  | resolved (name owner : Text) (depth : Int)
  deriving DecidableEq

def Event.record? : Event → Option Record
  | resolved name owner depth =>
    some ⟨.debug, "Resolved component \"".toList ++ name ++ "\" in \"".toList ++ owner ++
      "\" (depth ".toList ++ Text.ofInt depth ++ [')']⟩
  | _ => none

structure Traced (α : Type) where
  trace : List Event
  outcome : Except ExpansionFault α

namespace Traced

def emit (e : Event) : Traced Unit := ⟨[e], .ok ()⟩

def ofExcept {α : Type} (x : Except ExpansionFault α) : Traced α := ⟨[], x⟩

def andThen {α β : Type} (x : Traced α) (f : α → Traced β) : Traced β :=
  match x.outcome with
  | .ok a => ⟨x.trace ++ (f a).trace, (f a).outcome⟩
  | .error e => ⟨x.trace, .error e⟩

instance : Monad Traced where
  pure a := ⟨[], .ok a⟩
  bind := andThen

def fail {α : Type} (e : ExpansionFault) : Traced α := ⟨[], .error e⟩

def orMissing {α : Type} (x : Traced α) : Traced (α ⊕ List Missing) :=
  match x.outcome with
  | .ok a => ⟨x.trace, .ok (.inl a)⟩
  | .error (.unresolved _ missing) => ⟨x.trace, .ok (.inr missing)⟩
  | .error e => ⟨x.trace, .error e⟩

def between {α : Type} (first last : Event) (x : Traced α) : Traced α :=
  ⟨first :: (x.trace ++ [last]), x.outcome⟩

def records {α : Type} (x : Traced α) : List Record := x.trace.filterMap Event.record?

end Traced

structure Progress where
  text : Text
  missing : List Missing

namespace Expansion

/-- Where a text stands: the page or component that holds it, its nesting depth, and the components
being expanded, outermost first. -/
structure Place where
  owner : Text
  depth : Int
  path : List Text

def Place.inside (place : Place) (name : Text) : Place := ⟨name, place.depth + 1, place.path ++ [name]⟩

def Place.again (place : Place) : Place := { place with depth := place.depth + 1 }

def Place.missing (place : Place) (name : Text) : Missing :=
  ⟨name, if place.depth = 0 then none else some place.owner⟩

def reference (place : Place) (tag : Text) : Traced Reference := do
  let ref ← Traced.ofExcept ((Reference.ofTag tag).mapError .numeral)
  if ref.name ∈ place.path then Traced.fail (.circular place.owner (place.path ++ [ref.name]))
  pure ref

def substitute (place : Place) (progress : Progress) (tag : Text) (name body : Text) :
    Traced Progress := do
  Traced.emit (.resolved name place.owner place.depth)
  pure { progress with text := Text.replace tag body progress.text }

def resolveTag (registry : Registry) (expandInner : Place → Text → Traced Text) (place : Place)
    (progress : Progress) (tag : Text) : Traced Progress := do
  let ref ← reference place tag
  Traced.emit (.lookedUp ref.name)
  match registry.find? ref.name with
  | none => pure { progress with missing := progress.missing ++ [place.missing ref.name] }
  | some fragment =>
    let filled := interpolate ref.props fragment
    if Tag.occursIn filled then
      match ← (expandInner (place.inside ref.name) filled).orMissing with
      | .inl body => substitute place progress tag ref.name body
      | .inr more => pure { progress with missing := progress.missing ++ more }
    else substitute place progress tag ref.name filled

def resolveTags (registry : Registry) (expandInner : Place → Text → Traced Text) (place : Place) :
    Progress → List Text → Traced Progress
  | progress, [] => pure progress
  | progress, tag :: rest => do
    let progress ← resolveTag registry expandInner place progress tag
    resolveTags registry expandInner place progress rest

/-- Expands a text that nothing may be put into: its first tag is refused. -/
def refuse (limit : Int) (place : Place) (text : Text) : Traced Text :=
  match Tag.all text with
  | [] => pure text
  | tag :: _ => do
    let _ ← reference place tag
    Traced.fail (.tooDeep place.owner limit)

/-- Expands a text; `expandInner` expands the texts inside it, and the text once more where
substitution has formed new tags. -/
def resolveText (registry : Registry) (expandInner : Place → Text → Traced Text) (place : Place)
    (text : Text) : Traced Text := do
  let progress ← resolveTags registry expandInner place ⟨text, []⟩ (Tag.all text)
  if progress.missing ≠ [] then Traced.fail (.unresolved place.owner progress.missing)
  if Tag.occursIn progress.text then expandInner place.again progress.text
  else pure progress.text

def visit (place : Place) (x : Traced Text) : Traced Text :=
  Traced.between (.opened place.owner place.depth place.path) (.closed place.owner place.depth) x

/-- Expands a text, with the given number of expansions left on the call stack. -/
def within (registry : Registry) (limit : Int) : Nat → Place → Text → Traced Text
  | 0, _, _ => Traced.fail .outOfStack
  | stack + 1, place, text => visit place <|
    if place.depth < limit then resolveText registry (within registry limit stack) place text
    else refuse limit place text

end Expansion

/-- Expands a text at a place, with components nested at most as deep as the limit. On the call stack the
given number of expansions fit inside this one, each with the functions that it calls. -/
def expand (registry : Registry) (limit : Int) (stack : Nat) (place : Expansion.Place) (text : Text) :
    Traced Text :=
  Expansion.within registry limit (stack + 1) place text

end PageComposer

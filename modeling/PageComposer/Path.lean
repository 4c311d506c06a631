import PageComposer.Text.Lowercase

/-!
# Paths

A path is an anchor, empty for a relative path, and the names on the way. Empty names and single points
are dropped when a path is read; two points stay and are resolved only by `resolve`, which turns a path
into a location: the names on the way from the root.
-/

namespace PageComposer

structure Path where
  anchor : Text
  parts : List Text
  deriving DecidableEq

abbrev Location := List Text

namespace Path

/-- One slash, or exactly two, make a path absolute; more than two count as one. -/
def anchorOf (s : Text) : Text :=
  match s.takeWhile (· == '/') with
  | [] => []
  | ['/', '/'] => ['/', '/']
  | _ => ['/']

def partsOf (s : Text) : List Text := (s.splitOn '/').filter fun part => part ≠ [] ∧ part ≠ ['.']

def ofText (s : Text) : Path := ⟨anchorOf s, partsOf s⟩

def toText (p : Path) : Text :=
  if p.anchor = [] ∧ p.parts = [] then ['.'] else p.anchor ++ Text.join ['/'] p.parts

def append (p q : Path) : Path := if q.anchor = [] then ⟨p.anchor, p.parts ++ q.parts⟩ else q

def child (p : Path) (name : Text) : Path := ⟨p.anchor, p.parts ++ [name]⟩

def parent (p : Path) : Path := ⟨p.anchor, p.parts.dropLast⟩

def name (p : Path) : Text := p.parts.getLast?.getD []

def lastText (p : Path) : Text := if p.anchor = [] ∧ p.parts = [] then ['.'] else p.name

/-- Where a name divides into stem and suffix: at its last point, unless nothing stands before or behind. -/
def splitName (name : Text) : Text × Text :=
  match Text.splitLast? '.' name with
  | some (stem, extension) =>
    if stem.isEmpty || extension.isEmpty then (name, []) else (stem, '.' :: extension)
  | none => (name, [])

def stem (p : Path) : Text := (splitName p.name).1

def suffix (p : Path) : Text := (splitName p.name).2

def extension (p : Path) : Text := Text.lower (p.suffix.drop 1)

def below? (base p : Path) : Option (List Text) :=
  if base.anchor = p.anchor then base.parts.isPrefixOf? p.parts else none

/-- The location of a path seen from a working directory; two points go up, and stop at the root. -/
def resolve (here : Location) (p : Path) : Location :=
  p.parts.foldl (fun at_ part => if part = ['.', '.'] then at_.dropLast else at_ ++ [part])
    (if p.anchor = [] then here else [])

def ofLocation (l : Location) : Path := ⟨['/'], l⟩

end Path
end PageComposer

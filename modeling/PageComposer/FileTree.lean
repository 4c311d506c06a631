import PageComposer.Path

/-!
# File trees

A file tree assigns entries to locations; the root is always a directory. The entries are kept sorted by
location, so that the entries of a directory come in the order of their names. `find?_put` and
`find?_remove` say what the two operations change.

Finding the entry that a path names can fail for the reasons that a system gives: `SystemError`.
-/

namespace PageComposer

inductive SystemError where
  | noSuchFile
  | alreadyExists
  | notDirectory
  | isDirectory
  | nameTooLong
  deriving DecidableEq

namespace SystemError

def number : SystemError → Nat
  | noSuchFile => 2
  | alreadyExists => 17
  | notDirectory => 20
  | isDirectory => 21
  | nameTooLong => 36

def message : SystemError → Text
  | noSuchFile => "No such file or directory".toList
  | alreadyExists => "File exists".toList
  | notDirectory => "Not a directory".toList
  | isDirectory => "Is a directory".toList
  | nameTooLong => "File name too long".toList

end SystemError

/-- A path is refused by the system, or it holds a null character and never gets there. -/
inductive Refusal where
  | system (e : SystemError)
  | embeddedNull
  deriving DecidableEq

inductive Entry where
  | file (content : List UInt8) (changed : Int)
  | directory
  deriving DecidableEq

def Entry.isDirectory : Entry → Bool
  | directory => true
  | file .. => false

/-- Order of locations: name by name, a location before those below it. -/
def Location.le : Location → Location → Bool
  | [], _ => true
  | _ :: _, [] => false
  | a :: s, b :: t => if a = b then Location.le s t else Text.le a b

structure FileTree where
  entries : List (Location × Entry)
  deriving DecidableEq

namespace FileTree

def empty : FileTree := ⟨[]⟩

def find? (tree : FileTree) (l : Location) : Option Entry :=
  if l = [] then some .directory else tree.entries.lookup l

def putIn (l : Location) (e : Entry) : List (Location × Entry) → List (Location × Entry)
  | [] => [(l, e)]
  | (l', e') :: rest =>
    if l' = l then (l, e) :: rest
    else if Location.le l l' then (l, e) :: (l', e') :: rest
    else (l', e') :: putIn l e rest

def put (tree : FileTree) (l : Location) (e : Entry) : FileTree := ⟨putIn l e tree.entries⟩

def remove (tree : FileTree) (l : Location) : FileTree :=
  ⟨tree.entries.filter fun e => !l.isPrefixOf e.1⟩

def names (tree : FileTree) (l : Location) : List Text :=
  tree.entries.filterMap fun e =>
    match l.isPrefixOf? e.1 with
    | some [name] => some name
    | _ => none

/-- The files below a location: the names on the way to each, its content and time of change. -/
def filesBelow (tree : FileTree) (l : Location) : List (List Text × List UInt8 × Int) :=
  tree.entries.filterMap fun e =>
    match l.isPrefixOf? e.1, e.2 with
    | some (name :: rest), .file content changed => some (name :: rest, content, changed)
    | _, _ => none

/-! ## Paths in a tree -/

def pathLimit : Nat := 4096

def nameLimit : Nat := 255

def byteLength (s : Text) : Nat := s.foldl (fun n c => n + c.utf8Size) 0

/-- Follows names from a directory. All but the last must name directories. -/
def walk (tree : FileTree) : Location → List Text → Except SystemError Location
  | l, [] => .ok l
  | l, part :: rest =>
    match tree.find? l with
    | none => .error .noSuchFile
    | some (.file ..) => .error .notDirectory
    | some .directory =>
      if part = ['.', '.'] then walk tree l.dropLast rest
      else if nameLimit < byteLength part then .error .nameTooLong
      else walk tree (l ++ [part]) rest

/-- The location that a path names; the entry itself need not exist. -/
def locate (tree : FileTree) (here : Location) (p : Path) : Except Refusal Location :=
  if '\x00' ∈ p.toText then .error .embeddedNull
  else if pathLimit ≤ byteLength p.toText then .error (.system .nameTooLong)
  else (walk tree (if p.anchor = [] then here else []) p.parts).mapError .system

def stat (tree : FileTree) (here : Location) (p : Path) : Except Refusal (Location × Entry) := do
  let l ← locate tree here p
  match tree.find? l with
  | some e => pure (l, e)
  | none => throw (.system .noSuchFile)

/-- The entry that a path names, if there is one. Only a path or name that is too long is an error. -/
def probe (tree : FileTree) (here : Location) (p : Path) : Except Refusal (Option Entry) :=
  match stat tree here p with
  | .ok (_, e) => .ok (some e)
  | .error (.system .nameTooLong) => .error (.system .nameTooLong)
  | .error _ => .ok none

/-! ## What the operations change -/

theorem find?_put (tree : FileTree) (l l' : Location) (e : Entry) (h : l' ≠ []) :
    (tree.put l e).find? l' = if l' = l then some e else tree.find? l' := by
  obtain ⟨entries⟩ := tree
  simp only [find?, put, h, if_false]
  have apart {a b : Location} (h : ¬a = b) : (a == b) = false := by simpa using h
  induction entries with
  | nil => by_cases hl : l' = l <;> simp [putIn, List.lookup_cons, hl, apart]
  | cons x rest ih =>
    obtain ⟨k, v⟩ := x
    simp only [putIn]
    by_cases hk : k = l
    · subst hk
      by_cases hl : l' = k <;> simp [List.lookup_cons, hl, apart]
    · simp only [hk, if_false]
      split
      · by_cases hl : l' = l
        · subst hl; simp
        · simp [List.lookup_cons, hl, apart]
      · by_cases hl : l' = k
        · subst hl; simp [hk]
        · simp [List.lookup_cons, apart hl, ih]

theorem find?_remove (tree : FileTree) (l l' : Location) (h : l' ≠ []) :
    (tree.remove l).find? l' = if l.isPrefixOf l' then none else tree.find? l' := by
  obtain ⟨entries⟩ := tree
  simp only [find?, remove, h, if_false]
  have apart {a b : Location} (h : ¬a = b) : (a == b) = false := by simpa using h
  induction entries with
  | nil => simp
  | cons x rest ih =>
    obtain ⟨k, v⟩ := x
    simp only [List.filter_cons]
    by_cases hl : l' = k
    · subst hl
      by_cases hp : l.isPrefixOf l' = true
      · simpa [hp] using ih
      · simp [hp]
    · split
      · simp [List.lookup_cons, apart hl, ih]
      · simp [List.lookup_cons, apart hl, ih]

end FileTree
end PageComposer

import PageComposer.Text

/-!
# Maps that remember the order of first assignment

A map from texts. Assigning to a new key appends it; assigning to a known key keeps its place and
changes its value. `find?_assign` and `keys_assign` say so.
-/

namespace PageComposer

structure OrderedMap (α : Type) where
  entries : List (Text × α)
  deriving DecidableEq

namespace OrderedMap
variable {α : Type}

def empty : OrderedMap α := ⟨[]⟩

def assignIn (key : Text) (value : α) : List (Text × α) → List (Text × α)
  | [] => [(key, value)]
  | (k, v) :: rest => if k = key then (key, value) :: rest else (k, v) :: assignIn key value rest

def assign (m : OrderedMap α) (key : Text) (value : α) : OrderedMap α :=
  ⟨assignIn key value m.entries⟩

def find? (m : OrderedMap α) (key : Text) : Option α := m.entries.lookup key

def contains (m : OrderedMap α) (key : Text) : Bool := (m.find? key).isSome

def keys (m : OrderedMap α) : List Text := m.entries.map (·.1)

def size (m : OrderedMap α) : Nat := m.entries.length

@[simp] theorem find?_empty (key : Text) : (empty : OrderedMap α).find? key = none := rfl

theorem find?_assign (m : OrderedMap α) (key other : Text) (value : α) :
    (m.assign key value).find? other = if other = key then some value else m.find? other := by
  obtain ⟨entries⟩ := m
  simp only [find?, assign]
  have apart {a b : Text} (h : ¬a = b) : (a == b) = false := by simpa using h
  induction entries with
  | nil => by_cases h : other = key <;> simp [assignIn, List.lookup_cons, h, apart]
  | cons e rest ih =>
    obtain ⟨k, v⟩ := e
    simp only [assignIn]
    by_cases hk : k = key
    · subst hk
      by_cases h : other = k <;> simp [List.lookup_cons, h, apart]
    · simp only [hk, if_false, List.lookup_cons]
      by_cases h : other = k
      · subst h; simp [hk]
      · simp [apart h, ih]

theorem keys_assign (m : OrderedMap α) (key : Text) (value : α) :
    (m.assign key value).keys = if key ∈ m.keys then m.keys else m.keys ++ [key] := by
  obtain ⟨entries⟩ := m
  simp only [keys, assign]
  induction entries with
  | nil => simp [assignIn]
  | cons e rest ih =>
    obtain ⟨k, v⟩ := e
    simp only [assignIn]
    by_cases hk : k = key
    · subst hk; simp
    · simp only [hk, if_false, List.map_cons, ih]
      have hk' : key ≠ k := fun h => hk h.symm
      by_cases hm : key ∈ rest.map (·.1) <;> simp [hm, hk']

theorem contains_iff_mem_keys (m : OrderedMap α) (key : Text) :
    m.contains key = true ↔ key ∈ m.keys := by
  obtain ⟨entries⟩ := m
  simp only [contains, find?, keys]
  induction entries with
  | nil => simp
  | cons e rest ih =>
    obtain ⟨k, v⟩ := e
    by_cases h : key = k
    · subst h; simp
    · have : (key == k) = false := by simpa using h
      simp [List.lookup_cons, this, h, ih]

end OrderedMap
end PageComposer

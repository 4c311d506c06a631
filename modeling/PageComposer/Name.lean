import PageComposer.Tag

/-!
# Names

Which names components and files may have. A component name is a path of non-empty segments of letters,
digits, `_` and `-`, joined by slashes; every such name can stand in a tag. A file name is one segment, a
point, and an extension of letters and digits.
-/

namespace PageComposer

namespace ComponentName

def isSegmentChar (c : Char) : Bool := c.isAlphanum || c == '_' || c == '-'

def isSegment (s : Text) : Bool := !s.isEmpty && s.all isSegmentChar

def segments (name : Text) : List Text := name.splitOn '/'

def isValid (name : Text) : Bool := (segments name).all isSegment

theorem isNameChar_of_isSegmentChar {c : Char} (h : isSegmentChar c = true) :
    Tag.isNameChar c = true := by
  simp only [isSegmentChar, Tag.isNameChar, Bool.or_eq_true] at h ⊢
  rcases h with (h | h) | h <;> simp [h]

end ComponentName

namespace FileName

def isValid (name : Text) : Bool :=
  let stem := name.takeWhile ComponentName.isSegmentChar
  match name.drop stem.length with
  | '.' :: extension => !stem.isEmpty && !extension.isEmpty && extension.all Char.isAlphanum
  | _ => false

end FileName
end PageComposer

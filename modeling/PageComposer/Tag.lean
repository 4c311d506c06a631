import PageComposer.Text.Blank

/-!
# Tags

A tag is two opening braces, a name of letters, digits, `_`, `-` and `/`, and two closing braces;
between the name and the closing braces may stand white space and then any text without braces.

`Tag.occurrences` finds the tags of a text from left to right, `Tag.all` lists the different ones in
order of first appearance.
-/

namespace PageComposer.Tag

def opening : Text := ['\x7b', '\x7b']

def closing : Text := ['\x7d', '\x7d']

def isNameChar (c : Char) : Bool := c.isAlphanum || c == '_' || c == '/' || c == '-'

def isBrace (c : Char) : Bool := c == '\x7b' || c == '\x7d'

/-- The end of a tag at the start of a text, behind the name: what may stand there and the closing
braces. -/
def clause? (s : Text) : Option Text :=
  let body := s.takeWhile (!isBrace ·)
  if closing.isPrefixOf (s.drop body.length) && (body.isEmpty || body.head?.any Text.isBlank) then
    some (body ++ closing)
  else none

def atStart? (s : Text) : Option Text :=
  if opening.isPrefixOf s then
    let rest := s.drop opening.length
    let name := rest.takeWhile isNameChar
    if name.isEmpty then none
    else (clause? (rest.drop name.length)).map fun clause => opening ++ name ++ clause
  else none

/-- The tags from here on, after `skip` characters of a tag already found. -/
def occurrencesFrom : Nat → Text → List Text
  | _, [] => []
  | skip + 1, _ :: rest => occurrencesFrom skip rest
  | 0, c :: rest =>
    match atStart? (c :: rest) with
    | some tag => tag :: occurrencesFrom (tag.length - 1) rest
    | none => occurrencesFrom 0 rest

def occurrences (s : Text) : List Text := occurrencesFrom 0 s

def all (s : Text) : List Text := (occurrences s).eraseDups

def occursIn (s : Text) : Bool := !(occurrences s).isEmpty

/-- What stands between the braces, without the white space around it. Missing braces are no fault. -/
def inner (tag : Text) : Text :=
  Text.trim Text.isBlank (Text.dropTail closing (Text.dropLead opening tag))

/-- Does the tag say more than a name: white space and an equals sign? -/
def hasClause (tag : Text) : Bool := (inner tag).any Text.isBlank && (inner tag).contains '='

end PageComposer.Tag

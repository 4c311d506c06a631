import PageComposer.Text.Width

/-!
# Wrapping

Laying a text out in lines of some columns. A line is broken between words; a word that is too long for a
line is cut off and ends in an ellipsis. Tabs go to the next multiple of eight columns.
-/

namespace PageComposer.Text

/-! ## Tabs -/

def tabWidth : Nat := 8

def joinTabbed (column : Nat) : List Text → Text
  | [] => []
  | [last] => last
  | part :: rest =>
    let stop := column + width (part ++ [' '])
    let next := (stop + tabWidth - 1) / tabWidth * tabWidth
    part ++ List.replicate (next - stop + 1) ' ' ++ joinTabbed next rest

def expandTabs (line : Text) : Text := joinTabbed 0 (line.splitOn '\t')

/-! ## Words -/

def wordLength (s : Text) : Nat :=
  let run := s.takeWhile (!isBlank ·)
  run.length + ((s.drop run.length).takeWhile isBlank).length

def wordsFrom : Nat → Text → List Text
  | 0, _ => []
  | room + 1, s =>
    let blanks := (s.takeWhile isBlank).length
    if s.length = blanks then []
    else
      let length := blanks + wordLength (s.drop blanks)
      s.take length :: wordsFrom room (s.drop length)

def words (s : Text) : List Text := wordsFrom s.length s

/-- The lengths of the lines of some columns that words make. `used` are the columns of the line so far,
`length` is its length. -/
def lineLengths (columns used length : Nat) : List Text → List Nat
  | [] => [length]
  | word :: rest =>
    let needed := width (dropEndWhile isBlank word)
    if used + needed ≤ columns then
      lineLengths columns (used + width word) (length + word.length) rest
    else if 0 < length ∧ (columns < needed ∨ 0 < used) then
      length :: lineLengths columns (width word) word.length rest
    else
      lineLengths columns (if columns < needed then width word else used) (length + word.length) rest

def breakAt : List Nat → Text → List Text
  | length :: next :: rest, s => s.take length :: breakAt (next :: rest) (s.drop length)
  | _, s => [s]

/-! ## Lines -/

def dropSurplus (columns : Nat) (s : Text) : Text :=
  let blanks := (s.reverse.takeWhile isBlank).length
  s.take (s.length - min blanks (s.length - columns))

def joinedLength : Text → Nat
  | [] => 0
  | c :: rest =>
    if c = joiner then
      match rest with
      | [] => 1
      | _ :: rest => joinedLength rest + 2
    else if charWidth c = 0 then joinedLength rest + 1
    else 0

def clustersFrom : Nat → Text → List Text
  | _, [] => []
  | skip + 1, _ :: rest => clustersFrom skip rest
  | 0, c :: rest =>
    let length := joinedLength rest
    (c :: rest.take length) :: clustersFrom length rest

/-- What goes into some columns. Half of a wide character is left blank. -/
def cropClusters (columns : Nat) : List Text → Text
  | [] => []
  | cluster :: rest =>
    if width cluster ≤ columns then cluster ++ cropClusters (columns - width cluster) rest
    else List.replicate columns ' '

def fit (columns : Nat) (s : Text) : Text :=
  if columns < width s then cropClusters (columns - 1) (clustersFrom 0 s) ++ ['…']
  else s ++ List.replicate (columns - width s) ' '

def wrapLine (columns : Nat) (line : Text) : List Text :=
  let line := expandTabs line
  (breakAt (lineLengths columns 0 0 (words line)) line).map fun piece => fit columns (dropSurplus columns piece)

def wrap (columns : Nat) (s : Text) : List Text := (s.splitOn '\n').flatMap (wrapLine columns)

end PageComposer.Text

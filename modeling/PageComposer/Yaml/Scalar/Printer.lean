import PageComposer.Number.Layout
import PageComposer.Text.Quoted
import PageComposer.Yaml.Kind

/-!
# Writing scalars

`Scalar.write` writes a text so that it is read as that text: plain where its form allows, between single
quotes where all its characters can stand there, else between double quotes with escapes. A line that has
grown beyond its width is broken at the next place where reading undoes the break.
-/

namespace PageComposer.Yaml.Scalar

def width : Nat := 80

def isPrintable (c : Char) : Bool := ' ' ≤ c && c ≤ '~'

def newLine (indent : Nat) : Text := '\n' :: List.replicate indent ' '

/-! ## Styles -/

def isMark (c : Char) : Bool := "#,[]\x7b\x7d&*!|>'\"%@\x60".toList.contains c

def startsWithBlankMark : Text → Bool
  | c :: rest => (c == '-' || c == '?') && rest.headD ' ' == ' '
  | [] => false

def hasInnerMark : Text → Bool
  | [] => false
  | c :: rest =>
    (c == ':' && rest.headD ' ' == ' ') || (c == ' ' && rest.head? == some '#') || hasInnerMark rest

def isPlain (s : Text) : Bool :=
  Kind.ofPlain s == .text && s.all isPrintable && s.head? != some ' ' && s.getLast? != some ' ' &&
    !(s.head?.any isMark || startsWithBlankMark s || hasInnerMark s) &&
    !("---".toList.isPrefixOf s || "...".toList.isPrefixOf s)

def hasBlankAtLineEnd : Text → Bool
  | [] => false
  | c :: rest =>
    (c == ' ' && rest.head? == some '\n') || (c == '\n' && rest.head? == some ' ') ||
      hasBlankAtLineEnd rest

def isSingle (s : Text) : Bool :=
  (s.all fun c => isPrintable c || c == '\n') && !hasBlankAtLineEnd s

/-! ## Plain scalars -/

/-- The text from a column on. A single space between words is where the line can be broken. -/
def plainFrom (indent column : Nat) (before : Char) : Text → Text
  | [] => []
  | c :: rest =>
    if c == ' ' && before != ' ' && rest.headD ' ' != ' ' && width < column then
      newLine indent ++ plainFrom indent indent c rest
    else c :: plainFrom indent (column + 1) c rest

/-! ## Single quotes -/

/-- The text from a column on, `before` being the character in front of it; a space stands for the quote.
Line ends are written once more than they count. -/
def singleFrom (indent column : Nat) (before : Char) : Text → Text
  | [] => []
  | c :: rest =>
    if c == '\'' then '\'' :: '\'' :: singleFrom indent (column + 2) c rest
    else if c == '\n' then
      (if before != '\n' then ['\n'] else []) ++
        (if rest.head? != some '\n' then newLine indent else ['\n']) ++ singleFrom indent indent c rest
    else if c == ' ' && before != ' ' && rest.headD ' ' != ' ' && width < column then
      newLine indent ++ singleFrom indent indent c rest
    else c :: singleFrom indent (column + 1) c rest

/-! ## Double quotes -/

def escapeLetter? : Char → Option Char
  | '\x00' => some '0'
  | '\x07' => some 'a'
  | '\x08' => some 'b'
  | '\t' => some 't'
  | '\n' => some 'n'
  | '\x0b' => some 'v'
  | '\x0c' => some 'f'
  | '\r' => some 'r'
  | '\x1b' => some 'e'
  | '"' => some '"'
  | '\\' => some '\\'
  | '\x85' => some 'N'
  | '\xa0' => some '_'
  | '\u2028' => some 'L'
  | '\u2029' => some 'P'
  | _ => none

def escape (c : Char) : Text :=
  match escapeLetter? c with
  | some letter => ['\\', letter]
  | none => Text.escapeCode true c

def isEscaped (c : Char) : Bool := !isPrintable c || c == '"' || c == '\\'

/-- A broken line: a backslash ends it, and one more keeps a space that begins the next line. -/
def continued (indent : Nat) (next : Char) : Text :=
  '\\' :: newLine indent ++ if next == ' ' then ['\\'] else []

def continuedColumn (indent : Nat) (next : Char) : Nat := if next == ' ' then indent + 1 else indent

/-- The text from a column on. The line can be broken in front of a space and around an escape, but not
next to a quote. `afterEscape` tells that an escape or the line's beginning is in front. -/
def doubleFrom (indent column : Nat) (first afterEscape : Bool) : Text → Text
  | [] => []
  | c :: rest =>
    if isEscaped c then
      let column := column + (escape c).length
      if !first && !rest.isEmpty && width + 1 < column then
        let next := rest.headD '"'
        escape c ++ continued indent next ++
          doubleFrom indent (continuedColumn indent next) false true rest
      else escape c ++ doubleFrom indent column false true rest
    else if !first && !rest.isEmpty && (c == ' ' || afterEscape) && width < column then
      continued indent c ++ c :: doubleFrom indent (continuedColumn indent c + 1) false false rest
    else c :: doubleFrom indent (column + 1) false false rest

/-! ## Scalars -/

def write (indent column : Nat) (s : Text) : Text :=
  if isPlain s then plainFrom indent column ' ' s
  else if isSingle s then '\'' :: singleFrom indent (column + 1) ' ' s ++ ['\'']
  else '"' :: doubleFrom indent (column + 1) true false s ++ ['"']

def numberLayout : Layout where
  positionalFrom := -4
  positionalBelow := 16
  wholePoint := true
  mantissaPoint := true
  exponentWidth := 2
  notANumber := ".nan".toList
  infinite := ".inf".toList

def writeFlag (b : Bool) : Text := if b then "true".toList else "false".toList

end PageComposer.Yaml.Scalar

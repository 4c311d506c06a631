import PageComposer.Fault
import PageComposer.Settings
import PageComposer.Text.Blank

/-!
# Reading settings from values

`Settings.ofEntries` reads a mapping of names to values. Names that are no settings are passed over, and
what is not given keeps its default. Values are read leniently: a flag may be written as 0 or 1 or as one
of a few words, a number as a text. Everything that cannot be read is reported as an issue.
-/

namespace PageComposer

namespace Settings

def trueWords : List Text := ["1", "on", "t", "true", "y", "yes"].map String.toList

def falseWords : List Text := ["0", "off", "f", "false", "n", "no"].map String.toList

def flagOfText (s : Text) : Except IssueKind Bool :=
  let word := s.map Char.toLower
  if trueWords.contains word then .ok true
  else if falseWords.contains word then .ok false
  else .error .flagText

def wordBound : Int := (Nat.pow 2 63 : Nat)

/-- Whole numbers of 64 bits are read as numbers of a flag; of these only 0 and 1 are flags. -/
def flagOfInt (n : Int) : Except IssueKind Bool :=
  if n = 0 then .ok false
  else if n = 1 then .ok true
  else if -wordBound ≤ n ∧ n < wordBound then .error .flagText
  else .error .flagType

/-- A whole number strictly between the ends of the 64-bit range is read as an integer. -/
def flagOfNumber (x : Binary64) : Except IssueKind Bool :=
  if x.isWhole && x.truncate.natAbs < Nat.pow 2 63 then flagOfInt x.truncate else .error .flagType

def textOfBytes (octets : List UInt8) (kind : IssueKind) : Except IssueKind Text :=
  match Utf8.decode octets with
  | .ok s => .ok s
  | .error _ => .error kind

def readFlag : Value → Except IssueKind Bool
  | .flag b => .ok b
  | .integer n => flagOfInt n
  | .number x => flagOfNumber x
  | .text s => flagOfText s
  | .illFormed => .error .textEncoding
  | .bytes octets => textOfBytes octets .flagText >>= flagOfText
  | _ => .error .flagType

def isSpace (c : Char) : Bool := Text.isBlank c && !(0x1C ≤ c.toNat && c.toNat ≤ 0x1F)

def numberOfWord? (s : Text) : Option Binary64 :=
  let (negative, unsigned) := Numeral.sign s
  let word := unsigned.map Char.toLower
  if word = "inf".toList ∨ word = "infinity".toList then some (.infinity negative)
  else if word = "nan".toList then some .nan
  else Numeral.decimal? s

/-- The text without its underscores, if each of them stands between two other characters. -/
def withoutUnderscores? (s : Text) : Option Text :=
  if (s.splitOn '_').any List.isEmpty then none else some (s.filter (· != '_'))

/-- A number with blanks around it, or one without blanks whose digits are grouped by underscores. -/
def numberOfText (s : Text) : Except IssueKind Binary64 :=
  match numberOfWord? (Text.trim isSpace s) <|> (withoutUnderscores? s).bind numberOfWord? with
  | some x => .ok x
  | none => .error .numberText

def numberOfInt (n : Int) : Except IssueKind Binary64 :=
  let x := Binary64.ofInt n
  if x.isFinite then .ok x else .error .numberType

def readNumber : Value → Except IssueKind Binary64
  | .flag b => numberOfInt (if b then 1 else 0)
  | .integer n => numberOfInt n
  | .number x => .ok x
  | .text s => numberOfText s
  | .illFormed => .error .textEncoding
  | .bytes octets => textOfBytes octets .numberText >>= numberOfText
  | _ => .error .numberType

def readInterval (v : Value) : Except IssueKind Binary64 := do
  let x ← readNumber v
  if x.isPositive then pure x else throw .notPositive

def readText : Value → Except IssueKind Text
  | .text s => .ok s
  | .illFormed => .error .textEncoding
  | .bytes octets => textOfBytes octets .textEncoding
  | _ => .error .textType

/-! ## Mappings -/

def given? (entries : List (Value × Value)) (name : Text) : Option Value :=
  (entries.reverse.find? fun e =>
    match e.1 with
    | .text s => s == name
    | _ => false).map (·.2)

def field {α : Type} (entries : List (Value × Value)) (location name : Text)
    (read : Value → Except IssueKind α) (otherwise : α) : α × List Issue :=
  match given? entries name with
  | none => (otherwise, [])
  | some v =>
    match read v with
    | .ok a => (a, [])
    | .error kind => (otherwise, [⟨location ++ name, kind⟩])

def directoriesOf (entries : List (Value × Value)) : Directories × List Issue :=
  let text (name : Text) (otherwise : Text) :=
    field entries "directories.".toList name readText otherwise
  let (components, a) := text "components".toList Directories.default.components
  let (pages, b) := text "pages".toList Directories.default.pages
  let (assets, c) := text "assets".toList Directories.default.assets
  let (output, d) := text "output".toList Directories.default.output
  (⟨components, pages, assets, output⟩, a ++ b ++ c ++ d)

def readDirectories (entries : List (Value × Value)) : Directories × List Issue :=
  match given? entries "directories".toList with
  | none => (.default, [])
  | some (.map inner) => directoriesOf inner
  | some _ => (.default, [⟨"directories".toList, .directoriesType⟩])

def ofEntries (entries : List (Value × Value)) : Except (List Issue) Settings :=
  let (directories, a) := readDirectories entries
  let (watch, b) := field entries [] "watch".toList readFlag default.watch
  let (verbose, c) := field entries [] "verbose".toList readFlag default.verbose
  let (interval, d) := field entries [] "watch_interval".toList readInterval default.interval
  match a ++ b ++ c ++ d with
  | [] => .ok ⟨directories, watch, verbose, interval⟩
  | issues => .error issues

end Settings
end PageComposer

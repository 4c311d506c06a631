import PageComposer.Yaml.Moment

/-!
# Kinds

What a node of a document stands for. A tag states the kind; the kind of a plain scalar without a tag is
seen from its form.
-/

namespace PageComposer.Yaml

inductive Kind where
  | null
  | flag
  | integer
  | number
  | bytes
  | moment
  | text
  | sequence
  | mapping
  | set
  | pairs
  | orderedMapping
  | merge
  /-- A key whose value stands for the mapping itself. -/
  | standIn
  | unknown
  deriving DecidableEq

namespace Kind

def isScalar : Kind → Bool
  | null | flag | integer | number | bytes | moment | text => true
  | _ => false

def isCollection : Kind → Bool
  | sequence | mapping | set | pairs | orderedMapping => true
  | _ => false

/-! ## Forms of plain scalars -/

def flagWords : List Text :=
  ["yes", "Yes", "YES", "no", "No", "NO", "true", "True", "TRUE", "false", "False", "FALSE", "on", "On",
   "ON", "off", "Off", "OFF"].map String.toList

def nullWords : List Text := ["", "~", "null", "Null", "NULL"].map String.toList

def isDigitOrLow (c : Char) : Bool := c.isDigit || c == '_'

def isExponent : Text → Bool
  | [] => true
  | e :: sign :: digits => (e == 'e' || e == 'E') && (sign == '+' || sign == '-') && Numeral.isDigits digits
  | _ => false

def isSixtieth : Text → Bool
  | [c] => c.isDigit
  | [c, d] => '0' ≤ c && c ≤ '5' && d.isDigit
  | _ => false

/-- Digits before a point, and perhaps an exponent; the number has its sign cut off. -/
def isPointed (s : Text) : Bool :=
  match s.dropWhile isDigitOrLow with
  | '.' :: rest => (s.headD ' ').isDigit && isExponent (rest.dropWhile isDigitOrLow)
  | _ => false

def isFraction (s : Text) : Bool :=
  match s with
  | '.' :: c :: rest => c.isDigit && isExponent (rest.dropWhile isDigitOrLow)
  | _ => false

def isPointedSixties (s : Text) : Bool :=
  match s.splitOn ':' with
  | first :: group :: groups =>
    let groups := group :: groups
    let last := groups.getLastD []
    (first.headD ' ').isDigit && first.all isDigitOrLow && groups.dropLast.all isSixtieth &&
      isSixtieth (last.takeWhile (· != '.')) && last.contains '.' &&
      ((last.dropWhile (· != '.')).drop 1).all isDigitOrLow
  | _ => false

def isNumber (s : Text) : Bool :=
  let unsigned := (Numeral.sign s).2
  isPointed unsigned || isFraction s || isPointedSixties unsigned ||
    [".inf", ".Inf", ".INF"].any (unsigned = ·.toList) || [".nan", ".NaN", ".NAN"].any (s = ·.toList)

def isSixties (s : Text) : Bool :=
  match s.splitOn ':' with
  | first :: group :: groups =>
    (first.headD '0').isDigit && first.headD '0' != '0' && first.all isDigitOrLow &&
      (group :: groups).all isSixtieth
  | _ => false

def isDecimal (s : Text) : Bool :=
  s == ['0'] || ((s.headD '0').isDigit && s.headD '0' != '0' && s.all isDigitOrLow)

def isBased (mark : String) (isBaseDigit : Char → Bool) (s : Text) : Bool :=
  mark.toList.isPrefixOf s && mark.length < s.length &&
    (s.drop mark.length).all fun c => isBaseDigit c || c == '_'

def isInteger (s : Text) : Bool :=
  let s := (Numeral.sign s).2
  isBased "0b" (fun c => c == '0' || c == '1') s || isBased "0" (fun c => '0' ≤ c && c ≤ '7') s ||
    isDecimal s || isBased "0x" (fun c => c.isDigit || ('a' ≤ c && c ≤ 'f') || ('A' ≤ c && c ≤ 'F')) s ||
    isSixties s

/-- A date alone has all its digits; with a time they can be fewer. -/
def isMoment (s : Text) : Bool :=
  match Moment.ofText? s with
  | some m => m.time.isSome || s.length == 10
  | none => false

def ofForm (s : Text) : Kind :=
  if flagWords.contains s then flag
  else if isNumber s then number
  else if isInteger s then integer
  else if s = "<<".toList then merge
  else if nullWords.contains s then null
  else if isMoment s then moment
  else if s = ['='] then standIn
  else if [['!'], ['&'], ['*']].contains s then unknown
  else text

/-- The kind of a plain scalar. A line end behind it does not count. -/
def ofPlain (s : Text) : Kind :=
  if s = ['\n'] then text else ofForm (Text.dropTail ['\n'] s)

/-! ## Tags -/

def byTag : List (Text × Kind) :=
  [("null", null), ("bool", flag), ("int", integer), ("float", number), ("binary", bytes),
   ("timestamp", moment), ("omap", orderedMapping), ("pairs", pairs), ("set", set), ("str", text),
   ("seq", sequence), ("map", mapping), ("merge", merge), ("value", standIn)].map
    fun e => ("tag:yaml.org,2002:".toList ++ e.1.toList, e.2)

def ofTag (tag : Text) : Kind := (byTag.lookup tag).getD unknown

end Kind
end PageComposer.Yaml

import PageComposer.Yaml.Cursor

/-!
# Dates and times

A date is `year-month-day`; a time may follow, and a time zone. `Moment.ofText?` reads the form,
`Moment.isValid` says whether there is such a moment.
-/

namespace PageComposer.Yaml

structure TimeOfDay where
  hour : Nat
  minute : Nat
  second : Nat
  /-- The distance to universal time in minutes, either way. -/
  zone : Nat

structure Moment where
  year : Nat
  month : Nat
  day : Nat
  time : Option TimeOfDay

namespace Moment

def digits? (least most : Nat) (s : Text) : Option (Nat × Text) :=
  let ds := (s.take most).takeWhile Char.isDigit
  if ds.length < least then none else some (Numeral.value ds, s.drop ds.length)

def expect? (c : Char) (s : Text) : Option Text :=
  match s with
  | d :: rest => if d = c then some rest else none
  | [] => none

def skipBlanks (s : Text) : Text := s.dropWhile fun c => c == ' ' || c == '\t'

def separator? (s : Text) : Option Text :=
  match s with
  | 'T' :: rest => some rest
  | 't' :: rest => some rest
  | ' ' :: rest => some (skipBlanks rest)
  | '\t' :: rest => some (skipBlanks rest)
  | _ => none

/-- A time zone at the end: nothing, `Z`, or a sign, hours and perhaps minutes. -/
def zone? (s : Text) : Option Nat :=
  match skipBlanks s with
  | [] => if s.isEmpty then some 0 else none
  | ['Z'] => some 0
  | c :: rest =>
    if c == '+' || c == '-' then do
      let (hours, rest) ← digits? 1 2 rest
      if rest.isEmpty then return hours * 60
      let (minutes, rest) ← digits? 2 2 (← expect? ':' rest)
      if rest.isEmpty then return hours * 60 + minutes else none
    else none

def time? (s : Text) : Option TimeOfDay := do
  let (hour, s) ← digits? 1 2 s
  let (minute, s) ← digits? 2 2 (← expect? ':' s)
  let (second, s) ← digits? 2 2 (← expect? ':' s)
  let s := match s with
    | '.' :: rest => rest.dropWhile Char.isDigit
    | _ => s
  return ⟨hour, minute, second, ← zone? s⟩

def ofText? (s : Text) : Option Moment := do
  let (year, s) ← digits? 4 4 s
  let (month, s) ← digits? 1 2 (← expect? '-' s)
  let (day, s) ← digits? 1 2 (← expect? '-' s)
  if s.isEmpty then return ⟨year, month, day, none⟩
  return ⟨year, month, day, some (← time? (← separator? s))⟩

/-! ## Validity -/

def isLeap (year : Nat) : Bool := year % 4 == 0 && (year % 100 != 0 || year % 400 == 0)

def daysIn (year month : Nat) : Nat :=
  if month = 2 then (if isLeap year then 29 else 28)
  else if [4, 6, 9, 11].contains month then 30 else 31

def TimeOfDay.isValid (t : TimeOfDay) : Bool :=
  t.hour < 24 && t.minute < 60 && t.second < 60 && t.zone < 24 * 60

def isValid (m : Moment) : Bool :=
  1 ≤ m.year && 1 ≤ m.month && m.month ≤ 12 && 1 ≤ m.day && m.day ≤ daysIn m.year m.month &&
    m.time.all TimeOfDay.isValid

end Moment
end PageComposer.Yaml

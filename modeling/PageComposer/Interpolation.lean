import PageComposer.Property

/-!
# Interpolation

A token `${key}` in a text is replaced by the value of the property. The keys are tried from the
longest to the shortest, so that a key which holds a closing brace is not cut short. Substituted values
are not scanned again, and tokens of unknown keys stay.
-/

namespace PageComposer

def Property.token (key : Text) : Text := '$' :: '\x7b' :: key ++ ['\x7d']

namespace Interpolation

def insertByLength (entry : Text × Value) : List (Text × Value) → List (Text × Value)
  | [] => [entry]
  | e :: rest =>
    if e.1.length < entry.1.length then entry :: e :: rest else e :: insertByLength entry rest

def longestFirst (props : Properties) : List (Text × Value) :=
  props.entries.foldl (fun sorted entry => insertByLength entry sorted) []

def replaceFrom (entries : List (Text × Value)) : Nat → Text → Text
  | _, [] => []
  | skip + 1, _ :: rest => replaceFrom entries skip rest
  | 0, c :: rest =>
    match entries.find? fun e => (Property.token e.1).isPrefixOf (c :: rest) with
    | some (key, value) =>
      value.onPage ++ replaceFrom entries ((Property.token key).length - 1) rest
    | none => c :: replaceFrom entries 0 rest

end Interpolation

def interpolate (props : Properties) (s : Text) : Text :=
  Interpolation.replaceFrom (Interpolation.longestFirst props) 0 s

end PageComposer

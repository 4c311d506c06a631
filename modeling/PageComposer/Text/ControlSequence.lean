import PageComposer.Text

/-!
# Control sequences

What is printed for people can hold sequences that steer a terminal: an escape character and a bracket,
parameters, and a letter. Where no terminal reads along they are left out.
-/

namespace PageComposer.Text

def isParameter (c : Char) : Bool := c.isDigit || c == ';' || c == '?'

def sequenceLength? : Text → Option Nat
  | '\x1b' :: '[' :: rest =>
    let parameters := rest.takeWhile isParameter
    if (rest.drop parameters.length).head?.any Char.isAlpha then some (parameters.length + 3) else none
  | _ => none

def withoutSequencesFrom : Nat → Text → Text
  | _, [] => []
  | skip + 1, _ :: rest => withoutSequencesFrom skip rest
  | 0, c :: rest =>
    match sequenceLength? (c :: rest) with
    | some length => withoutSequencesFrom (length - 1) rest
    | none => c :: withoutSequencesFrom 0 rest

/-- The text without its control sequences. Pieces of one that meet where another was left out stay. -/
def withoutSequences (s : Text) : Text := withoutSequencesFrom 0 s

end PageComposer.Text

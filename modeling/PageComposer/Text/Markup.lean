import PageComposer.Text.Emoji

/-!
# Style marks

A text that is shown in a table can hold style marks in brackets, which begin with a lower-case letter, `#`
or `@` and are not shown themselves. A backslash before a bracket keeps it. Between the marks emoji can be
named, and some control characters are left out.
-/

namespace PageComposer.Text

def markLength? : Text → Option Nat
  | '[' :: c :: rest =>
    if ('a' ≤ c ∧ c ≤ 'z') ∨ c = '#' ∨ c = '@' then
      let inner := rest.takeWhile fun c => c != ']' && c != '['
      match rest.drop inner.length with
      | ']' :: _ => some (inner.length + 3)
      | _ => none
    else none
  | _ => none

def extendFirst (c : Char) : List Text → List Text
  | [] => [[c]]
  | piece :: rest => (c :: piece) :: rest

def piecesFrom : Nat → Text → List Text
  | _, [] => []
  | skip + 1, _ :: rest => piecesFrom skip rest
  | 0, c :: rest =>
    let slashes := ((c :: rest).takeWhile (· == '\\')).length
    let behind := (c :: rest).drop slashes
    match markLength? behind with
    | some length =>
      let kept := if slashes % 2 = 1 then behind.take length else []
      [] :: List.replicate (slashes / 2) '\\' :: kept :: piecesFrom (slashes + length - 1) rest
    | none => if c = '\\' ∧ rest.head? = some '[' then piecesFrom 0 rest
      else extendFirst c (piecesFrom 0 rest)

def isMovement (c : Char) : Bool := ['\x07', '\x08', '\x0b', '\x0c', '\x0d'].contains c

def shown (s : Text) : Text := (piecesFrom 0 s).flatMap fun piece => (Emoji.replace piece).filter (!isMovement ·)

end PageComposer.Text

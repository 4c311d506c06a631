/-!
# Texts

A text is a list of characters. This module holds the operations on texts that the rest of the
library shares: trimming, cutting off a fixed beginning or end, joining, replacing, decimal numerals.
-/

namespace PageComposer

abbrev Text := List Char

namespace Text

def dropEndWhile (p : Char → Bool) (s : Text) : Text := (s.reverse.dropWhile p).reverse

def trim (p : Char → Bool) (s : Text) : Text := dropEndWhile p (s.dropWhile p)

def dropLead (lead s : Text) : Text := if lead.isPrefixOf s then s.drop lead.length else s

def dropTail (tail s : Text) : Text :=
  if tail.isSuffixOf s then s.take (s.length - tail.length) else s

def join (sep : Text) : List Text → Text
  | [] => []
  | [s] => s
  | s :: rest => s ++ sep ++ join sep rest

def replaceFrom (old new : Text) : Nat → Text → Text
  | _, [] => []
  | skip + 1, _ :: rest => replaceFrom old new skip rest
  | 0, c :: rest =>
    if old.isPrefixOf (c :: rest) then new ++ replaceFrom old new (old.length - 1) rest
    else c :: replaceFrom old new 0 rest

def replace (old new s : Text) : Text := replaceFrom old new 0 s

def splitLast? (c : Char) (s : Text) : Option (Text × Text) :=
  match s.reverse.dropWhile (· != c) with
  | [] => none
  | _ :: lead => some (lead.reverse, (s.reverse.takeWhile (· != c)).reverse)

def ofNat (n : Nat) : Text := Nat.toDigits 10 n

def ofInt : Int → Text
  | .ofNat n => ofNat n
  | .negSucc n => '-' :: ofNat (n + 1)

def padLeft (width : Nat) (c : Char) (s : Text) : Text := List.replicate (width - s.length) c ++ s

/-- Order of texts by their characters' code points, a beginning before what it begins. -/
def le : Text → Text → Bool
  | [], _ => true
  | _ :: _, [] => false
  | a :: s, b :: t => if a = b then le s t else a.toNat < b.toNat

end Text

/-- Puts a text into a sorted list, behind its equals. -/
def Text.insertSorted (s : Text) : List Text → List Text
  | [] => [s]
  | t :: rest => if Text.le t s then t :: Text.insertSorted s rest else s :: t :: rest

def Text.sort (texts : List Text) : List Text := texts.foldr Text.insertSorted []

end PageComposer

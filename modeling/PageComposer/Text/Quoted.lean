import PageComposer.Text.Printable

/-!
# Quoted texts

How a text is shown in a message that quotes it: between single quotes, or between double quotes if it
holds a single quote and no double one, with escapes for the quote in use, the backslash, line breaks,
tabs and every character that is not printable.
-/

namespace PageComposer.Text

def hexDigit (upper : Bool) (n : Nat) : Char :=
  if n < 10 then Char.ofNat (0x30 + n) else Char.ofNat ((if upper then 0x37 else 0x57) + n)

def hex (upper : Bool) : Nat → Nat → Text
  | 0, _ => []
  | width + 1, n => hex upper width (n / 16) ++ [hexDigit upper (n % 16)]

def escapeCode (upper : Bool) (c : Char) : Text :=
  if c.toNat < 0x100 then "\\x".toList ++ hex upper 2 c.toNat
  else if c.toNat < 0x10000 then "\\u".toList ++ hex upper 4 c.toNat
  else "\\U".toList ++ hex upper 8 c.toNat

def quotedChar (quote c : Char) : Text :=
  if c = quote ∨ c = '\\' then ['\\', c]
  else if c = '\n' then "\\n".toList
  else if c = '\r' then "\\r".toList
  else if c = '\t' then "\\t".toList
  else if isPrintable c then [c]
  else escapeCode false c

def quoteFor (s : Text) : Char := if '\'' ∈ s ∧ '"' ∉ s then '"' else '\''

def quoted (s : Text) : Text := quoteFor s :: s.flatMap (quotedChar (quoteFor s)) ++ [quoteFor s]

end PageComposer.Text

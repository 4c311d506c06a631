import PageComposer.Text

/-!
# Tokens

What a document is made of: scalars, their properties, and the marks that structure it. The start and end
of a block and the keys of a mapping are tokens although indentation alone shows them.
-/

namespace PageComposer.Yaml

/-- The content of a scalar, unless an escape in it stands for a surrogate, which is no character. -/
abbrev Content := Option Text

inductive Directive where
  | version (major : Nat)
  | handle (name lead : Text)
  | unknown
  deriving DecidableEq

inductive Token where
  | streamEnd
  | directive (d : Directive)
  | documentStart
  | documentEnd
  | blockSequenceStart
  | blockMappingStart
  | blockEnd
  | flowSequenceStart
  | flowSequenceEnd
  | flowMappingStart
  | flowMappingEnd
  | blockEntry
  | flowEntry
  | key
  | value
  | reference (name : Text)
  | anchor (name : Text)
  | tag (handle : Option Text) (suffix : Text)
  | scalar (plain : Bool) (content : Content)
  deriving DecidableEq

end PageComposer.Yaml

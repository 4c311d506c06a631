import PageComposer.Yaml.Graph.Builder
import PageComposer.Yaml.Graph.Reader

/-!
# Documents

`Document.read` reads a source with at most one document as a value.
-/

namespace PageComposer.Yaml.Document

/-- The value of a source down to some levels. Collections further down are left empty, since a document
can contain itself. -/
def read (levels : Nat) (s : Source) : Result Value := do
  match ← Graph.ofTokens (Token.scan s) with
  | none => return .nothing
  | some g => g.value levels

end PageComposer.Yaml.Document

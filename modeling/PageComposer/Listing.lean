import PageComposer.Composer
import PageComposer.Table
import PageComposer.Text.Markup

/-!
# Listings

The components and the pages of a project, each with the names of the components that its tags refer to.
-/

namespace PageComposer.Listing

def references (s : Text) : Except NumeralTooLong (List Text) := do
  let found ← (Tag.all s).mapM Reference.ofTag
  return (found.map (·.name)).foldl (fun names n => if names.contains n then names else names ++ [n]) []

def referencesText (s : Text) : Except NumeralTooLong Text := do
  match ← references s with
  | [] => return ['-']
  | names => return Text.join ", ".toList names

def row (name kind s : Text) : Except NumeralTooLong (List Text) := do
  return [Text.shown name, kind, ← referencesText s]

def rows (kind : Text) (names : List Text) (find? : Text → Option Text) :
    Except NumeralTooLong (List (List Text)) :=
  (Text.sort names).mapM fun name => row name kind ((find? name).getD [])

def table (composer : Composer) : Except NumeralTooLong Table := do
  let registry := composer.registry
  let components ← rows "component".toList registry.names registry.find?
  let pages ← rows "page".toList composer.pageNames composer.pages.find?
  return ⟨["Name", "Kind", "References"].map String.toList, components ++ pages⟩

def text (composer : Composer) : Except NumeralTooLong Text :=
  if composer.registry.size = 0 ∧ composer.pages.size = 0 then
    .ok "No components or pages found\n".toList
  else (table composer).map Table.draw

end PageComposer.Listing

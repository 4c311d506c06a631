import PageComposer.Loading
import PageComposer.Settings

/-!
# Sites

Building a site: load the components and pages, make the output directory, compose all pages, and only
then write them and copy the assets. A page that cannot be composed leaves the output as it was.
-/

namespace PageComposer

structure BuildResult where
  components : List Text
  pages : List Text
  written : List Path
  assetsCopied : Nat
  deriving DecidableEq

namespace Site

def newSourcesRecord : Record :=
  ⟨.info, "No components directory found, creating new ones".toList⟩

def makeSources (components pages : Path) : Action Unit := do
  Files.ensureDirectory components
  Files.ensureDirectory pages
  Action.record newSourcesRecord

/-- Makes the source directories of a project that has no components yet. -/
def ensureSources (components pages : Path) : Action Unit := do
  if !(← Action.isPresent components) then makeSources components pages

def foundRecord (count : Nat) (what : Text) (directory : Path) : Record :=
  ⟨.info, "Found ".toList ++ Text.ofNat count ++ ' ' :: what ++ " in ".toList ++ directory.toText⟩

def load (components pages : Path) : Action Composer := do
  let (registry, loaded) ← Loading.loadComponents .empty components
  let _ ← Action.ofExcept loaded
  Action.record (foundRecord registry.size "components".toList components)
  let (composer, loaded) ← Loading.loadPages (.new registry Composer.defaultLimit) pages
  let _ ← Action.ofExcept loaded
  Action.record (foundRecord composer.pages.size "pages".toList pages)
  return composer

def prepare (settings : Settings) (root : Path) : Action Composer := do
  let components := settings.componentsIn root
  let pages := settings.pagesIn root
  ensureSources components pages
  load components pages

def compose (composer : Composer) (name : Option Text) (given : Option Text) : Action Text := do
  let (trace, outcome) := composer.compose Composer.stackRoom name given
  (trace.filterMap Event.record?).forM Action.record
  Action.ofExcept (outcome.mapError CompositionFault.toFailure)

def composeAll (composer : Composer) : List Text → Action (List (Text × Text))
  | [] => pure []
  | name :: rest => do
    let text ← compose composer (some name) none
    return (name, text) :: (← composeAll composer rest)

def writePage (output : Path) (name text : Text) : Action Path := do
  let p := output.append (Path.ofText (name ++ Loading.templateSuffix))
  Files.writeText p text
  Action.log .debug ("Wrote compiled page: ".toList ++ p.name)
  return p

def writePages (output : Path) : List (Text × Text) → Action (List Path)
  | [] => pure []
  | (name, text) :: rest => do
    let p ← writePage output name text
    return p :: (← writePages output rest)

def copyAssets (assets output : Path) : Action Nat := do
  if ← Action.isDirectory assets then
    Action.log .info "Copying assets...".toList
    let copied ← Files.copyTree assets output
    if copied ≠ [] then
      Action.log .info ("Copied ".toList ++ Text.ofNat copied.length ++ " asset files".toList)
    return copied.length
  else return 0

def publish (assets output : Path) (composed : List (Text × Text)) : Action (List Path × Nat) := do
  let written ← writePages output composed
  let assetsCopied ← copyAssets assets output
  return (written, assetsCopied)

/-- What a build will publish: the composer and the composed pages. The output directory is there then. -/
def plan (settings : Settings) (root : Path) : Action (Composer × List (Text × Text)) := do
  let composer ← prepare settings root
  Files.ensureDirectory (settings.outputIn root)
  Action.log .info "Compiling pages...".toList
  return (composer, ← composeAll composer composer.pageNames)

def build (settings : Settings) (root : Path) : Action BuildResult := do
  let (composer, composed) ← plan settings root
  let (written, assetsCopied) ← publish (settings.assetsIn root) (settings.outputIn root) composed
  return ⟨composer.registry.names, composed.map (·.1), written, assetsCopied⟩

end Site
end PageComposer

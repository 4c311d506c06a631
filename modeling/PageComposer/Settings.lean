import PageComposer.Path
import PageComposer.Value

/-!
# Settings

Where a project keeps its components, pages and assets, where its output goes, and how it is built and
watched. `Settings.default` holds what applies where nothing else is said.
-/

namespace PageComposer

structure Directories where
  components : Text
  pages : Text
  assets : Text
  output : Text
  deriving DecidableEq

structure Settings where
  directories : Directories
  watch : Bool
  verbose : Bool
  interval : Binary64
  deriving DecidableEq

namespace Directories

def default : Directories where
  components := "src/components/".toList
  pages := "src/pages/".toList
  assets := "src/assets/".toList
  output := "public/".toList

def entries (d : Directories) : List (Text × Text) :=
  [("components".toList, d.components), ("pages".toList, d.pages), ("assets".toList, d.assets),
   ("output".toList, d.output)]

end Directories

namespace Settings

def defaultInterval : Binary64 := ⟨false, 1022 * Nat.pow 2 52⟩

def default : Settings := ⟨.default, false, false, defaultInterval⟩

def entries (s : Settings) : List (Text × Value) :=
  [("directories".toList, .map (s.directories.entries.map fun e => (.text e.1, .text e.2))),
   ("watch".toList, .flag s.watch),
   ("verbose".toList, .flag s.verbose),
   ("watch_interval".toList, .number s.interval)]

def toValue (s : Settings) : Value := .map (s.entries.map fun e => (.text e.1, e.2))

def lookup (s : Settings) (key : Text) : Option Value :=
  match key.splitOn '.' with
  | [name] => s.entries.lookup name
  | [group, name] =>
    if group = "directories".toList then (s.directories.entries.lookup name).map .text else none
  | _ => none

def directory? (s : Settings) (name : Text) (root : Path) : Option Path :=
  (s.directories.entries.lookup name).map fun d => root.append (Path.ofText d)

def componentsIn (s : Settings) (root : Path) : Path := root.append (Path.ofText s.directories.components)

def pagesIn (s : Settings) (root : Path) : Path := root.append (Path.ofText s.directories.pages)

def assetsIn (s : Settings) (root : Path) : Path := root.append (Path.ofText s.directories.assets)

def outputIn (s : Settings) (root : Path) : Path := root.append (Path.ofText s.directories.output)

end Settings
end PageComposer

import PageComposer.Settings.Store

/-!
# Scaffold

A new project: its settings, the directories for sources, a first component and a first page. What is there
already stays, the settings excepted.
-/

namespace PageComposer.Scaffold

def componentText : Text := "<button class=\"btn\">$\x7btext\x7d</button>\n".toList

def pageText : Text :=
  "<!DOCTYPE html>\n<html>\n<body>\n  \x7b\x7bui/Button text=\"Hello\"\x7d\x7d\n</body>\n</html>\n".toList

def settingsPath (root : Path) : Path := root.child "tessel.yaml".toList

def writeMissing (p : Path) (s : Text) : Action Unit := do
  if !(← Action.isPresent p) then
    Files.ensureDirectory p.parent
    Files.writeText p s

def make (root : Path) : Action Unit := do
  let settings := Settings.default
  settings.save (settingsPath root)
  Files.ensureDirectory (settings.componentsIn root)
  Files.ensureDirectory (settings.pagesIn root)
  Files.ensureDirectory (settings.assetsIn root)
  writeMissing (((settings.componentsIn root).child "ui".toList).child "Button.html".toList) componentText
  writeMissing ((settings.pagesIn root).child "index.html".toList) pageText

end PageComposer.Scaffold

import PageComposer.Settings
import PageComposer.Yaml.Scalar.Printer

/-!
# Writing settings

`Settings.write` writes settings as a document: one entry a line, those of the directories indented.
-/

namespace PageComposer

open Yaml

def Directories.writeEntry (name content : Text) : Text :=
  let lead := "  ".toList ++ name ++ ": ".toList
  lead ++ Scalar.write 4 lead.length content ++ ['\n']

def Directories.write (d : Directories) : Text :=
  "directories:\n".toList ++ d.entries.flatMap fun (name, content) => writeEntry name content

def Settings.write (s : Settings) : Text :=
  s.directories.write ++
    "watch: ".toList ++ Scalar.writeFlag s.watch ++
    "\nverbose: ".toList ++ Scalar.writeFlag s.verbose ++
    "\nwatch_interval: ".toList ++ Scalar.numberLayout.write s.interval ++ ['\n']

end PageComposer

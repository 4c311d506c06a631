import PageComposer.FileTree
import PageComposer.Number.Numeral
import PageComposer.Text.Utf8
import PageComposer.Value

/-!
# Faults

What can go wrong. A `Fault` is an error of the user's project or settings, reported with its message and
an exit code; a `Defect` is anything else that ends the work. `Fault.message` holds all wordings.
-/

namespace PageComposer

inductive FileAction where
  | access
  | read
  | write
  | list
  | make
  deriving DecidableEq

def FileAction.phrase : FileAction → Text
  | access => "access file".toList
  | read => "read file".toList
  | write => "write file".toList
  | list => "read directory".toList
  | make => "create directory".toList

inductive FileCause where
  | system (e : SystemError)
  | undecodable (fault : Utf8.Fault)
  | sameFile (source destination : Text)
  | denied (reason : Text)
  | unspecified (reason : Text)
  deriving DecidableEq

/-- The wording of a UTF-8 fault: the byte if it is one, the first and last position if there are more. -/
def Utf8.Fault.message (f : Utf8.Fault) : Text :=
  "'utf-8' codec can't decode ".toList ++
    (if f.length = 1 then
      "byte 0x".toList ++ Text.hex false 2 f.first ++ " in position ".toList ++ Text.ofNat f.start
    else
      "bytes in position ".toList ++ Text.ofNat f.start ++ '-' ::
        Text.ofNat (f.start + f.length - 1)) ++
    ": ".toList ++ f.reason.message

def FileCause.message : FileCause → Text
  | system e => e.message
  | undecodable fault => fault.message
  | sameFile source destination => source ++ " and ".toList ++ destination ++ " are the same file".toList
  | denied reason => if reason.isEmpty then "[Errno 1] ".toList else reason
  | unspecified reason => reason

inductive IssueKind where
  | flagType
  | flagText
  | numberType
  | numberText
  | notPositive
  | textType
  | textEncoding
  | directoriesType
  deriving DecidableEq

structure Issue where
  location : Text
  kind : IssueKind
  deriving DecidableEq

inductive SettingsFault where
  | missing (path : Text)
  | unreadable (path : Text) (e : SystemError)
  | malformed (path : Text)
  | notMapping (path : Text)
  | rejected (path : Text) (issues : List Issue)
  | described (message : Text)
  deriving DecidableEq

def SystemError.describe (e : SystemError) (path : Text) : Text :=
  "[Errno ".toList ++ Text.ofNat e.number ++ "] ".toList ++ e.message ++ ": ".toList ++ Text.quoted path

def SettingsFault.message : SettingsFault → Text
  | missing path => "Config file not found: ".toList ++ path
  | unreadable path e =>
    "Could not load config from ".toList ++ path ++ ": ".toList ++ e.describe path
  | malformed path => "Could not load config from ".toList ++ path
  | notMapping path => "Config file ".toList ++ path ++ " must contain a mapping".toList
  | rejected path _ => "Invalid config in ".toList ++ path
  | described message => message

inductive Fault where
  | general (message : Text) (exitCode : Int)
  | invalidName (name : Value)
  | invalidPath (path : Text)
  | componentNotFound (name : Value)
  | pageNotFound (name : Value)
  | unresolved (context : Text) (messages : List Text)
  | aborted (context : Text) (messages : List Text)
  | circular (context : Text) (path : List Text)
  | tooDeep (context : Text) (limit : Int)
  | settings (fault : SettingsFault)
  | file (action : FileAction) (path : Text) (cause : FileCause)

namespace Fault

def componentMessage (name : Text) : Text := "Component \"".toList ++ name ++ "\" not found".toList

def circularMessage (path : List Text) : Text :=
  "Circular component reference: ".toList ++ Text.join " -> ".toList path

def tooDeepMessage (context : Text) (limit : Int) : Text :=
  "Maximum nesting depth (".toList ++ Text.ofInt limit ++ ") exceeded in \"".toList ++ context ++ ['"']

def compositionMessage (context : Text) (messages : List Text) : Text :=
  "Failed to compile \"".toList ++ context ++ "\":\n  - ".toList ++ Text.join "\n  - ".toList messages

def details : Fault → List Text
  | unresolved _ messages => messages
  | aborted _ messages => messages
  | circular _ path => [circularMessage path]
  | tooDeep context limit => [tooDeepMessage context limit]
  | _ => []

def message : Fault → Text
  | general message _ => message
  | invalidName name => "Invalid component name: ".toList ++ name.display
  | invalidPath path => "Invalid path: ".toList ++ path
  | componentNotFound name => componentMessage name.shown
  | pageNotFound name => "Page \"".toList ++ name.shown ++ "\" not found".toList
  | unresolved context messages => compositionMessage context messages
  | aborted context messages => compositionMessage context messages
  | circular context path => compositionMessage context [circularMessage path]
  | tooDeep context limit => compositionMessage context [tooDeepMessage context limit]
  | settings fault => fault.message
  | file action path cause =>
    "Failed to ".toList ++ action.phrase ++ " \"".toList ++ path ++ "\": ".toList ++ cause.message

/-- Settings that cannot be had end the program with 2, other faults with 1 unless they say otherwise. -/
def exitCode : Fault → Int
  | general _ code => code
  | settings _ => 2
  | _ => 1

end Fault

inductive ScalarDefect where
  | badNumeral
  | badMoment
  | noMoment
  | badFlag
  | noSign
  | badCharacter
  | overflow
  | momentOfCollection
  deriving DecidableEq

/-- What ends the work without being an error of the user's project. -/
inductive Defect where
  | numeral (e : NumeralTooLong)
  | unwritable
  | embeddedNull
  | undecodable (fault : Utf8.Fault)
  | unnamedSetting
  | unknownDirectory
  | notBelow
  | nestedTooDeep
  | system (e : SystemError) (path : Text)
  | scalar (e : ScalarDefect)
  | described (message : Text)
  deriving DecidableEq

/-- The wording for a whole number beyond the limit of digits; a numeral that was read tells how many it has. -/
def digitsMessage (told : Text) : Text :=
  "Exceeds the limit (".toList ++ Text.ofNat Numeral.digitLimit ++
    " digits) for integer string conversion".toList ++ told ++
    "; use sys.set_int_max_str_digits() to increase the limit".toList

def NumeralTooLong.message (e : NumeralTooLong) : Text :=
  digitsMessage (": value has ".toList ++ Text.ofNat e.digits ++ " digits".toList)

def Defect.message : Defect → Text
  | numeral e => e.message
  | unwritable => digitsMessage []
  | embeddedNull => "embedded null byte".toList
  | undecodable fault => fault.message
  | unnamedSetting => "keywords must be strings".toList
  | unknownDirectory => "unknown directory".toList
  | notBelow => "not below the base directory".toList
  | nestedTooDeep => "maximum recursion depth exceeded".toList
  | system e path => e.describe path
  | scalar _ => "invalid scalar".toList
  | described message => message

inductive Failure where
  | fault (f : Fault)
  | defect (d : Defect)

def Fault.name? : Fault → Option Value
  | invalidName name => some name
  | componentNotFound name => some name
  | pageNotFound name => some name
  | _ => none

def Value.Obstacle.defect : Obstacle → Defect
  | digits => .unwritable
  | nesting => .nestedTooDeep

/-- A fault is raised together with its message, which fails where the name in it cannot be written. -/
def Fault.raise (f : Fault) : Failure :=
  match f.name?.bind (·.obstacle? Value.messageRoom) with
  | none => .fault f
  | some obstacle => .defect obstacle.defect

end PageComposer

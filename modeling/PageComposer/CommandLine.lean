import PageComposer.Path

/-!
# Command line

What the arguments of the program ask for. `Request.ofArguments` reads them: options of the program, the
name of a command, and its options and operands. Options have a long name and perhaps a letter; letters can
stand together behind one mark, and a value can stand behind its option or be attached to it. Two marks
alone end the options. Arguments that follow no such form are a usage error.
-/

namespace PageComposer

inductive Command where
  | build (settings : Option Path) (watch : Bool)
  | watch (settings : Option Path)
  | compose (page : Text) (settings : Option Path)
  | list (settings : Option Path)
  | init (force : Bool)

structure Invocation where
  verbose : Bool
  quiet : Bool
  command : Command

inductive Request where
  | version
  | help
  | run (invocation : Invocation)

namespace CommandLine

inductive Flag where
  | version
  | help
  | verbose
  | quiet
  | settings
  | watch
  | force
  deriving DecidableEq

structure Form where
  flag : Flag
  letter : Option Char
  long : Text
  takesValue : Bool

def helpForm : Form := ⟨.help, none, "--help".toList, false⟩

def programForms : List Form :=
  [⟨.version, some 'V', "--version".toList, false⟩, ⟨.verbose, some 'v', "--verbose".toList, false⟩,
   ⟨.quiet, some 'q', "--quiet".toList, false⟩, helpForm]

def settingsForm : Form := ⟨.settings, some 'c', "--config".toList, true⟩

def watchForm : Form := ⟨.watch, some 'w', "--watch".toList, false⟩

def forceForm : Form := ⟨.force, some 'f', "--force".toList, false⟩

abbrev Given := List (Flag × Text)

def has (given : Given) (flag : Flag) : Bool := given.any (·.1 == flag)

def value? (given : Given) (flag : Flag) : Option Text := given.reverse.lookup flag

/-! ## Options -/

/-- Letters behind one mark. The first that takes a value takes the rest of them or the next argument.
Gives the number of further arguments taken. -/
def letters (forms : List Form) (next : Option Text) : Text → Option (Given × Nat)
  | [] => some ([], 0)
  | c :: rest => do
    let form ← forms.find? (·.letter == some c)
    if form.takesValue then
      if rest.isEmpty then return ([(form.flag, ← next)], 1) else return ([(form.flag, rest)], 0)
    else
      let (more, taken) ← letters forms next rest
      return ((form.flag, []) :: more, taken)

def long (form : Form) (attached : Option Text) (next : Option Text) : Option (Given × Nat) :=
  match form.takesValue, attached with
  | true, some v => some ([(form.flag, v)], 0)
  | true, none => next.map fun v => ([(form.flag, v)], 1)
  | false, some _ => none
  | false, none => some ([(form.flag, [])], 0)

def options (forms : List Form) (argument : Text) (next : Option Text) : Option (Given × Nat) :=
  let name := argument.takeWhile (· != '=')
  let attached := if argument.contains '=' then some (argument.drop (name.length + 1)) else none
  match forms.find? (·.long == name) with
  | some form => long form attached next
  | none => if "--".toList.isPrefixOf argument then none else letters forms next (argument.drop 1)

def isOption : Text → Bool
  | '-' :: _ :: _ => true
  | _ => false

/-- The options and the operands of some arguments, after `skip` arguments that are taken as values. Where
options and operands are not `mixed`, the first operand ends the options. -/
def divide (forms : List Form) (mixed : Bool) : Nat → List Text → Option (Given × List Text)
  | _, [] => some ([], [])
  | skip + 1, _ :: rest => divide forms mixed skip rest
  | 0, argument :: rest =>
    if argument = "--".toList then some ([], rest)
    else if isOption argument then do
      let (given, taken) ← options forms argument rest.head?
      let (more, operands) ← divide forms mixed taken rest
      return (given ++ more, operands)
    else if mixed then do
      let (given, operands) ← divide forms mixed 0 rest
      return (given, argument :: operands)
    else some ([], argument :: rest)

/-! ## Commands -/

/-- Reads a command's arguments; a call for help comes before everything but a wrong option. -/
def command (forms : List Form) (arguments : List Text)
    (read : Given → List Text → Option Command) : Option (Option Command) := do
  let (given, operands) ← divide (helpForm :: forms) true 0 arguments
  if has given .help then return none
  return some (← read given operands)

def settingsPath (given : Given) : Option Path := (value? given .settings).map Path.ofText

/-- The command of a name with its arguments; nothing inside stands for a call for help. -/
def ofName (name : Text) (arguments : List Text) : Option (Option Command) :=
  if name = "build".toList then
    command [settingsForm, watchForm] arguments fun given operands =>
      if operands.isEmpty then some (.build (settingsPath given) (has given .watch)) else none
  else if name = "watch".toList then
    command [settingsForm] arguments fun given operands =>
      if operands.isEmpty then some (.watch (settingsPath given)) else none
  else if name = "compile".toList then
    command [settingsForm] arguments fun given operands =>
      match operands with
      | [page] => some (.compose page (settingsPath given))
      | _ => none
  else if name = "list".toList then
    command [settingsForm] arguments fun given operands =>
      if operands.isEmpty then some (.list (settingsPath given)) else none
  else if name = "init".toList then
    command [forceForm] arguments fun given operands =>
      if operands.isEmpty then some (.init (has given .force)) else none
  else none

/-- The version or help, whichever is asked for first; each comes before all else. -/
def notice? (given : Given) : Option Request :=
  (given.find? fun e => e.1 == .version || e.1 == .help).map fun e =>
    if e.1 == .version then .version else .help

/-- What is asked for by arguments without a command: options behind two marks can still ask for the
version or help. -/
def withoutCommand (arguments : List Text) : Option Request := do
  let (given, _) ← divide programForms false 0 arguments
  notice? given

end CommandLine

open CommandLine in
def Request.ofArguments (arguments : List Text) : Option Request := do
  let (given, operands) ← divide programForms false 0 arguments
  match notice? given, operands with
  | some request, _ => return request
  | none, [] => none
  | none, name :: rest =>
    match ofName name rest with
    | some none => return .help
    | some (some command) => return .run ⟨has given .verbose, has given .quiet, command⟩
    | none => withoutCommand (name :: rest)

end PageComposer

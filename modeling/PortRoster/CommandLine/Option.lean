import PortRoster.Kind
import PortRoster.Text.Numeral

/-! # Commands and options

The commands of the program, the options that it takes, and how each is spelled.

* `Command.ofName?_name`: the name of a command names it.
* `Place.ofLong?_long`: the long form of an option names it where it may stand. -/

namespace PortRoster.CommandLine

/-- The name of the program. -/
def programName : String := "portreg"

/-- The version of the program. -/
def version : String := "0.1.0"

/-- What the program is, in one line. -/
def programAbout : String := "Command-line port picker built on the portreg registry"

/-- A command of the program. -/
inductive Command where
  | list
  | select
  | resolve
  | completions
  deriving DecidableEq, Repr

namespace Command

/-- All commands, in the order in which help shows them. -/
def all : List Command := [list, select, resolve, completions]

/-- The name of a command. -/
def name : Command → String
  | list => "list"
  | select => "select"
  | resolve => "resolve"
  | completions => "completions"

/-- The command with exactly this name. -/
def ofName? (s : String) : Option Command := all.find? (·.name == s)

theorem ofName?_name (c : Command) : ofName? c.name = some c := by cases c <;> decide

end Command

/-- The name of the command that shows help pages. It takes the place of a command and stands
alone. -/
def helpName : String := "help"

/-- A shell that completions can be made for. -/
inductive Shell where
  | bash
  | elvish
  | fish
  | powershell
  | zsh
  deriving DecidableEq, Repr

namespace Shell

/-- All shells. -/
def all : List Shell := [bash, elvish, fish, powershell, zsh]

/-- The name of a shell. -/
def name : Shell → String
  | bash => "bash"
  | elvish => "elvish"
  | fish => "fish"
  | powershell => "powershell"
  | zsh => "zsh"

/-- The shell with exactly this name. -/
def ofName? (s : String) : Option Shell := all.find? (·.name == s)

end Shell

/-- An option of the program. -/
inductive Opt where
  | config
  | lang
  | verbose
  | quiet
  | nonInteractive
  | kind
  | path
  | mac
  | uart
  | json
  deriving DecidableEq, Repr

namespace Opt

/-- The options that stand before or after a command. -/
def globals : List Opt :=
  [config, lang, verbose, quiet, nonInteractive, kind, path, mac, uart]

/-- The key of an option in the catalogue of messages. -/
def key : Opt → String
  | config => "config_path"
  | lang => "lang"
  | verbose => "verbose"
  | quiet => "quiet"
  | nonInteractive => "non_interactive"
  | kind => "kind"
  | path => "path"
  | mac => "mac"
  | uart => "uart"
  | json => "json"

/-- The long form, without its dashes. -/
def long : Opt → String
  | config => "config"
  | lang => "lang"
  | verbose => "verbose"
  | quiet => "quiet"
  | nonInteractive => "non-interactive"
  | kind => "kind"
  | path => "path"
  | mac => "mac"
  | uart => "uart"
  | json => "json"

/-- The short form, without its dash. -/
def short : Opt → Option Char
  | verbose => some 'v'
  | quiet => some 'q'
  | kind => some 'k'
  | path => some 'p'
  | config | lang | nonInteractive | mac | uart | json => none

/-- What help calls the value, for an option that takes one. -/
def valueName : Opt → Option String
  | config => some "PATH"
  | lang => some "LANG"
  | kind => some "KIND"
  | path => some "PATH"
  | mac => some "MAC"
  | uart => some "LINE"
  | verbose | quiet | nonInteractive | json => none

/-- The option takes a value. -/
def takesValue (o : Opt) : Bool := o.valueName.isSome

/-- The variable of the environment that stands in for a missing option. -/
def variableName? : Opt → Option String
  | config => some "PORTREG_CONFIG"
  | lang => some "PORTREG_LANG"
  | nonInteractive => some "PORTREG_NON_INTERACTIVE"
  | verbose | quiet | kind | path | mac | uart | json => none

end Opt

/-- The options of a command's own. -/
def Command.options : Command → List Opt
  | .list | .select | .resolve => [.json]
  | .completions => []

/-- The key of the argument that a command takes, in the catalogue of messages. -/
def Command.argument? : Command → Option String
  | .resolve => some "id"
  | .completions => some "shell"
  | .list | .select => none

/-- A place on the command line: before the command, or after it. -/
abbrev Place := Option Command

namespace Place

/-- The options that may stand in a place. -/
def options : Place → List Opt
  | none => Opt.globals
  | some c => Opt.globals ++ c.options

/-- The option with a long form in a place. -/
def ofLong? (p : Place) (name : String) : Option Opt := p.options.find? (·.long == name)

/-- The option with a short form in a place. -/
def ofShort? (p : Place) (c : Char) : Option Opt := p.options.find? (·.short == some c)

/-- An argument may stand in the place. -/
def takesArgument (p : Place) : Bool := (p.bind Command.argument?).isSome

theorem ofLong?_long (p : Place) (o : Opt) : o ∈ p.options → p.ofLong? o.long = some o := by
  cases p with
  | none => cases o <;> decide
  | some c => cases c <;> cases o <;> decide

end Place

end PortRoster.CommandLine

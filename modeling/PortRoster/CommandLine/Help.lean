import PortRoster.Catalogue
import PortRoster.CommandLine.Option
import PortRoster.Terminal.Style
import PortRoster.Text.Cut

/-! # Help

What the program and its commands say about themselves, in the plain wording of their definition or
in the wording of a language, and the pages that show it. -/

namespace PortRoster.CommandLine

open Terminal

/-- Where the texts of help come from. -/
inductive Wording where
  /-- The definition of the command line. -/
  | plain
  /-- The catalogue of messages. -/
  | localized (l : Locale)
  deriving DecidableEq, Repr

/-- An option or argument, as help describes it. -/
structure Term where
  id : String
  short : Option Char
  long : Option String
  help : String
  deriving DecidableEq, Repr

/-- The program or a command, as help describes it. -/
structure Topic where
  name : String
  about : String
  terms : List Term
  deriving DecidableEq, Repr

/-- The text about the option that turns on JSON, in the definition of each command. -/
def plainJsonHelp : Command → String
  | .list => "Output the list as JSON to stdout"
  | .select => "Output the configuration as JSON instead of TOML"
  | .resolve | .completions => "Output the result as JSON to stdout"

/-- The language of a wording. The definition is in English. -/
def Wording.language : Wording → Locale
  | plain => .en
  | localized l => l

/-- The text of the catalogue about an option or argument. -/
def Wording.about (w : Wording) (key : String) : String :=
  Catalogue.text w.language ("arg." ++ key ++ ".help")

/-- The description of an option of the program. -/
def globalTerm (w : Wording) (o : Opt) : Term := ⟨o.key, o.short, some o.long, w.about o.key⟩

/-- The description of an option of a command. -/
def commandTerm (w : Wording) (c : Command) (o : Opt) : Term :=
  ⟨o.key, o.short, some o.long, if w = .plain then plainJsonHelp c else w.about o.key⟩

/-- The description of the argument of a command. -/
def argumentTerm (w : Wording) (key : String) : Term := ⟨key, none, none, w.about key⟩

/-- The options that every command line has. -/
def builtinTerms (w : Wording) : List Term :=
  [⟨"help", some 'h', some "help", w.about "help"⟩,
   ⟨"version", some 'V', some "version", w.about "version"⟩]

/-- What the program says about itself. Only the localized wording names its builtin options. -/
def programTopic (w : Wording) : Topic where
  name := programName
  about := match w with
    | .plain => programAbout
    | .localized l => Catalogue.text l "app.about"
  terms := Opt.globals.map (globalTerm w) ++ if w = .plain then [] else builtinTerms w

/-- What a command says about itself. -/
def commandTopic (w : Wording) (c : Command) : Topic where
  name := c.name
  about := Catalogue.text w.language ("cmd." ++ c.name ++ ".about")
  terms := (c.argument?.map (argumentTerm w)).toList ++ c.options.map (commandTerm w c)

/-! ### Pages -/

/-- A row of a page: a term, and what is said about it. -/
abbrev Row := StyledText × String

/-- A term with blanks behind it, up to a width. -/
def padTo (width : Nat) (t : StyledText) : StyledText :=
  t ++ [bare (String.ofList (List.replicate (width - t.width) ' '))]

/-- Lines of two columns. The further lines of what is said stand below its first one. -/
def columns (rows : List Row) : StyledText :=
  let width := (rows.map fun r => r.1.width).foldl max 0
  let line := fun (r : Row) =>
    bare "  " :: padTo width r.1 ++ [bare ("  " ++ Text.setIn (width + 4) r.2)]
  [bare "\n"].intercalate (rows.map line)

/-- How an option is spelled: its short form or the room for one, the long form, and the value. -/
def spelling (short : Option Char) (long tail : String) : StyledText :=
  let start := match short with
    | some c => [literal (String.ofList ['-', c]), bare ", "]
    | none => [bare "    "]
  start ++ [literal ("--" ++ long), bare tail]

/-- What follows the long form of an option. -/
def Opt.tail (o : Opt) : String :=
  match o.valueName with
  | some value => " <" ++ value ++ ">"
  | none => if o = .verbose then "..." else ""

/-- The note on the variable that stands in for an option, with its value. -/
def Opt.variableNote (env : String → Option String) (o : Opt) : String :=
  match o.variableName? with
  | some name => " [env: " ++ name ++ "=" ++ (env name).getD "" ++ "]"
  | none => ""

/-- The row of an option, with the text about it. -/
def optionRow (env : String → Option String) (help : String) (o : Opt) : Row :=
  (spelling o.short o.long o.tail, help ++ o.variableNote env)

/-- The row of the option that asks for help. -/
def helpRow (help : String) : Row := (spelling (some 'h') "help" "", help)

/-- The row of the option that asks for the version. -/
def versionRow (help : String) : Row := (spelling (some 'V') "version" "", help)

/-- The rows of all commands. -/
def commandRows (w : Wording) : List Row :=
  Command.all.map fun c => ([literal c.name], (commandTopic w c).about)

/-- How the argument of a command is written. -/
def Command.argumentName (c : Command) : Option String :=
  c.argument?.map fun key => "<" ++ String.ofList (key.toList.map Char.toUpper) ++ ">"

/-- The row of the argument of a command, with the values that it may have. -/
def argumentRow (help : String) (c : Command) : Row :=
  let values := if c = .completions then
      " [possible values: " ++ ", ".intercalate (Shell.all.map Shell.name) ++ "]"
    else ""
  ([bare (c.argumentName.getD "")], help ++ values)

/-- The heading of a part of a page. Only the plain pages have headings in a style. -/
def headingOf (w : Wording) (text : String) : Span :=
  ⟨if w = .plain then .heading else [], text ++ ":"⟩

/-- A heading and what stands under it. -/
def titled (heading : Span) (body : StyledText) : StyledText :=
  [bare "\n", heading, bare "\n"] ++ body ++ [bare "\n"]

/-- How the program is called. -/
def programUsage : StyledText := [literal programName, bare " [OPTIONS] <COMMAND>"]

/-- What follows the name of a command in a call: its options, if they are to be named, and its
argument. -/
def Command.usageTail (c : Command) (named : Bool) : String :=
  (if named then " [OPTIONS]" else "") ++ (c.argumentName.map (" " ++ ·)).getD ""

/-- The page of the program in a language. -/
def programPage (env : String → Option String) (l : Locale) : StyledText :=
  let w := Wording.localized l
  let part := fun name => headingOf w (Catalogue.text l ("help." ++ name ++ "_heading"))
  let options := Opt.globals.map (fun o => optionRow env (w.about o.key) o)
    ++ [helpRow (w.about "help"), versionRow (w.about "version")]
  bare ((programTopic w).about ++ "\n") :: titled (part "usage") (bare "  " :: programUsage)
    ++ titled (part "commands") (columns (commandRows w))
    ++ titled (part "options") (columns options)

/-- The page of a command in a language. -/
def commandPage (env : String → Option String) (l : Locale) (c : Command) : StyledText :=
  let w := Wording.localized l
  let part := fun name => headingOf w (Catalogue.text l ("help." ++ name ++ "_heading"))
  let usage := [bare "  ", literal c.name, bare (c.usageTail (!c.options.isEmpty))]
  let options := c.options.map (fun o => optionRow env (w.about o.key) o)
    ++ [helpRow (Catalogue.text .en "arg.help.help")]
  let arguments := match c.argument? with
    | some key => titled (part "arguments") (columns [argumentRow (w.about key) c])
    | none => []
  bare ((commandTopic w c).about ++ "\n") :: titled (part "usage") usage ++ arguments
    ++ titled (part "options") (columns options)

/-- The rows of the options in the definition, with those of the command after the first of the
program. -/
def plainOptions (env : String → Option String) (own : List Row) : List Row :=
  let globals := Opt.globals.map fun o => optionRow env (Wording.plain.about o.key) o
  globals.take 1 ++ own ++ globals.drop 1
    ++ [helpRow (Wording.plain.about "help"), versionRow (Wording.plain.about "version")]

/-- What a plain page begins with: what its subject is, and how it is called. -/
def plainStart (about : String) (usage : StyledText) : StyledText :=
  [bare (about ++ "\n\n"), headingOf .plain "Usage", bare " "] ++ usage ++ [bare "\n"]

/-- What the command that shows help pages says about itself. -/
def helpAbout : String := "Print this message or the help of the given subcommand(s)"

/-- The plain page of the program or a command. -/
def plainPage (env : String → Option String) : Place → StyledText
  | none =>
    plainStart programAbout programUsage
      ++ titled (headingOf .plain "Commands")
        (columns (commandRows .plain ++ [([literal helpName], helpAbout)]))
      ++ titled (headingOf .plain "Options") (columns (plainOptions env []))
  | some c =>
    let own := c.options.map fun o => optionRow env (commandTerm .plain c o).help o
    let arguments := match c.argument? with
      | some key =>
        titled (headingOf .plain "Arguments") (columns [argumentRow (Wording.plain.about key) c])
      | none => []
    plainStart (commandTopic .plain c).about
        [literal (programName ++ " " ++ c.name), bare (c.usageTail true)]
      ++ arguments ++ titled (headingOf .plain "Options") (columns (plainOptions env own))

/-- The argument of the command that shows help pages. -/
def helpArgument : String := "[COMMAND]..."

/-- The plain page of the command that shows help pages. -/
def helpPlainPage : StyledText :=
  plainStart helpAbout [literal (programName ++ " " ++ helpName), bare (" " ++ helpArgument)]
    ++ titled (headingOf .plain "Arguments")
      (columns [([bare helpArgument], "Print help for the subcommand(s)")])

end PortRoster.CommandLine

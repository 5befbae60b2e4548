import PortRoster.Text.Cut
import PortRoster.Locale

/-! # The language of a run

The language is chosen before the command line is read, so that help and errors can be shown in it.
Every part of the line that names a language counts, the last one most; then the environment, then
the language of the system. The line is looked at from its start, where the name of the program
stands. -/

namespace PortRoster.CommandLine

/-- The variable that names the language. -/
def languageVariable : String := "PORTREG_LANG"

/-- The text behind the equals sign of an option that names the language. -/
def attachedLanguage? (text : String) : Option String :=
  (Text.afterStart? "--lang=".toList text.toList).map String.ofList

/-- The last request for a language among the parts of a line, if there is one. -/
def lastRequest? : List String → Option String
  | [] => none
  | text :: rest =>
    let later := lastRequest? rest
    let here :=
      match attachedLanguage? text with
      | some l => some l
      | none => if text = "--lang" then rest.head? else none
    later.or here

/-- The language that the line or the environment asks for. -/
def requestedLanguage? (env : String → Option String) (argv : List String) : Option String :=
  (lastRequest? argv).or (env languageVariable)

/-- The language of a run. -/
def languageOf (env : String → Option String) (argv : List String) : Locale :=
  match requestedLanguage? env argv with
  | some l => .ofText l
  | none => .ofSystem env

end PortRoster.CommandLine

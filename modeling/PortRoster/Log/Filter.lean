import PortRoster.Log
import PortRoster.Text.LetterCase
import PortRoster.Text.Pattern.Reader

/-! # Filters of a log

A filter is written as a list of directives, parted by commas, and a pattern behind a slash. A
directive sets the limit of the areas whose names begin with its name, or of all areas. A record
passes if the strongest directive for its area admits its level, and the pattern occurs in its text.
Parts that cannot be read are left out, and there is a complaint about each of them. -/

namespace PortRoster.Log

open Text (Pattern)

/-- The least important level that passes. Without one nothing passes. -/
abbrev Limit := Option Level

/-- The limit lets a level pass. -/
def Limit.admits (limit : Limit) (l : Level) : Bool := limit.any fun least => l.rank ≤ least.rank

/-- The name of the limit that lets nothing pass. -/
def offName : String := "off"

/-- The limit with a name, in capitals or small letters. -/
def Limit.ofName? (name : String) : Option Limit :=
  if Text.sameLetters offName name then some none
  else (Level.all.find? fun l => Text.sameLetters l.name name).map some

/-- A limit for the areas whose names begin with a name, or for all areas. -/
structure Directive where
  name : Option String
  limit : Limit
  deriving DecidableEq, Repr

namespace Directive

/-- The directive is about an area. -/
def covers (d : Directive) (a : Area) : Bool :=
  d.name.all fun name => Text.startsWith name.toList a.name.toList

/-- The longer its name, the stronger is a directive. -/
def size (d : Directive) : Nat := (d.name.map String.length).getD 0

/-- Reads a directive. On failure the text at fault is given. -/
def ofText (text : List Char) : Except String Directive :=
  match (Text.cutAt '=' text).map String.ofList with
  | [word] =>
    match Limit.ofName? word with
    | some limit => .ok ⟨none, limit⟩
    | none => .ok ⟨some word, some .trace⟩
  | [name, limit] =>
    let limit := String.ofList (Text.trim limit.toList)
    if limit = "" then .ok ⟨some name, some .trace⟩
    else
      match Limit.ofName? limit with
      | some l => .ok ⟨some name, l⟩
      | none => .error limit
  | _ => .error (String.ofList text)

end Directive

/-- What decides which records are written. -/
structure Filter where
  directives : List Directive
  pattern : Option Pattern

namespace Filter

/-- The filter that lets only errors pass. -/
def errors : Filter := ⟨[⟨none, some .error⟩], none⟩

/-- Puts a directive behind the others, or in the place of the one with its name. -/
def insert (d : Directive) : List Directive → List Directive
  | [] => [d]
  | e :: es => if e.name = d.name then d :: es else e :: insert d es

/-- The stronger of two directives for an area: of two that are equally strong, the later one. -/
def stronger (a : Area) (best : Option Directive) (d : Directive) : Option Directive :=
  if d.covers a && best.all (·.size ≤ d.size) then some d else best

/-- The strongest directive for an area. -/
def strongest? (a : Area) (ds : List Directive) : Option Directive := ds.foldl (stronger a) none

/-- A record passes. -/
def passes (f : Filter) (r : Record) : Bool :=
  (strongest? r.area f.directives).any (·.limit.admits r.level)
    && f.pattern.all (·.occursIn r.text.toList)

/-- The complaint about a text that is no filter. -/
def complaint (text : String) : String := "invalid logging spec '" ++ text ++ "'"

/-- Reads directives. -/
def readDirectives (text : List Char) : List Directive × List String :=
  let parts := ((Text.cutAt ',' text).map Text.trim).filter (· ≠ [])
  parts.foldl (fun (ds, complaints) part =>
    match Directive.ofText part with
    | .ok d => (insert d ds, complaints)
    | .error e => (ds, complaints ++ [complaint e])) ([], [])

/-- Reads a pattern. -/
def readPattern (text : List Char) : Option Pattern × List String :=
  match Pattern.ofText text with
  | .ok p => (some p, [])
  | .error e => (none, ["invalid regex filter - " ++ e.message (String.ofList text)])

/-- A filter with directives, or with a limit for errors if there are none. -/
def make (directives : List Directive) (pattern : Option Pattern) : Filter :=
  ⟨if directives = [] then errors.directives else directives, pattern⟩

/-- Reads a filter, with the complaints about it. -/
def ofText (text : String) : Filter × List String :=
  match Text.cutAt '/' text.toList with
  | [directives] =>
    let (ds, complaints) := readDirectives directives
    (make ds none, complaints)
  | [directives, pattern] =>
    let (ds, complaints) := readDirectives directives
    let (p, more) := readPattern pattern
    (make ds p, complaints ++ more)
  | _ => (errors, [complaint text ++ " (too many '/'s)"])

end Filter

end PortRoster.Log

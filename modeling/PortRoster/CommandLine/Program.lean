import PortRoster.CommandLine.Arguments
import PortRoster.CommandLine.Help
import PortRoster.CommandLine.Language
import PortRoster.Description
import PortRoster.Log.Filter
import PortRoster.Roster.Resolve
import PortRoster.Settings.Load

/-! # The program

A run of the program, from its arguments, its environment and the files that it sees, to what it
writes and its exit code. Results go to the standard output, everything else to the standard error.

* `stdout_run`: a run that does not succeed gives no result. -/

namespace PortRoster.CommandLine

open Terminal

/-- What a run sees. -/
structure Host where
  env : String → Option String
  files : Files
  /-- The program was built with the kinds for developers. -/
  forDevelopers : Bool

/-- What a run leaves. -/
structure Outcome where
  exit : Nat
  stdout : String
  stderr : String
  deriving DecidableEq, Repr

namespace Outcome

/-- A run that succeeds. -/
def success (stdout stderr : String) : Outcome := ⟨0, stdout, stderr⟩

/-- The exit code of a command line or an environment that cannot be used. -/
def usageCode : Nat := 2

/-- A run that fails because of how it was called. -/
def usage (stderr : String) : Outcome := ⟨usageCode, "", stderr⟩

/-- The outcome with something in front of what goes to the standard error. -/
def after (log : String) (o : Outcome) : Outcome := { o with stderr := log ++ o.stderr }

end Outcome

/-! ### Listing -/

/-- An entry as a JSON object. -/
def entryJson (l : Locale) (e : Entry) : Data :=
  .table [("help", (e.help.map Data.text).getD .null), ("id", .text e.id.text),
    ("kind", .text e.kind.name), ("label", .text (e.displayLabel l)),
    ("raw", .integer e.id.raw.toNat), ("selected", .boolean e.selected), ("value", .text e.value)]

/-- The line of an entry. -/
def entryLine (l : Locale) (e : Entry) : String :=
  "  " ++ (if e.selected then "●" else "○") ++ " " ++ e.id.text ++ " " ++ e.describe l
    ++ " [" ++ e.kind.name ++ "]" ++ (e.help.map (" - " ++ ·)).getD "" ++ "\n"

/-- Lists the entries, with the selected one marked. -/
def list (l : Locale) (r : Roster) (json : Bool) : Outcome :=
  if json then .success (Json.pretty (.list (r.entries.map (entryJson l))) ++ "\n") ""
  else
    let note := if r.selected?.isSome then ""
      else "\nℹ " ++ Catalogue.text l "list.nothing_selected" ++ "\n"
    .success "" (Catalogue.text l "list.header" ++ "\n"
      ++ String.join (r.entries.map (entryLine l)) ++ note)

/-! ### Selecting -/

/-- Why no port is chosen. -/
inductive PickError where
  | nothingSelected
  /-- A choice from a menu needs a terminal. -/
  | needsTerminal
  deriving DecidableEq, Repr

/-- The wording of a failure. -/
def PickError.message (l : Locale) : PickError → String
  | nothingSelected => Catalogue.text l "select.nothing_selected"
  | needsTerminal => Catalogue.text l "select.requires_tty"

/-- Chooses a port: the selected one, if nobody is to be asked. The roster is handed back as it is
then. -/
def pick (r : Roster) (nonInteractive : Bool) : Roster × Except PickError PortId :=
  if nonInteractive then
    match r.selected? with
    | some e => (r, .ok e.id)
    | none => (r, .error .nothingSelected)
  else (r, .error .needsTerminal)

/-- The message of a failed run. -/
def failureLine (message : String) : String := "Error: " ++ message ++ "\n"

/-- The log of choosing the entry with an identifier. -/
def pickedJournal (l : Locale) (r : Roster) (id : PortId) : List Log.Record :=
  match r.get? id with
  | some e => [⟨.debug, .select, "Selected " ++ e.describe l ++ " [" ++ e.kind.name ++ "]"⟩]
  | none => []

/-- What is said about the chosen entry. -/
def pickedLine (l : Locale) (r : Roster) (id : PortId) : String :=
  match r.get? id with
  | some e => "✓ " ++ Catalogue.filled l "select.done" "label" (e.describe l) ++ "\n"
  | none => ""

/-- Chooses a port and writes the settings that select it. -/
def select (l : Locale) (r : Roster) (json nonInteractive quiet : Bool) : Outcome :=
  match pick r nonInteractive with
  | (_, .error e) => .usage (failureLine (e.message l))
  | (r, .ok id) =>
    match r.toSaved id.raw with
    | none => ⟨1, "", failureLine ("No entry for port id " ++ id.text)⟩
    | some saved =>
      .success (if json then saved.toJson ++ "\n" else saved.toToml)
        (if quiet then "" else pickedLine l r id)

/-- The log of choosing a port. -/
def selectJournal (l : Locale) (r : Roster) (nonInteractive : Bool) : List Log.Record :=
  match pick r nonInteractive with
  | (_, .error _) => []
  | (r, .ok id) => pickedJournal l r id

/-! ### Resolving -/

/-- A word from a list widget and what it stands for, as a JSON object. -/
def resolveJson (l : Locale) (r : Roster) (raw : UInt32) : Data :=
  let entry := r.lookup raw
  let (form, offset) := match r.formOf raw with
    | .offset n => ("offset", Data.integer n)
    | .encoded _ => ("encoded", Data.null)
  .table [("form", .text form), ("kind", .text (r.resolveKind raw).name),
    ("label", (entry.map fun e => Data.text (e.describe l)).getD .null), ("offset", offset),
    ("raw", .integer raw.toNat), ("value", (entry.map fun e => Data.text e.value).getD .null)]

/-- How a word has been understood. -/
def formLine (l : Locale) (r : Roster) (raw : UInt32) : String :=
  match r.formOf raw with
  | .offset n =>
    "ℹ " ++ Catalogue.filled l "resolve.raw_offset" "offset" (Text.decimalText n) ++ "\n"
  | .encoded raw => "ℹ " ++ Catalogue.filled l "resolve.encoded" "id" (PortId.textOf raw) ++ "\n"

/-- The entry that a word stands for. -/
def foundLine (l : Locale) (r : Roster) (raw : UInt32) : String :=
  match r.lookup raw with
  | some e => "→ " ++ Catalogue.filled l "resolve.entry" "label" (e.describe l) ++ "\n"
  | none => "ℹ " ++ Catalogue.text l "resolve.no_entry" ++ "\n"

/-- Says what a word from a list widget stands for. -/
def resolve (l : Locale) (r : Roster) (raw : UInt32) (json quiet : Bool) : Outcome :=
  if json then .success (Json.pretty (resolveJson l r raw) ++ "\n") ""
  else
    .success ((r.resolveKind raw).name ++ "\n")
      (if quiet then "" else formLine l r raw ++ foundLine l r raw)

/-- The log of resolving a word. -/
def resolveJournal (r : Roster) (raw : UInt32) : List Log.Record :=
  if r.unknownKind raw then
    [⟨.warn, .roster, "Port id " ++ PortId.textOf raw
      ++ " has an unknown kind, treating as disabled"⟩]
  else []

/-! ### The log -/

/-- The variable with the filter of the log. -/
def logVariable : String := "RUST_LOG"

/-- The variable that says whether the log has styles. -/
def logStyleVariable : String := "RUST_LOG_STYLE"

/-- The limit that the command line asks for. -/
def defaultLimit (i : Invocation) : Log.Level :=
  if i.quiet then .warn
  else if i.verbose = 0 then .info
  else if i.verbose = 1 then .debug
  else .trace

/-- The filter of the log, with the complaints about it. The environment is stronger than the
command line. -/
def filterOf (env : String → Option String) (i : Invocation) : Log.Filter × List String :=
  Log.Filter.ofText ((env logVariable).getD (defaultLimit i).name)

/-- The log shows styles: if it must, or else like all streams unless it must not. -/
def logShowsStyles (env : String → Option String) : Bool :=
  match env logStyleVariable with
  | some "always" => true
  | some "never" => false
  | _ => showsStyles env

/-- The log as it is written. Each record is sent on its own. -/
def writeLog (styles : Bool) (f : Log.Filter) (records : List Log.Record) : String :=
  String.join ((records.filter f.passes).map fun r => send styles r.line.write)

/-- The complaint about a part of the filter. -/
def complaintLine (complaint : String) : String := "warning: " ++ complaint ++ ", ignoring it\n"

/-- The log of a run, behind the complaints about its filter. -/
def logOf (env : String → Option String) (i : Invocation) (records : List Log.Record) : String :=
  let (f, complaints) := filterOf env i
  String.join (complaints.map complaintLine) ++ writeLog (logShowsStyles env) f records

/-- The first record of a run. -/
def startRecord (l : Locale) (i : Invocation) : Log.Record :=
  ⟨.debug, .program, programName ++ " v" ++ version ++ " (verbose level: "
    ++ Text.decimalText i.verbose ++ ", locale: " ++ l.tag ++ ", requested: "
    ++ i.lang.getD "auto" ++ ")"⟩

/-! ### Running -/

/-- The settings of a run. -/
def settingsOf (host : Host) (i : Invocation) : Settings :=
  match i.config with
  | some path => .loadFrom host.files path
  | none => .load host.files (Settings.globalPath? host.env)

/-- The log of loading the settings of a run. -/
def settingsJournal (host : Host) (i : Invocation) : List Log.Record :=
  match i.config with
  | some path => Settings.loadFromJournal host.files path
  | none => Settings.loadJournal host.files (Settings.globalPath? host.env)

/-- The session of a run. -/
def sessionOf (host : Host) (i : Invocation) : Session where
  settings := settingsOf host i
  overrides := i.overrides
  detected := .detect host.forDevelopers

/-- Carries out a command line that has been read. Scripts for the completion of command lines are
not part of this program, so asking for one prints nothing. -/
def execute (host : Host) (l : Locale) (i : Invocation) : Outcome :=
  let session := sessionOf host i
  let start := startRecord l i :: settingsJournal host i
  let (journal, outcome) := match i.request with
    | .list json => (session.journal, list l session.roster json)
    | .select json =>
      (session.journal ++ selectJournal l session.roster i.nonInteractive,
        select l session.roster json i.nonInteractive i.quiet)
    | .resolve raw json =>
      (session.journal ++ resolveJournal session.roster raw,
        resolve l session.roster raw json i.quiet)
    | .completions _ => ([], .success "" "")
  outcome.after (logOf host.env i (start ++ journal))

/-- A page as it is written. -/
def sendPage (env : String → Option String) (page : StyledText) : String :=
  send (showsStyles env) page.write

/-- The outcome of a command line that is not carried out. -/
def stopped (env : String → Option String) : Stop → Outcome
  | .usage => .usage "error: the command line cannot be used; for more information, try '--help'.\n"
  | .version none => .success (programName ++ " " ++ version ++ "\n") ""
  | .version (some c) => .success (programName ++ "-" ++ c.name ++ " " ++ version ++ "\n") ""
  | .page place => .success (sendPage env (plainPage env place)) ""
  | .helpPage => .success (sendPage env helpPlainPage) ""
  | .overview => .usage (sendPage env (plainPage env none))

/-- The line asks for a help page, by an option or by saying nothing behind the name of the program.
The option is looked for in the name too. -/
def wantsHelp (argv : List String) : Bool :=
  argv.length ≤ 1 || argv.any fun a => a == "-h" || a == "--help"

/-- The help page that the arguments ask for: that of the first command among them. -/
def helpPage (env : String → Option String) (l : Locale) (args : List String) : String :=
  sendPage env <|
    match args.findSome? Command.ofName? with
    | some c => commandPage env l c
    | none => programPage env l

/-- Runs the program. The line begins with the name under which the program was called, which is
looked at for the language and for help, but is not read as a part of the command line. -/
def run (host : Host) (argv : List String) : Outcome :=
  let l := languageOf host.env argv
  if wantsHelp argv then .success (helpPage host.env l argv.tail) ""
  else
    match parse host.env argv.tail with
    | .ok i => execute host l i
    | .error stop => stopped host.env stop

theorem stdout_select {l : Locale} {r : Roster} {json nonInteractive quiet : Bool}
    (h : (select l r json nonInteractive quiet).exit ≠ 0) :
    (select l r json nonInteractive quiet).stdout = "" := by
  unfold select at h ⊢
  split
  · rfl
  · split
    · rfl
    · simp_all [Outcome.success]

theorem exit_list_resolve (l : Locale) (r : Roster) (raw : UInt32) (json quiet : Bool) :
    (list l r json).exit = 0 ∧ (resolve l r raw json quiet).exit = 0 := by
  cases json <;> exact ⟨rfl, rfl⟩

theorem stdout_stopped {env : String → Option String} {stop : Stop}
    (h : (stopped env stop).exit ≠ 0) : (stopped env stop).stdout = "" := by
  cases stop with
  | usage | overview => rfl
  | page place => exact absurd rfl h
  | helpPage => exact absurd rfl h
  | version place => cases place <;> exact absurd rfl h

theorem stdout_execute {host : Host} {l : Locale} {i : Invocation}
    (h : (execute host l i).exit ≠ 0) : (execute host l i).stdout = "" := by
  unfold execute at h ⊢
  cases hr : i.request with
  | list json =>
    simp only [hr, Outcome.after] at h
    exact absurd (exit_list_resolve l _ 0 json false).1 h
  | select json =>
    simp only [hr, Outcome.after] at h ⊢
    exact stdout_select h
  | resolve raw json =>
    simp only [hr, Outcome.after] at h
    exact absurd (exit_list_resolve l _ raw json _).2 h
  | completions shell => rfl

/-- **A run that does not succeed gives no result.** -/
theorem stdout_run {host : Host} {argv : List String} (h : (run host argv).exit ≠ 0) :
    (run host argv).stdout = "" := by
  unfold run at h ⊢
  by_cases hw : wantsHelp argv
  · simp [hw, Outcome.success] at h
  · simp only [hw, Bool.false_eq_true, if_false] at h ⊢
    cases hp : parse host.env argv.tail with
    | ok i =>
      simp only [hp] at h ⊢
      exact stdout_execute h
    | error stop =>
      simp only [hp] at h ⊢
      exact stdout_stopped h

end PortRoster.CommandLine

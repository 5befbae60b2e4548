import PortRoster.CommandLine.Option
import PortRoster.PortId
import PortRoster.Settings.Session

/-! # Reading a command line

A command line has two levels: what stands before the command, and what stands after it. Most
options may stand on either. On one level an option that takes a value is given at most once; where
both levels give it, the level of the command counts. The environment stands in for an option that a
level lacks, and it yields to what the other level says itself.

A value that follows its option is looked at when the next part begins, and the values before the
command when the level of the command is done. So a request for the version that comes first is
answered although a value is wrong. -/

namespace PortRoster.CommandLine

/-- Why a command line is not carried out. -/
inductive Stop where
  /-- It breaks the rules. -/
  | usage
  /-- It asks for the version, in a place. -/
  | version (place : Place)
  /-- It asks for the plain help page of a place. -/
  | page (place : Place)
  /-- It asks for the page of the command that shows help pages. -/
  | helpPage
  /-- It says nothing at all. -/
  | overview
  deriving DecidableEq, Repr

/-- Who gave a value. -/
inductive Giver where
  | user
  | environment
  deriving DecidableEq, Repr

/-- A value with its giver. -/
structure Given (α : Type) where
  giver : Giver
  value : α
  deriving Repr

/-- The options of one level. -/
structure Values where
  config : Option (Given String) := none
  lang : Option (Given String) := none
  verbose : Option (Given Nat) := none
  quiet : Option (Given Bool) := none
  nonInteractive : Option (Given Bool) := none
  kind : Option (Given Kind) := none
  path : Option (Given String) := none
  mac : Option (Given String) := none
  uart : Option (Given UInt32) := none
  json : Option (Given Bool) := none
  /-- The word of an identifier, as argument. -/
  word : Option UInt32 := none
  /-- A shell, as argument. -/
  shell : Option Shell := none

/-! ### Values of options -/

/-- A path that is not empty. -/
def pathValue? (text : String) : Option String := if text = "" then none else some text

/-- A truth value. -/
def boolValue? (text : String) : Option Bool :=
  if text = "true" then some true else if text = "false" then some false else none

/-- The number of a UART line: a numeral with or without a sign, of which minus fits zero only. -/
def lineValue? (text : String) : Option UInt32 :=
  match text.toList with
  | '-' :: c :: cs =>
    if (Text.readDigits 10 1 0 (c :: cs)).toOption = some 0 then some 0 else none
  | cs => (Text.readWord 10 cs).toOption

/-- Gives a value to an option that has none yet. -/
def give {α : Type} (giver : Giver) (old : Option (Given α)) (value : Option α) :
    Option (Option (Given α)) :=
  match old, value with
  | none, some value => some (some ⟨giver, value⟩)
  | _, _ => none

namespace Values

/-- Gives an option the value that a text denotes. -/
def take (vs : Values) (giver : Giver) (o : Opt) (text : String) : Option Values :=
  match o with
  | .config => (give giver vs.config (pathValue? text)).map fun v => { vs with config := v }
  | .lang => (give giver vs.lang (some text)).map fun v => { vs with lang := v }
  | .nonInteractive =>
    (give giver vs.nonInteractive (boolValue? text)).map fun v => { vs with nonInteractive := v }
  | .kind => (give giver vs.kind (Kind.parse text).toOption).map fun v => { vs with kind := v }
  | .path => (give giver vs.path (some text)).map fun v => { vs with path := v }
  | .mac => (give giver vs.mac (some text)).map fun v => { vs with mac := v }
  | .uart => (give giver vs.uart (lineValue? text)).map fun v => { vs with uart := v }
  | .verbose | .quiet | .json => none

/-- The largest count of a repeated option. -/
def countLimit : Nat := 255

/-- Turns on an option that takes no value. Only `verbose` may be repeated. -/
def raise (vs : Values) (o : Opt) : Option Values :=
  match o with
  | .verbose =>
    let count := (vs.verbose.map Given.value).getD 0
    some { vs with verbose := some ⟨.user, min countLimit (count + 1)⟩ }
  | .quiet => (give .user vs.quiet (some true)).map fun v => { vs with quiet := v }
  | .nonInteractive =>
    (give .user vs.nonInteractive (some true)).map fun v => { vs with nonInteractive := v }
  | .json => (give .user vs.json (some true)).map fun v => { vs with json := v }
  | .config | .lang | .kind | .path | .mac | .uart => none

/-- Reads the argument of a command. -/
def takeArgument (vs : Values) (place : Place) (text : String) : Option Values :=
  match place with
  | some .resolve => (PortId.parseRaw text).toOption.map fun raw => { vs with word := some raw }
  | some .completions => (Shell.ofName? text).map fun shell => { vs with shell := some shell }
  | some .list | some .select | none => none

/-- The option has been given. -/
def has (vs : Values) : Opt → Bool
  | .config => vs.config.isSome
  | .lang => vs.lang.isSome
  | .verbose => vs.verbose.isSome
  | .quiet => vs.quiet.isSome
  | .nonInteractive => vs.nonInteractive.isSome
  | .kind => vs.kind.isSome
  | .path => vs.path.isSome
  | .mac => vs.mac.isSome
  | .uart => vs.uart.isSome
  | .json => vs.json.isSome

/-- Takes a missing option from the environment. -/
def fillFrom (env : String → Option String) (vs : Values) (o : Opt) : Option Values :=
  if vs.has o then some vs
  else
    match o.variableName?.bind env with
    | some text => vs.take .environment o text
    | none => some vs

/-- Takes all missing options from the environment. -/
def fill (env : String → Option String) (vs : Values) : Option Values :=
  Opt.globals.foldlM (fillFrom env) vs

end Values

/-! ### Levels -/

/-- A part that has been read and not yet looked at. -/
inductive Pending where
  | nothing
  /-- An option whose value comes next. -/
  | option (o : Opt)
  | value (o : Opt) (text : String)
  | argument (text : String)

/-- What has been read of a level. -/
structure Level where
  values : Values := {}
  pending : Pending := .nothing
  /-- The argument has been read. -/
  argumentRead : Bool := false

/-- A result, or a breach of the rules. -/
def orUsage {α : Type} : Option α → Except Stop α
  | some a => .ok a
  | none => .error .usage

namespace Level

/-- The values of a level, the pending one among them. -/
def settle (place : Place) (s : Level) : Except Stop Values :=
  match s.pending with
  | .nothing => .ok s.values
  | .option _ => .error .usage
  | .value o text => orUsage (s.values.take .user o text)
  | .argument text => orUsage (s.values.takeArgument place text)

/-- The level after an option that is given in one piece. -/
def afterValue (s : Level) (values : Option Values) : Except Stop Level :=
  (orUsage values).map fun vs => { s with values := vs, pending := .nothing }

/-- Reads the part after two dashes: the name of an option, and its value after an equals sign. -/
def readLong (place : Place) (s : Level) (name : List Char) (value : Option (List Char)) :
    Except Stop Level :=
  let name := String.ofList name
  if name = "help" ∨ name = "version" then
    match value with
    | some _ => .error .usage
    | none => do
      let _ ← s.settle place
      .error (if name = "help" then .page place else .version place)
  else
    match place.ofLong? name, value with
    | none, _ => .error .usage
    | some o, some text =>
      if o.takesValue then do
        s.afterValue ((← s.settle place).take .user o (String.ofList text))
      else .error .usage
    | some o, none => do
      let values ← s.settle place
      if o.takesValue then .ok { s with values, pending := .option o }
      else s.afterValue (values.raise o)

/-- Reads the letters after one dash. The rest after an option that takes a value is the value, an
equals sign in front of it apart. -/
def readShort (place : Place) : Level → List Char → Except Stop Level
  | s, [] => .ok s
  | s, c :: cs =>
    if c = 'h' ∨ c = 'V' then do
      let _ ← s.settle place
      .error (if c = 'h' then .page place else .version place)
    else
      match place.ofShort? c with
      | none => .error .usage
      | some o => do
        let values ← s.settle place
        if o.takesValue then
          match cs with
          | [] => .ok { s with values, pending := .option o }
          | '=' :: text => s.afterValue (values.take .user o (String.ofList text))
          | text => s.afterValue (values.take .user o (String.ofList text))
        else readShort place (← s.afterValue (values.raise o)) cs

/-- Reads an argument. -/
def readArgument (place : Place) (s : Level) (text : String) : Except Stop Level :=
  if place.takesArgument ∧ !s.argumentRead then do
    let values ← s.settle place
    .ok { values, pending := .argument text, argumentRead := true }
  else .error .usage

/-- The value of an option comes next. -/
def awaits? (s : Level) : Option Opt :=
  match s.pending with
  | .option o => some o
  | _ => none

/-- Reads a part that is not two dashes alone. -/
def readPart (place : Place) (s : Level) (text : String) : Except Stop Level :=
  match text.toList with
  | '-' :: '-' :: cs =>
    let name := cs.takeWhile (· != '=')
    match cs.dropWhile (· != '=') with
    | _ :: value => s.readLong place name (some value)
    | [] => s.readLong place name none
  | '-' :: c :: cs => s.readShort place (c :: cs)
  | _ =>
    match s.awaits? with
    | some o => .ok { s with pending := .value o text }
    | none => s.readArgument place text

end Level

/-- How a level ends. -/
inductive Ending where
  | line
  /-- With a command, and what follows it. -/
  | command (c : Command) (rest : List String)
  /-- With a request for a help page. -/
  | help (rest : List String)

/-- Reads the parts of a level. After two dashes alone, `plain` is on and every part is an
argument. -/
def readLevel (place : Place) : (plain : Bool) → Level → List String → Except Stop (Level × Ending)
  | _, s, [] => .ok (s, .line)
  | true, s, text :: rest => do readLevel place true (← s.readArgument place text) rest
  | false, s, text :: rest =>
    if place.isNone ∧ s.awaits?.isNone ∧ text = helpName then .ok (s, .help rest)
    else
      match if place.isNone ∧ s.awaits?.isNone then Command.ofName? text else none with
      | some c => .ok (s, .command c rest)
      | none =>
        if text = "--" then readLevel place true s rest
        else do readLevel place false (← s.readPart place text) rest

/-! ### Both levels -/

/-- The value of the level of the command, unless the other level has it from a stronger giver. -/
def stronger {α : Type} (outer inner : Option (Given α)) : Option (Given α) :=
  match outer, inner with
  | some a, some b => if a.giver = .user ∧ b.giver = .environment then some a else some b
  | outer, none => outer
  | none, inner => inner

/-- What the program is asked to do. -/
inductive Request where
  | list (json : Bool)
  | select (json : Bool)
  | resolve (raw : UInt32) (json : Bool)
  | completions (shell : Shell)
  deriving DecidableEq, Repr

/-- A command line that has been read. -/
structure Invocation where
  request : Request
  config : Option String
  lang : Option String
  verbose : Nat
  quiet : Bool
  nonInteractive : Bool
  overrides : Overrides
  deriving DecidableEq, Repr

/-- The request for a command, if it has the argument that it needs. -/
def requestOf (c : Command) (vs : Values) : Option Request :=
  let json := vs.json.isSome
  match c with
  | .list => some (.list json)
  | .select => some (.select json)
  | .resolve => vs.word.map fun raw => .resolve raw json
  | .completions => vs.shell.map .completions

/-- The command line of a request and the options of both levels. -/
def invocationOf (request : Request) (outer inner : Values) : Invocation where
  request
  config := (stronger outer.config inner.config).map Given.value
  lang := (stronger outer.lang inner.lang).map Given.value
  verbose := ((stronger outer.verbose inner.verbose).map Given.value).getD 0
  quiet := ((stronger outer.quiet inner.quiet).map Given.value).getD false
  nonInteractive :=
    ((stronger outer.nonInteractive inner.nonInteractive).map Given.value).getD false
  overrides := {
    kind := (stronger outer.kind inner.kind).map Given.value
    path := (stronger outer.path inner.path).map Given.value
    bluetoothMac := (stronger outer.mac inner.mac).map Given.value
    uartLine := (stronger outer.uart inner.uart).map Given.value }

/-- No option has been given. -/
def Values.isEmpty (vs : Values) : Bool := !Opt.globals.any vs.has

/-- The help page that the names after `help` ask for. -/
def helpStop : List String → Stop
  | [] => .page none
  | [name] =>
    match Command.ofName? name with
    | some c => .page (some c)
    | none => if name = helpName then .helpPage else .usage
  | _ => .usage

/-- Reads a command line. -/
def parse (env : String → Option String) (args : List String) : Except Stop Invocation := do
  let (outer, ending) ← readLevel none false {} args
  match ending with
  | .help rest => .error (helpStop rest)
  | .command c rest => do
    let (inner, _) ← readLevel (some c) false {} rest
    let innerValues ← orUsage ((← inner.settle (some c)).fill env)
    let request ← orUsage (requestOf c innerValues)
    let outerValues ← orUsage ((← outer.settle none).fill env)
    .ok (invocationOf request outerValues innerValues)
  | .line => do
    let values ← orUsage ((← outer.settle none).fill env)
    .error (if values.isEmpty then .overview else .usage)

end PortRoster.CommandLine

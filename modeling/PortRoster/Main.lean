import PortRoster.CommandLine.Program

/-! # The command line program

Gathers what the program sees of its host, runs it, and writes what it leaves. -/

open PortRoster CommandLine

/-- The variables of the environment that the program looks at. -/
def hostVariables : List String :=
  Opt.globals.filterMap Opt.variableName? ++ Locale.systemVariables
    ++ ["HOME", "XDG_CONFIG_HOME", logVariable, logStyleVariable, Terminal.forbidVariable,
      Terminal.forceVariable]

/-- The variables with their values. -/
def readVariables : IO (List (String × String)) :=
  hostVariables.filterMapM fun name => do
    return (← IO.getEnv name).map (name, ·)

/-- What is found at a path. -/
def readContent (path : String) : IO FileContent := do
  try
    return .text (← IO.FS.readFile path)
  catch
    | .noFileOrDirectory _ _ _ => return .missing
    | e => return .unreadable (toString e)

/-- The paths that the program may look at. -/
def hostPaths (env : String → Option String) (args : List String) : List String :=
  let named := match parse env args with
    | .ok i => i.config.toList
    | .error _ => []
  named ++ (Settings.globalPath? env).toList ++ [Settings.localPath]

/-- Runs the program on this host, under its own name and with the kinds for developers. -/
def main (args : List String) : IO UInt32 := do
  let values ← readVariables
  let env := fun name => values.lookup name
  let contents ← (hostPaths env args).mapM fun path => do
    return (path, ← readContent path)
  let files := fun path => (contents.lookup path).getD .missing
  let outcome := run ⟨env, files, true⟩ (programName :: args)
  IO.print outcome.stdout
  IO.eprint outcome.stderr
  return outcome.exit.toUInt32

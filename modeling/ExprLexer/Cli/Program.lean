import ExprLexer.Cli.Args
import ExprLexer.Diagnostic

/-!
# The command-line program

A run of the command line on a host: it reads its arguments and environment, finds the
configuration (the path given, else `uitc.toml` in the working directory, else the same name in
the user's configuration directory), makes the session, reads the source and writes the token
dump to standard output. Standard error gets the log events that the filter lets through, in
the order they happen, then the report of what went wrong, if anything did: the diagnostic of a
lexical error, or `error: ` and the run error. The exit status is 0 on success, 1 after an
error, and 2 for a command line that is not understood.
-/

namespace ExprLexer

/-- A line of standard error. -/
inductive ErrorLine where
  | event (e : Event)
  | text (s : String)
  deriving DecidableEq, Repr

/-- What a run of the command line leaves. -/
structure Report where
  status : Nat
  stdout : String
  stderr : List ErrorLine
  deriving DecidableEq, Repr

/-- Standard error as text, each event after the time stamp `stamp`. -/
def Report.stderrText (r : Report) (stamp : String) : String :=
  String.join (r.stderr.map fun
    | .event e => e.line stamp ++ "\n"
    | .text s => s ++ "\n")

/-- The environment variables a run reads. -/
def Cli.envNames : List String :=
  ["RUST_LOG", "UITC_VERBOSE", "UITC_NO_COLOR", "UITC_CONFIG", "XDG_CONFIG_HOME", "HOME"]

/-- The configuration file in the user's configuration directory: below `XDG_CONFIG_HOME` when
that is an absolute path, else below `.config` in the home directory. -/
def Cli.userConfigPath (env : String → Option String) : Option String :=
  let dir := match env "XDG_CONFIG_HOME" with
    | some d => if d.startsWith "/" then some d else (env "HOME").map (· ++ "/.config")
    | none => (env "HOME").map (· ++ "/.config")
  dir.map (· ++ "/uitc/" ++ Config.fileName)

/-- The configuration file a run uses when none is given, if one exists. -/
def Cli.findConfig {m : Type → Type} [Monad m] (host : Host m) : m (Option String) := do
  if ← host.pathExists Config.fileName then return some Config.fileName
  match Cli.userConfigPath host.env with
  | some p => if ← host.pathExists p then return some p else return none
  | none => return none

/-- The configuration of a run and the events of loading it. -/
def Cli.loadConfig {m : Type → Type} [Monad m] (host : Host m) (given : Option String) :
    m (Except RunError (Config × List Event)) := do
  let path ← match given with
    | some p => pure (some p)
    | none => Cli.findConfig host
  match path with
  | none => return .ok (Config.default, [])
  | some p => return (← Config.load host p).map fun c => (c, [Event.configLoaded p])

/-- Runs the command `tokens` of an invocation. -/
def Cli.runTokens {m : Type → Type} [Monad m] (host : Host m) (inv : Invocation) : m Report := do
  let filter := inv.filter (host.env "RUST_LOG")
  let logged (es : List Event) : List ErrorLine := (es.filter filter.allows).map .event
  let failed (es : List Event) (e : RunError) : Report :=
    ⟨1, "", logged es ++ [.text ("error: " ++ e.message)]⟩
  match ← Cli.loadConfig host inv.config with
  | .error e => return failed [] e
  | .ok (config, loaded) =>
    match Session.ofConfig config inv.format with
    | .error e => return failed loaded e
    | .ok s =>
      let opened := loaded ++ s.createdEvent :: inv.source.events
      match ← inv.source.read host with
      | .error e => return failed opened e
      | .ok src =>
        let sc := scan src s.keywords
        let events := opened ++ sc.events src
        match sc.result with
        | .error e => return ⟨1, "", logged events ++ [.text (e.render src)]⟩
        | .ok ts => return ⟨0, (writeTokens ts s.format none).output, logged events⟩

/-- Runs the command line `args` (without the program name) on `host`. -/
def Cli.run {m : Type → Type} [Monad m] (host : Host m) (args : List String) : m Report :=
  match Invocation.parse args host.env with
  | .error u => pure ⟨2, "", [.text u.message]⟩
  | .ok inv => Cli.runTokens host inv

end ExprLexer

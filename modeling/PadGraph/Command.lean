import PadGraph.Config.Load
import PadGraph.Expression.Read
import PadGraph.Graph.Json
import PadGraph.Report

/-!
# Commands

A command runs in a world that holds files and a standard input, and leaves what it prints and
whether it succeeded. Three commands read an expression and print something of its graph.

* `Command`, `Invocation` — what can be asked for.
* `World`, `Outcome` — what a command sees, and what it leaves.
* `Action` — steps that print and may fail.
* `reportGraph`, `countGraph`, `writeGraph`, `validateFile`, `showDefaults` — what the commands do.
* `Invocation.run` — a command's outcome.
-/

namespace PadGraph

/-- What can be asked for. -/
inductive Command where
  /-- Report the graph of an expression, as JSON if that is asked for. -/
  | parse (source : Source) (json : Bool)
  /-- Count the branches and chains of an expression. -/
  | check (source : Source)
  /-- Write an expression in its canonical form. -/
  | format (source : Source)
  /-- Show the configuration in the file at a path, or the defaults. -/
  | validate (path : Option Text)
  | version
  deriving DecidableEq, Repr, Inhabited

/-- Where a command's expression comes from, if the command reads one. -/
def Command.source? : Command → Option Source
  | parse source _ => some source
  | check source => some source
  | format source => some source
  | validate _ => none
  | version => none

/-- A command with the options that go with every command. -/
structure Invocation where
  /-- The path of the configuration file, if one is named. -/
  config : Option Text := none
  /-- Whether more should be logged; what is printed does not depend on it. -/
  verbose : Bool := false
  command : Command
  deriving DecidableEq, Repr, Inhabited

/-- The paths at which a command may look for its configuration. -/
def Invocation.configPaths (invocation : Invocation) (home : Option Text) : List Text :=
  match invocation.command, invocation.config with
  | .version, _ => []
  | .validate path, config => (path.or config).toList
  | _, some path => [path]
  | _, none => configPlaces home

/-- What a command sees. -/
structure World where
  files : FileSystem
  stdin : List UInt8
  /-- The path of the home directory, if it is known. -/
  home : Option Text

/-- What a command leaves: what it has printed, and the failure that ended it, if one did. -/
structure Outcome where
  printed : Text
  /-- What ended the command early. -/
  failure : Option Failure := none
  deriving DecidableEq, Repr, Inhabited

namespace Outcome

/-- The exit status: zero for success and one for a failure. -/
def status (outcome : Outcome) : Nat := if outcome.failure.isNone then 0 else 1

/-- What is told of the failure, if there is one. -/
def errors (outcome : Outcome) : Text := (outcome.failure.map Failure.report).getD []

end Outcome

/-- What a command does: it prints, and comes to a value or to a failure. -/
structure Action (α : Type) where
  printed : Text
  result : Except Failure α

namespace Action

/-- One action after the other, the first of which must not fail. What has been printed stays printed,
whatever comes after it. -/
instance : Monad Action where
  pure a := ⟨[], .ok a⟩
  bind action next :=
    match action.result with
    | .ok a => ⟨action.printed ++ (next a).printed, (next a).result⟩
    | .error failure => ⟨action.printed, .error failure⟩

/-- A step that prints nothing is its result. -/
instance : MonadLift (Except Failure) Action := ⟨fun result => ⟨[], result⟩⟩

def print (text : Text) : Action Unit := ⟨text, .ok ()⟩

/-- What an action leaves. -/
def outcome (action : Action Unit) : Outcome where
  printed := action.printed
  failure :=
    match action.result with
    | .ok () => none
    | .error failure => some failure

end Action

/-- The report of a graph in a configured format. -/
def Graph.report (graph : Graph) (settings : OutputSettings) : Text :=
  match settings.format with
  | .text => Report.text graph
  | .json => graph.jsonText settings.pretty

/-- The settings for a report, with JSON if that is asked for. -/
def OutputSettings.orJson (settings : OutputSettings) (json : Bool) : OutputSettings :=
  if json then { settings with format := .json } else settings

/-- Prints the report of a graph, and a newline behind it unless it ends in one. -/
def reportGraph (world : World) (config : Option Text) (source : Source) (json : Bool) :
    Action Unit := do
  let config ← findConfig world.files world.home config
  let config := { config with output := config.output.orJson json }
  let text ← readExpression world.files world.stdin config.parser source
  let graph ← parseExpression config.parser text
  let report := graph.report config.output
  Action.print report
  if report.getLast? ≠ some '\n' then Action.print ['\n']

/-- Prints how many branches and chains a graph has. -/
def countGraph (world : World) (config : Option Text) (source : Source) : Action Unit := do
  let config ← findConfig world.files world.home config
  let text ← readExpression world.files world.stdin config.parser source
  let graph ← parseExpression config.parser text
  Action.print (lit "ok: " ++ graph.summary ++ ['\n'])

/-- Prints a graph in its canonical form. -/
def writeGraph (world : World) (config : Option Text) (source : Source) : Action Unit := do
  let config ← findConfig world.files world.home config
  let text ← readExpression world.files world.stdin config.parser source
  let graph ← parseExpression config.parser text
  Action.print (graph.render ++ ['\n'])

/-- The version of the program, as it is told. -/
def versionLine : Text := lit "filtergraph 0.1.0\n"

/-- What is printed of the limit and the format of a configuration. -/
def Config.headLines (config : Config) : Text :=
  lit "  Max input length: " ++ config.parser.shown ++ lit " bytes\n" ++
    lit "  Output format: " ++ config.output.format.title ++ ['\n']

/-- Shows the configuration in the file at a path. The first line is printed in any case. -/
def validateFile (world : World) (path : Text) : Action Unit := do
  Action.print (lit "Validating config: " ++ path.quoted ++ ['\n'])
  let config ← loadConfig world.files path
  Action.print (lit "✓ Configuration is valid\n" ++ config.headLines ++
    lit "  Pretty JSON: " ++ renderBool config.output.pretty ++ ['\n'])

/-- Shows the defaults. -/
def showDefaults : Action Unit :=
  Action.print (lit "No config file specified, using defaults\nDefault config:\n" ++
    ({} : Config).headLines)

/-- What a command does. -/
def Invocation.action (invocation : Invocation) (world : World) : Action Unit :=
  match invocation.command with
  | .parse source json => reportGraph world invocation.config source json
  | .check source => countGraph world invocation.config source
  | .format source => writeGraph world invocation.config source
  | .validate path =>
    match path.or invocation.config with
    | some path => validateFile world path
    | none => showDefaults
  | .version => Action.print versionLine

/-- The outcome of a command. -/
def Invocation.run (invocation : Invocation) (world : World) : Outcome :=
  (invocation.action world).outcome

end PadGraph

import PadGraph.Failure

/-!
# Finding and loading a configuration

A configuration comes from a file that is named, else from the first of a few places where a file is
present, else from the defaults. A file that is present and cannot be used is a failure; no later
place is looked at.

* `loadConfig` — the configuration in the file at a path.
* `configPlaces` — the places where a configuration is looked for.
* `findConfig` — the configuration that holds.
-/

namespace PadGraph

/-- Refuses settings under which no expression could be read. -/
def Config.validate (config : Config) : Except Failure Config :=
  if config.parser.maxInputLen = 0 then .error ⟨.zeroLimit, []⟩ else .ok config

/-- The configuration in the file at a path. -/
def loadConfig (files : FileSystem) (path : Text) : Except Failure Config :=
  match (files path).bytes with
  | .error error => .error ⟨.configFile path, [.os error]⟩
  | .ok bytes =>
    match Utf8.decode bytes with
    | .error _ => .error ⟨.configFile path, [.configNotText]⟩
    | .ok text =>
      match Config.read text with
      | .error fault => .error ⟨.configContent path, [.config fault]⟩
      | .ok config => config.validate

/-- The places where a configuration is looked for, in this order: the working directory, the home
directory, and the system's. Without a known home directory its mark stays as it is. -/
def configPlaces (home : Option Text) : List Text :=
  [lit "./filtergraph.toml",
    home.getD ['~'] ++ lit "/.config/filtergraph/config.toml",
    lit "/etc/filtergraph/config.toml"]

/-- The configuration that holds, given the path of a file or none. -/
def findConfig (files : FileSystem) (home : Option Text) (path : Option Text) :
    Except Failure Config :=
  match path with
  | some path => loadConfig files path
  | none =>
    match (configPlaces home).find? fun place => (files place).isPresent with
    | some place => loadConfig files place
    | none => .ok {}

end PadGraph

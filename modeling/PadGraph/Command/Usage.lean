import PadGraph.Command.Arguments

/-!
# How the program is used

* `usage` — the use of the program, or of one command.
* `Stop.printed`, `Stop.status` — what is printed when no command is run, and the exit status then.
-/

namespace PadGraph

/-- What a command does, in one line. -/
def CommandName.about : CommandName → String
  | parse => "Parse an expression and print its branches and chains"
  | check => "Check that an expression is well formed"
  | format => "Print the canonical form of an expression"
  | validate => "Validate configuration file"
  | version => "Display version information"

/-- What an option is for, in one line. -/
def Flag.about : Flag → String
  | config => "Path to config file"
  | verbose => "Enable verbose logging"
  | file => "Read the expression from a file"
  | json => "Output as JSON"
  | help => "Print help"
  | version => "Print version"

/-- The operand as it is shown behind a command's name. -/
def CommandName.operandText : CommandName → String
  | parse => " [EXPRESSION]"
  | check => " [EXPRESSION]"
  | format => " [EXPRESSION]"
  | validate => " [CONFIG]"
  | version => ""

/-- A text filled up with blanks to a width. -/
def padded (width : Nat) (text : Text) : Text :=
  text ++ List.replicate (width - text.length) ' '

/-- The line on an option. -/
def Flag.line (flag : Flag) : Text :=
  let short := match flag.short? with
    | some c => ['-', c, ',', ' ']
    | none => List.replicate 4 ' '
  let value := if flag.takesValue then lit " <PATH>" else []
  lit "  " ++ short ++ padded 18 (lit "--" ++ flag.long ++ value) ++ flag.about.toList

/-- The line on a command. -/
def CommandName.line (name : CommandName) : Text :=
  lit "  " ++ padded 10 name.text ++ name.about.toList

/-- The lines on the options of a level. -/
def Level.lines (level : Level) : List Text :=
  [] :: lit "Options:" :: level.flags.map Flag.line

/-- The use of the program, or of one command. -/
def usage (command : Option CommandName) : Text :=
  Report.unlines <|
    match command with
    | none =>
      lit "Filter-graph expression parser and formatter" :: [] ::
        lit "Usage: filtergraph [OPTIONS] <COMMAND>" :: [] :: lit "Commands:" ::
        CommandName.all.map CommandName.line ++ Level.program.lines
    | some name =>
      name.about.toList :: [] ::
        (lit "Usage: filtergraph " ++ name.text ++ lit " [OPTIONS]" ++
          name.operandText.toList) ::
        name.level.lines

namespace Stop

/-- What is printed when no command is run; a misuse prints nothing here. -/
def printed : Stop → Text
  | help command => usage command
  | version => versionLine
  | misuse _ => []

/-- The exit status when no command is run. -/
def status : Stop → Nat
  | help _ => 0
  | version => 0
  | misuse _ => 2

end Stop

end PadGraph

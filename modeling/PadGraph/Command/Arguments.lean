import PadGraph.Command

/-!
# Command-line arguments

Arguments are read from left to right: first the options of the program, then the name of a command,
then the command's own options and its operand. Some options are known on both levels. An option's
value may be attached to it or be the next argument, short options may be joined, and behind `--`
every argument is an operand.

* `Flag` — the options.
* `Level` — what is known before a command's name and behind it.
* `Stop` — why no command is run: help or the version is asked for, or the arguments are misused.
* `Invocation.ofArguments` — the invocation that arguments ask for.
-/

namespace PadGraph

/-- The options. -/
inductive Flag where
  | config
  | verbose
  | file
  | json
  | help
  | version
  deriving DecidableEq, Repr, Inhabited

namespace Flag

/-- The long name of an option. -/
def long : Flag → Text
  | config => lit "config"
  | verbose => lit "verbose"
  | file => lit "file"
  | json => lit "json"
  | help => lit "help"
  | version => lit "version"

/-- The short name of an option, if it has one. -/
def short? : Flag → Option Char
  | config => some 'c'
  | verbose => some 'v'
  | file => some 'f'
  | json => none
  | help => some 'h'
  | version => some 'V'

/-- Whether an option has a value, which is then a path. -/
def takesValue : Flag → Bool
  | config => true
  | file => true
  | _ => false

end Flag

/-- The names of the commands. -/
inductive CommandName where
  | parse
  | check
  | format
  | validate
  | version
  deriving DecidableEq, Repr, Inhabited

namespace CommandName

/-- All commands, in the order in which they are listed. -/
def all : List CommandName := [parse, check, format, validate, version]

/-- The name of a command. -/
def text : CommandName → Text
  | parse => lit "parse"
  | check => lit "check"
  | format => lit "format"
  | validate => lit "validate"
  | version => lit "version"

/-- The command with a given name. -/
def ofText? (text : Text) : Option CommandName := all.find? fun name => name.text == text

end CommandName

/-- What an operand of a command is. -/
inductive Operand where
  | none
  /-- An expression, which may be empty. -/
  | expression
  /-- A path, which must not be empty. -/
  | path
  deriving DecidableEq, Repr, Inhabited

/-- What is known before a command's name, or behind it. -/
structure Level where
  flags : List Flag
  operand : Operand
  deriving DecidableEq, Repr, Inhabited

/-- What is known before a command's name. -/
def Level.program : Level := ⟨[.config, .verbose, .help, .version], .none⟩

/-- What is known behind a command's name. The operand of `validate` is a configuration file too,
and takes the place of the option for it. -/
def CommandName.level : CommandName → Level
  | parse => ⟨[.config, .verbose, .file, .json, .help], .expression⟩
  | check => ⟨[.config, .verbose, .file, .help], .expression⟩
  | format => ⟨[.config, .verbose, .file, .help], .expression⟩
  | validate => ⟨[.verbose, .help], .path⟩
  | version => ⟨[.config, .verbose, .help], .none⟩

/-- How arguments can be misused. -/
inductive Misuse where
  /-- An argument that is not known at its place. -/
  | unexpected (argument : Text)
  | missingValue (flag : Flag)
  /-- An option with a value that has none. -/
  | unneededValue (flag : Flag)
  | emptyPath
  /-- An option given twice on one level. -/
  | repeated (flag : Flag)
  | missingCommand
  deriving DecidableEq, Repr, Inhabited

/-- The wording of a misuse. -/
def Misuse.message : Misuse → Text
  | unexpected argument => lit "error: unexpected argument " ++ argument.quoted
  | missingValue flag => lit "error: a value is required for --" ++ flag.long
  | unneededValue flag => lit "error: no value is expected for --" ++ flag.long
  | emptyPath => lit "error: a path must not be empty"
  | repeated flag => lit "error: --" ++ flag.long ++ lit " cannot be used multiple times"
  | missingCommand => lit "error: a command is required"

/-- Why no command is run. -/
inductive Stop where
  /-- The use of the program or of a command is asked for. -/
  | help (command : Option CommandName)
  | version
  | misuse (why : Misuse)
  deriving DecidableEq, Repr, Inhabited

/-- What has been read on one level. -/
structure Given where
  switches : List Flag := []
  values : List (Flag × Text) := []
  operand : Option Text := none
  /-- The option that has been read last, unless it has been entered, with its value if that has
  come. -/
  pending : Option (Flag × Option Text) := none
  deriving DecidableEq, Repr, Inhabited

namespace Given

/-- Whether an option has been entered. -/
def has (given : Given) (flag : Flag) : Bool :=
  given.switches.contains flag || given.values.any (·.1 == flag)

/-- Enters an option with its value. -/
def enter (given : Given) (flag : Flag) (value : Text) : Except Stop Given :=
  if given.has flag then .error (.misuse (.repeated flag))
  else if value.isEmpty then .error (.misuse .emptyPath)
  else .ok { given with values := (flag, value) :: given.values }

/-- Enters the pending option. -/
def settle (given : Given) : Except Stop Given :=
  match given.pending with
  | none => .ok given
  | some (flag, none) => .error (.misuse (.missingValue flag))
  | some (flag, some value) => { given with pending := none }.enter flag value

/-- Enters an option without a value, or stops for it. -/
def switch (given : Given) (command : Option CommandName) (flag : Flag) : Except Stop Given := do
  let given ← given.settle
  match flag with
  | .help => throw (.help command)
  | .version => throw .version
  | flag =>
    if given.has flag then throw (.misuse (.repeated flag))
    else return { given with switches := flag :: given.switches }

/-- Enters the operand. -/
def setOperand (given : Given) (level : Level) (value : Text) : Except Stop Given := do
  let given ← given.settle
  if given.operand.isSome ∨ level.operand = .none then throw (.misuse (.unexpected value))
  else if level.operand = .path ∧ value.isEmpty then throw (.misuse .emptyPath)
  else return { given with operand := some value }

/-- Reads a long option: its name, and its value if one is attached. -/
def readLong (given : Given) (level : Level) (command : Option CommandName) (name : Text)
    (value : Option Text) : Except Stop Given :=
  match level.flags.find? fun flag => flag.long == name with
  | none => .error (.misuse (.unexpected name))
  | some flag =>
    match flag.takesValue, value with
    | true, some value => do (← given.settle).enter flag value
    | true, none => do return { ← given.settle with pending := some (flag, none) }
    | false, some _ => .error (.misuse (.unneededValue flag))
    | false, none => given.switch command flag

/-- Reads joined short options. The first that has a value takes the rest for it, without a leading
equals sign. -/
def readShort (given : Given) (level : Level) (command : Option CommandName) :
    Text → Except Stop Given
  | [] => .ok given
  | c :: rest =>
    match level.flags.find? fun flag => flag.short? == some c with
    | none => .error (.misuse (.unexpected ['-', c]))
    | some flag =>
      if flag.takesValue then
        match rest with
        | [] => do return { ← given.settle with pending := some (flag, none) }
        | '=' :: value => do (← given.settle).enter flag value
        | value => do (← given.settle).enter flag value
      else do (← given.switch command flag).readShort level command rest

end Given

/-- How an argument looks. -/
inductive Shape where
  /-- The mark behind which every argument is an operand. -/
  | separator
  /-- A long option, with its value if one is attached. -/
  | long (name : Text) (value : Option Text)
  | short (names : Text)
  /-- Anything else; a single dash is one. -/
  | plain
  deriving DecidableEq, Repr, Inhabited

/-- How an argument looks. -/
def Shape.of (argument : Text) : Shape :=
  match argument with
  | ['-', '-'] => .separator
  | '-' :: '-' :: rest =>
    .long (rest.takeWhile (· != '='))
      (match rest.dropWhile (· != '=') with
        | [] => none
        | _ :: value => some value)
  | '-' :: c :: rest => .short (c :: rest)
  | _ => .plain

/-- The option that waits for its value, if one does. -/
def Given.waiting? (given : Given) : Option Flag :=
  match given.pending with
  | some (flag, none) => some flag
  | _ => none

/-- Reads an argument that is an option, or the value of the option before it; an argument that is
neither is left. -/
def Given.readOption (given : Given) (level : Level) (command : Option CommandName)
    (argument : Text) : Except Stop (Option Given) :=
  match Shape.of argument, given.waiting? with
  | .plain, some flag => .ok (some { given with pending := some (flag, some argument) })
  | .plain, none => .ok none
  | .separator, some flag => .error (.misuse (.missingValue flag))
  | .separator, none => .ok none
  | .long name value, _ => (given.readLong level command name value).map some
  | .short names, _ => (given.readShort level command names).map some

/-- Reads the arguments behind a command's name. -/
def Given.readAll (given : Given) (command : CommandName) : List Text → Except Stop Given
  | [] => given.settle
  | argument :: rest => do
    match ← given.readOption command.level (some command) argument with
    | some given => given.readAll command rest
    | none =>
      if Shape.of argument = .separator then
        (← rest.foldlM (fun given argument => given.setOperand command.level argument) given).settle
      else (← given.setOperand command.level argument).readAll command rest

/-- The value of an option. -/
def Given.value? (given : Given) (flag : Flag) : Option Text := given.values.lookup flag

/-- The expression that the arguments behind a command's name give. -/
def Given.source (given : Given) : Source := ⟨given.operand, given.value? .file⟩

/-- The command that its name and the arguments behind it ask for. -/
def CommandName.command (name : CommandName) (given : Given) : Command :=
  match name with
  | parse => .parse given.source (given.has .json)
  | check => .check given.source
  | format => .format given.source
  | validate => .validate given.operand
  | version => .version

/-- The name that asks for help in the place of a command's name. -/
def helpName : Text := lit "help"

/-- What the arguments behind the name for help ask for: the use of the program, or of one
command. -/
def helpOn : List Text → Stop
  | [] => .help none
  | [name] =>
    match CommandName.ofText? name with
    | some command => .help (some command)
    | none => if name = helpName then .help none else .misuse (.unexpected name)
  | _ :: name :: _ => .misuse (.unexpected name)

/-- Reads the arguments behind the ones in `given`. What is pending before a command's name is
entered only when the command's own arguments have been read. -/
def Given.readProgram (given : Given) : List Text → Except Stop Invocation
  | [] => .error (.misuse .missingCommand)
  | argument :: rest => do
    match ← given.readOption .program none argument with
    | some given => given.readProgram rest
    | none =>
      match CommandName.ofText? argument with
      | none =>
        throw (if argument = helpName then helpOn rest else .misuse (.unexpected argument))
      | some name => do
        let inner ← Given.readAll {} name rest
        let outer ← given.settle
        return {
          config := (inner.value? .config).or (outer.value? .config)
          verbose := inner.has .verbose || outer.has .verbose
          command := name.command inner }

/-- The invocation that arguments ask for. -/
def Invocation.ofArguments (arguments : List Text) : Except Stop Invocation :=
  Given.readProgram {} arguments

end PadGraph

import PadGraph.Chain.Error
import PadGraph.Config.Read
import PadGraph.Files
import PadGraph.Text.Quoted
import PadGraph.Text.Utf8

/-!
# Failures

A failure is a chain of causes: what could not be done, why, and what lies behind that. It is
reported with its causes below it, indented and, when there are several, numbered.

* `Cause` — one link of the chain, with its wording in `Cause.message`.
* `Failure` — a chain of causes; `Failure.during` puts one before it.
* `Failure.report` — the report of a failure.
-/

namespace PadGraph

/-- One reason for a failure. -/
inductive Cause where
  /-- The expression file at a path could not be read. -/
  | expressionFile (path : Text)
  | standardInput
  | noExpression
  | overLimit (limits : Limits)
  /-- The expression has `length` bytes, more than allowed. -/
  | tooLong (length : Nat) (limits : Limits)
  | notUtf8
  | utf8 (fault : Utf8.Fault)
  | invalidGraph
  /-- Why a chain of the expression cannot be read. -/
  | chain (error : ChainError)
  /-- The configuration file at a path could not be read. -/
  | configFile (path : Text)
  | configNotText
  /-- The configuration file at a path holds no configuration. -/
  | configContent (path : Text)
  | config (fault : Config.Fault)
  /-- The configured limit allows no expression. -/
  | zeroLimit
  | os (error : OsError)
  deriving DecidableEq, Repr, Inhabited

/-- The end of every message about the limit. -/
def Limits.overText (limits : Limits) : Text :=
  lit "over the " ++ limits.shown ++ lit " byte limit (parser.max_input_len)"

/-- The wording of a cause. -/
def Cause.message : Cause → Text
  | expressionFile path => lit "Failed to read expression file: " ++ path.quoted
  | standardInput => lit "Failed to read expression from stdin"
  | noExpression =>
    lit "No expression given (pass one inline, `-` for stdin, or --file)"
  | overLimit limits => lit "Expression is " ++ limits.overText
  | tooLong length limits =>
    lit "Expression is " ++ Text.decimal length ++ lit " bytes, " ++ limits.overText
  | notUtf8 => lit "Expression is not valid UTF-8"
  | utf8 fault => fault.message
  | invalidGraph => lit "Invalid filter graph"
  | chain error => error.message
  | configFile path => lit "Failed to read config file: " ++ path.quoted
  | configNotText => lit "stream did not contain valid UTF-8"
  | configContent path => lit "Failed to parse config file: " ++ path.quoted
  | config fault => fault.message
  | zeroLimit => lit "parser.max_input_len cannot be 0"
  | os error => error.message

/-- A failure with the causes behind it, the nearest one first. -/
structure Failure where
  outer : Cause
  /-- Why, from the nearest cause to the last. -/
  inner : List Cause := []
  deriving DecidableEq, Repr, Inhabited

namespace Failure

/-- The failure of which `failure` is the cause. -/
def during (outer : Cause) (failure : Failure) : Failure := ⟨outer, failure.outer :: failure.inner⟩

/-- All causes, the outermost first. -/
def causes (failure : Failure) : List Cause := failure.outer :: failure.inner

/-- A text whose lines are indented: the first by `head`, the others by as many blanks. -/
def indent (head text : Text) : Text :=
  head ++ ('\n' :: List.replicate head.length ' ').intercalate text.lines

/-- The number before a cause in a list of causes, five places wide and with a colon. -/
def label (index : Nat) : Text :=
  let digits := Text.decimal index
  List.replicate (5 - digits.length) ' ' ++ digits ++ lit ": "

/-- The lines that tell the causes of a failure. -/
def causeLines : List Cause → List Text
  | [] => []
  | [cause] => [[], lit "Caused by:", indent (lit "    ") cause.message]
  | causes =>
    [] :: lit "Caused by:" ::
      causes.mapIdx fun index cause => indent (label index) cause.message

/-- The report of a failure. -/
def report (failure : Failure) : Text :=
  lit "Error: " ++ failure.outer.message ++
    (causeLines failure.inner).flatMap ('\n' :: ·) ++ ['\n']

end Failure

end PadGraph

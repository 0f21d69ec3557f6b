import PadGraph.Failure
import PadGraph.Graph.Parse

/-!
# Reading an expression

An expression is given in place, or comes from a file or from the standard input. Files and the
standard input are read at most one byte past the limit, so that a source that is too long is told
from one that is not without reading all of it.

* `readLimited` — a bounded read.
* `Source`, `readExpression` — where an expression comes from, and its text.
* `checkLength`, `parseExpression` — an expression that is not too long, read as a graph.
-/

namespace PadGraph

/-- The greatest number of bytes that are read of a source under a limit: one more than allowed, as
far as 64 bits can tell. -/
def Limits.readBound (limits : Limits) : Nat := min (limits.maxInputLen.toNat + 1) (UInt64.size - 1)

/-- What a bounded read gave, and what it left of its source. -/
structure LimitedRead where
  /-- The text that was read, or why there is none. -/
  outcome : Except Failure Text
  unread : List UInt8

/-- Reads a source to its end or to one byte past the limit. The limit counts before the bytes
do. -/
def readLimited (limits : Limits) (source : List UInt8) : LimitedRead :=
  let bytes := source.take limits.readBound
  let outcome :=
    if limits.maxInputLen.toNat < bytes.length then .error ⟨.overLimit limits, []⟩
    else
      match Utf8.decode bytes with
      | .ok text => .ok text
      | .error fault => .error ⟨.notUtf8, [.utf8 fault]⟩
  ⟨outcome, source.drop limits.readBound⟩

/-- Where an expression may come from. -/
structure Source where
  /-- The expression itself, or `-` for the standard input. -/
  inline : Option Text := none
  /-- The path of a file, which counts before the expression itself. -/
  file : Option Text := none
  deriving DecidableEq, Repr, Inhabited

/-- The text of an expression. -/
def readExpression (files : FileSystem) (stdin : List UInt8) (limits : Limits) (source : Source) :
    Except Failure Text :=
  match source.file, source.inline with
  | some path, _ =>
    match (files path).bytes with
    | .ok bytes => (readLimited limits bytes).outcome.mapError (·.during (.expressionFile path))
    | .error error => .error ⟨.expressionFile path, [.os error]⟩
  | none, some inline =>
    if inline = ['-'] then (readLimited limits stdin).outcome.mapError (·.during .standardInput)
    else .ok inline
  | none, none => .error ⟨.noExpression, []⟩

/-- Refuses an expression that is too long. -/
def checkLength (limits : Limits) (text : Text) : Except Failure Unit :=
  let length := Utf8.byteLength text
  if limits.maxInputLen.toNat < length then .error ⟨.tooLong length limits, []⟩ else .ok ()

/-- The graph of an expression that is not too long. -/
def parseExpression (limits : Limits) (text : Text) : Except Failure Graph := do
  checkLength limits text
  match parse text with
  | .ok graph => return graph
  | .error error => throw ⟨.invalidGraph, [.chain error]⟩

end PadGraph

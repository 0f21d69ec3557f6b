import PadGraph.Command.Usage

/-!
# The program

Reads what a command may look at, runs the command on it, and prints what it leaves. Files that may
hold the configuration are read as a whole; the expression is read only as far as the configured
limit needs.
-/

namespace PadGraph

/-- Reads from a stream to its end, or until `bound` bytes have been read. -/
partial def readBounded (read : USize → IO ByteArray) (bound : Nat) (bytes : ByteArray) :
    IO ByteArray := do
  if bound ≤ bytes.size then return bytes
  let more ← read (min 65536 (bound - bytes.size)).toUSize
  if more.isEmpty then return bytes
  readBounded read bound (bytes ++ more)

/-- The error of the operating system that ended an action. -/
def osErrorOf : IO.Error → OsError
  | .noFileOrDirectory _ code details | .interrupted _ code details => ⟨code.toNat, details.toList⟩
  | .alreadyExists _ code details | .inappropriateType _ code details
  | .invalidArgument _ code details | .noSuchThing _ code details
  | .permissionDenied _ code details | .resourceExhausted _ code details =>
    ⟨code.toNat, details.toList⟩
  | .hardwareFault code details | .illegalOperation code details | .otherError code details
  | .protocolError code details | .resourceBusy code details | .resourceVanished code details
  | .timeExpired code details | .unsatisfiedConstraints code details
  | .unsupportedOperation code details => ⟨code.toNat, details.toList⟩
  | .unexpectedEof | .userError _ => ⟨5, lit "Input/output error"⟩

/-- Whether every directory on a path may be entered and something stands at its end. -/
def isSeen (path : Text) : IO Bool := do
  try
    discard <| IO.FS.realPath (String.ofList path)
    return true
  catch _ => return false

/-- What stands at a path, with at most `bound` bytes of a file. -/
def look (path : Text) (bound : Nat) : IO Entry := do
  try
    let handle ← IO.FS.Handle.mk (String.ofList path) .read
    let bytes ← readBounded handle.read bound .empty
    return .file bytes.toList
  catch error =>
    let error := osErrorOf error
    return if ← isSeen path then .refused error else .unseen error

/-- The file system of which only the given paths are known. -/
def fileSystemOf (known : List (Text × Entry)) : FileSystem := fun path =>
  (known.lookup path).getD .missing

/-- The world as far as a command may look at it. -/
def observe (invocation : Invocation) : IO World := do
  let home := ((← IO.getEnv "HOME").map String.toList).filter (!·.isEmpty)
  let known ← (invocation.configPaths home).mapM fun path => return (path, ← look path (1 <<< 63))
  let world : World := ⟨fileSystemOf known, [], home⟩
  match invocation.command.source?, findConfig world.files home invocation.config with
  | some ⟨_, some path⟩, .ok config =>
    if known.any (·.1 == path) then return world
    let entry ← look path config.parser.readBound
    return { world with files := fileSystemOf ((path, entry) :: known) }
  | some ⟨some ['-'], none⟩, .ok config =>
    let stdin ← IO.getStdin
    let bytes ← readBounded stdin.read config.parser.readBound .empty
    return { world with stdin := bytes.toList }
  | _, _ => return world

/-- Runs the command that the arguments ask for, and gives the exit status. -/
def runProgram (arguments : List Text) : IO Nat := do
  match Invocation.ofArguments arguments with
  | .error stop =>
    IO.print (String.ofList stop.printed)
    if let .misuse why := stop then IO.eprintln (String.ofList why.message)
    return stop.status
  | .ok invocation =>
    let outcome := invocation.run (← observe invocation)
    IO.print (String.ofList outcome.printed)
    IO.eprint (String.ofList outcome.errors)
    return outcome.status

end PadGraph

/-- The program. -/
def main (arguments : List String) : IO UInt32 := do
  return (← PadGraph.runProgram (arguments.map String.toList)).toUInt32

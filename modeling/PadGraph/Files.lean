import PadGraph.Text

/-!
# What stands at a path

A file system is known by what it holds at each path. Reading either gives all bytes of a file or
fails with an error of the operating system.

* `OsError` — the errors.
* `Entry` — what stands at a path; `Entry.bytes` reads it.
* `FileSystem` — what stands at every path.
-/

namespace PadGraph

/-- Why the operating system refuses something. -/
structure OsError where
  number : Nat
  wording : Text
  deriving DecidableEq, Repr, Inhabited

namespace OsError

/-- The wording of an error, with its number. -/
def message (error : OsError) : Text :=
  error.wording ++ lit " (os error " ++ Text.decimal error.number ++ [')']

def notFound : OsError := ⟨2, lit "No such file or directory"⟩

end OsError

/-- What stands at a path. -/
inductive Entry where
  /-- Nothing that is seen, and why it is not. -/
  | unseen (error : OsError)
  /-- Something that is seen and cannot be read, a directory among others, and why it cannot. -/
  | refused (error : OsError)
  | file (bytes : List UInt8)
  deriving DecidableEq, Repr, Inhabited

namespace Entry

abbrev missing : Entry := unseen .notFound

/-- Whether anything is seen to stand there. -/
def isPresent : Entry → Bool
  | unseen _ => false
  | refused _ => true
  | file _ => true

/-- The bytes read from there. -/
def bytes : Entry → Except OsError (List UInt8)
  | unseen error => .error error
  | refused error => .error error
  | file bytes => .ok bytes

end Entry

/-- What stands at every path. -/
abbrev FileSystem := Text → Entry

end PadGraph

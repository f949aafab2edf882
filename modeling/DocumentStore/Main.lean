import DocumentStore.CommandLine
import DocumentStore.Fresh
import Std.Time.DateTime

/-!
# The program

The outer layer of the command line: it reads the files, takes a random id and the time, runs the
command and prints.
-/

set_option autoImplicit false

namespace DocumentStore

/-- The time now. -/
def now : IO Moment := do
  let elapsed ← Std.Time.Timestamp.now
  let time := Std.Time.PlainDateTime.ofWallTime (.ofDuration elapsed.val)
  return { year := time.year
           month := time.month.val.toNat
           day := time.day.val.toNat
           hour := time.hour.val.toNat
           minute := time.minute.val.toNat
           second := time.second.val.toNat
           millisecond := time.nanosecond.val.toNat / 1000000 }

/-- A transaction of this moment. -/
def freshTransaction : IO Transaction := do
  let bytes ← IO.getRandomBytes 16
  let moment ← now
  return ⟨randomIdText bytes.toList, moment.text⟩

/-- What is said of a file that the system refuses. -/
def refusalMessage : IO.Error → String
  | .noFileOrDirectory _ code reason => systemMessage reason code.toNat
  | .inappropriateType _ code reason => systemMessage reason code.toNat
  | .invalidArgument _ code reason => systemMessage reason code.toNat
  | .permissionDenied _ code reason => systemMessage reason code.toNat
  | .resourceExhausted _ code reason => systemMessage reason code.toNat
  | .otherError code reason => systemMessage reason code.toNat
  | other => toString other

/-- The contents of a file, or what is said of one that cannot be read. -/
def readContents (name : String) : IO (Except String String) := do
  try
    return .ok (← IO.FS.readFile name)
  catch refusal =>
    return .error (refusalMessage refusal)

end DocumentStore

open DocumentStore in
/-- Runs a command line. -/
def main (arguments : List String) : IO UInt32 := do
  let names := match Command.ofCommandLine arguments with
    | .ok command => command.fileNames
    | .error _ => []
  let contents ← names.mapM (fun name => do return (name, ← readContents name))
  let files : Command.Files := fun name =>
    (contents.lookup name).getD (.error FileProblem.missing.message)
  let outcome := runCommandLine files (← freshTransaction) arguments
  IO.print outcome.output
  if let some line := outcome.error then
    IO.eprintln line
  return outcome.code.toUInt32

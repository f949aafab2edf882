import DocumentStore.Answer
import DocumentStore.CommandLine.Help
import DocumentStore.Folder
import DocumentStore.Json.Printer
import DocumentStore.Path.Outline

/-!
# The command line

Three commands: one reads a path from a JSON text, one shows the tokens and the tree of a path,
and one applies a batch from a file to the documents of another.  Help and the version are
printed in place of a run.

* `Outcome` — how a run ends.
* `Command.fileNames`, `Command.run` — the files that a command reads, and what it prints.
* `runCommandLine` — a whole command line on given files.
-/

set_option autoImplicit false

namespace DocumentStore

/-- How a run ends: what is printed, and the line of an error. -/
structure Outcome where
  code : Nat
  output : String
  error : Option String
  deriving DecidableEq

namespace Outcome

/-- A run that succeeds. -/
def success (output : String) : Outcome := ⟨0, output, none⟩

/-- A run that fails after some output. -/
def failure (output message : String) : Outcome := ⟨1, output, some ("error: " ++ message)⟩

/-- A command line that asks for nothing there is. -/
def misuse : Outcome := ⟨2, "", none⟩

end Outcome

namespace Command

/-- The files that a command reads. -/
def fileNames : Command → List String
  | .get _ _ => []
  | .parse _ => []
  | .mutate dataset mutations _ config => config.toList ++ [dataset, mutations]

/-- Reads a file: its contents, or what is said of one that cannot be read. -/
abbrev Files := String → Except String String

/-- The files of a folder. -/
def Files.ofFolder (folder : Folder) : Files := fun name =>
  (folder.read name).mapError FileProblem.message

/-- What is printed for a text that is no JSON of the form needed. -/
def malformedJson : String := "malformed JSON"

/-- The value of an option, or an error. -/
def orElse {α : Type} (value : Option α) : Except String α :=
  match value with
  | some value => .ok value
  | none => .error malformedJson

/-- Reads a path from a JSON text. -/
def runGet (json path : String) : Except String String := do
  let value ← orElse (Json.ofText? json)
  let found ← ((PathExpr.ofText path).bind (fun expr => expr.read value)).mapError Fault.message
  .ok ((found.getD .null).indented ++ "\n")

/-- Shows the tokens and the tree of a path. -/
def runParse (path : String) : Outcome :=
  match Token.ofText path with
  | .error fault => .failure "" fault.message
  | .ok tokens =>
    let listing := String.join (tokens.map (fun token => token.listing ++ "\n"))
    match PathExpr.ofTokensOf path tokens with
    | .error fault => .failure listing fault.message
    | .ok expr => .success (listing ++ expr.render ++ "\n" ++ expr.outline.text ++ "\n")

/-- The settings of a file, or the default ones. -/
def readConfig (files : Files) : Option String → Except String Config
  | none => .ok .default
  | some name => do
    let text ← files name
    orElse (Config.ofText? text)

/-- Applies a batch to the documents of a file. -/
def runMutate (files : Files) (tx : Transaction) (dataset mutations : String)
    (config : Option String) : Except String String := do
  let config ← readConfig files config
  let text ← files dataset
  let documents ← orElse ((Json.ofText? text).bind (Json.itemsOf? Document.ofJson?))
  let text ← files mutations
  let batch ← orElse (Json.ofText? text)
  let (store, _) := Store.new config Evaluator.filter documents
  let (store, logged) := store.mutateJson tx batch
  let result ← logged.result.mapError Fault.message
  .ok ((Json.ofFields [("result", result.toJson),
    ("documents", Json.ofItems (store.dataset.documents.map Document.toJson))]).indented ++ "\n")

/-- An outcome of a command that prints nothing when it fails. -/
def outcomeOf : Except String String → Outcome
  | .ok output => .success output
  | .error message => .failure "" message

/-- A command on these files.  A batch without a transaction id takes the one given. -/
def run (files : Files) (fresh : Transaction) : Command → Outcome
  | .get json path => outcomeOf (runGet json path)
  | .parse path => runParse path
  | .mutate dataset mutations transactionId config =>
    outcomeOf (runMutate files ⟨transactionId.getD fresh.id, fresh.timestamp⟩ dataset mutations
      config)

end Command

/-- What a reading that found no command leads to. -/
def Detour.outcome : Detour → Outcome
  | .help topic => .success topic.page.text
  | .version => .success versionText
  | .misuse => .misuse

/-- A whole command line on these files. -/
def runCommandLine (files : Command.Files) (fresh : Transaction) (arguments : List String) :
    Outcome :=
  match Command.ofCommandLine arguments with
  | .ok command => command.run files fresh
  | .error detour => detour.outcome

end DocumentStore

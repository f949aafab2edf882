/-!
# What the commands take

The commands by name, with their arguments and options, and a sentence on each for the pages of
help.

* `CommandName`, `CommandName.parameters`, `CommandName.options` — the commands.
* `programOptions` — the options that stand before a command.
-/

set_option autoImplicit false

namespace DocumentStore

/-- What a value given on the command line is. -/
inductive ValueKind where
  | text
  | fileName
  deriving DecidableEq

/-- Whether a text is such a value: a file has a name that is not empty. -/
def ValueKind.accepts : ValueKind → String → Bool
  | .text, _ => true
  | .fileName, value => !value.isEmpty

/-- An argument that a command needs. -/
structure Parameter where
  name : String
  kind : ValueKind
  summary : String

/-- What an option does. -/
inductive OptionEffect where
  | verbose
  | takes (name : String) (kind : ValueKind)
  | help
  | version

/-- An option: its letter if it has one, its word, and what it does. -/
structure CommandOption where
  letter : Option Char
  word : String
  effect : OptionEffect
  summary : String

namespace CommandOption

/-- Tells more of what is done. -/
def verbose : CommandOption :=
  ⟨none, "verbose", .verbose, "Log applied mutations and emitted events"⟩

/-- Gives the transaction an id. -/
def transactionId : CommandOption :=
  ⟨none, "transaction-id", .takes "TRANSACTION_ID" .text, ""⟩

/-- Gives the file of the settings. -/
def config : CommandOption :=
  ⟨none, "config", .takes "CONFIG" .fileName, "JSON store configuration"⟩

/-- Asks for help. -/
def help : CommandOption := ⟨some 'h', "help", .help, "Print help"⟩

/-- Asks for the version. -/
def version : CommandOption := ⟨some 'V', "version", .version, "Print version"⟩

end CommandOption

/-- The commands. -/
inductive CommandName where
  | get
  | parse
  | mutate
  deriving DecidableEq

namespace CommandName

/-- All of them, as they are listed. -/
def all : List CommandName := [.get, .parse, .mutate]

/-- How a command is written. -/
def text : CommandName → String
  | .get => "get"
  | .parse => "parse"
  | .mutate => "mutate"

/-- The command written so. -/
def ofText? (written : String) : Option CommandName := all.find? (fun name => name.text == written)

/-- What a command does. -/
def summary : CommandName → String
  | .get => "Read a path from a JSON document"
  | .parse => "Show the tokens and syntax tree of a path"
  | .mutate => "Apply a mutation batch to a dataset and print the result"

/-- The arguments of a command, in order. -/
def parameters : CommandName → List Parameter
  | .get =>
    [⟨"JSON", .text, "JSON document (string)"⟩,
      ⟨"PATH", .text, "Path expression, e.g. `body[_key==\"a\"].text`"⟩]
  | .parse => [⟨"PATH", .text, ""⟩]
  | .mutate =>
    [⟨"DATASET", .fileName, "JSON file holding an array of documents"⟩,
      ⟨"MUTATIONS", .fileName, "JSON file holding an array of mutations"⟩]

/-- The options of a command, in the order in which they are listed. -/
def options : CommandName → List CommandOption
  | .get => [.verbose, .help]
  | .parse => [.verbose, .help]
  | .mutate => [.transactionId, .verbose, .config, .help]

end CommandName

/-- The options that stand before a command. -/
def programOptions : List CommandOption := [.verbose, .help, .version]

end DocumentStore

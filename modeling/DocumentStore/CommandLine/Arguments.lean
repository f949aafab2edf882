import DocumentStore.CommandLine.Signature

/-!
# Reading a command line

A command line is read from left to right until a command has all that it takes, or something
ends the reading: help or the version is asked for, or an argument is out of place.  What comes
first decides.

* `Command` — what a command line asks for.
* `Detour` — why the reading ended before a command was found.
* `Command.ofCommandLine` — the reading.
-/

set_option autoImplicit false

namespace DocumentStore

/-- What a command line asks for. -/
inductive Command where
  | get (json path : String)
  | parse (path : String)
  | mutate (dataset mutations : String) (transactionId config : Option String)

/-- What help is asked on. -/
inductive Topic where
  | program
  | command (name : CommandName)
  | help

/-- Why the reading of a command line ended before a command was found. -/
inductive Detour where
  | help (topic : Topic)
  | version
  | misuse

/-- The arguments of a command: its positional ones, the values of its options by word, and
whether it is verbose. -/
structure Arguments where
  positional : List String
  values : List (String × String)
  isVerbose : Bool

namespace Arguments

/-- No arguments. -/
def empty : Arguments := ⟨[], [], false⟩

/-- A positional argument behind those seen. -/
def addPositional (name : CommandName) (seen : Arguments) (argument : String) :
    Except Detour Arguments :=
  match name.parameters[seen.positional.length]? with
  | some parameter =>
    if parameter.kind.accepts argument then
      .ok { seen with positional := seen.positional ++ [argument] }
    else .error .misuse
  | none => .error .misuse

/-- The value of an option, which may be given once. -/
def addValue (word : String) (kind : ValueKind) (seen : Arguments) (value : String) :
    Except Detour Arguments :=
  if kind.accepts value && (seen.values.lookup word).isNone then
    .ok { seen with values := (word, value) :: seen.values }
  else .error .misuse

/-- The wish to be verbose, which may be given once. -/
def beVerbose (seen : Arguments) : Except Detour Arguments :=
  if seen.isVerbose then .error .misuse else .ok { seen with isVerbose := true }

end Arguments

/-- How an argument is written: as options are, or plainly. -/
inductive ArgumentForm where
  | plain
  | letter (letter : Char)
  | word (word : String) (value : Option String)

/-- The form of an argument.  Of a group of letters only the first counts, since each option that
has a letter ends the reading. -/
def ArgumentForm.of (argument : String) : ArgumentForm :=
  match argument.toList with
  | '-' :: '-' :: rest =>
    .word (String.ofList (rest.takeWhile (· != '=')))
      (match rest.dropWhile (· != '=') with
        | _ :: value => some (String.ofList value)
        | [] => none)
  | '-' :: c :: _ => .letter c
  | _ => .plain

/-- How the reading goes on after an option without a value. -/
def OptionEffect.apply (topic : Topic) (seen : Arguments) : OptionEffect → Except Detour Arguments
  | .verbose => seen.beVerbose
  | .takes _ _ => .error .misuse
  | .help => .error (.help topic)
  | .version => .error .version

/-- How the reading goes on after a letter. -/
def applyLetter (options : List CommandOption) (topic : Topic) (seen : Arguments) (letter : Char) :
    Except Detour Arguments :=
  match options.find? (fun option => option.letter == some letter) with
  | some option => option.effect.apply topic seen
  | none => .error .misuse

/-- What a word of an option does. -/
def effectOf? (options : List CommandOption) (word : String) : Option OptionEffect :=
  (options.find? (fun option => option.word == word)).map (fun option => option.effect)

/-- The arguments behind the name of a command and those seen.  Behind `--` all are positional. -/
def readArguments (name : CommandName) (seen : Arguments) :
    List String → Except Detour Arguments
  | [] => .ok seen
  | argument :: rest =>
    if argument = "--" then rest.foldlM (Arguments.addPositional name) seen
    else match ArgumentForm.of argument with
      | .plain => do
        let seen ← seen.addPositional name argument
        readArguments name seen rest
      | .letter letter => do
        let seen ← applyLetter name.options (.command name) seen letter
        readArguments name seen rest
      | .word word (some value) =>
        match effectOf? name.options word with
        | some (.takes _ kind) => do
          let seen ← seen.addValue word kind value
          readArguments name seen rest
        | _ => .error .misuse
      | .word word none =>
        match effectOf? name.options word, rest with
        | some (.takes _ kind), value :: rest =>
          match ArgumentForm.of value with
          | .plain => do
            let seen ← seen.addValue word kind value
            readArguments name seen rest
          | _ => .error .misuse
        | some effect, rest => do
          let seen ← effect.apply (.command name) seen
          readArguments name seen rest
        | none, _ => .error .misuse

/-- What `help` and the arguments behind it ask for. -/
def helpOn : List String → Detour
  | [] => .help .program
  | [topic] =>
    if topic = "help" then .help .help
    else match CommandName.ofText? topic with
      | some name => .help (.command name)
      | none => .misuse
  | _ => .misuse

namespace Command

/-- The command of a name with its arguments. -/
def ofArguments (name : CommandName) (arguments : Arguments) : Except Detour Command :=
  match name, arguments.positional with
  | .get, [json, path] => .ok (.get json path)
  | .parse, [path] => .ok (.parse path)
  | .mutate, [dataset, mutations] =>
    .ok (.mutate dataset mutations (arguments.values.lookup CommandOption.transactionId.word)
      (arguments.values.lookup CommandOption.config.word))
  | _, _ => .error .misuse

/-- The command of a command line behind the options seen. -/
def afterOptions (seen : Arguments) : List String → Except Detour Command
  | [] => .error .misuse
  | argument :: rest =>
    if argument = "help" then .error (helpOn rest)
    else match CommandName.ofText? argument with
      | some name => do
        let arguments ← readArguments name .empty rest
        ofArguments name arguments
      | none =>
        match ArgumentForm.of argument with
        | .letter letter => do
          let seen ← applyLetter programOptions .program seen letter
          afterOptions seen rest
        | .word word none =>
          match effectOf? programOptions word with
          | some effect => do
            let seen ← effect.apply .program seen
            afterOptions seen rest
          | none => .error .misuse
        | _ => .error .misuse

/-- The command that a whole command line asks for. -/
def ofCommandLine (arguments : List String) : Except Detour Command :=
  afterOptions .empty arguments

end Command

end DocumentStore

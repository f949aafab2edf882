import DocumentStore.CommandLine.Arguments

/-!
# Pages of help

A page says what a command does and how it is used, and then lists its arguments and options in
two columns.

* `HelpPage`, `HelpPage.text` — a page and its layout.
* `Topic.page` — the page of a topic.
* `versionText` — what is said of the version.
-/

set_option autoImplicit false

namespace DocumentStore

/-- A page of help: what its topic is for, how that is called, and lists of terms. -/
structure HelpPage where
  summary : String
  usage : String
  sections : List (String × List (String × String))

namespace HelpPage

/-- A text with blanks behind it, up to a width. -/
def padded (width : Nat) (text : String) : String :=
  text ++ String.ofList (List.replicate (width - text.length) ' ')

/-- The length of the longest term. -/
def widthOf (rows : List (String × String)) : Nat :=
  rows.foldl (fun width (term, _) => Nat.max width term.length) 0

/-- A titled list, its explanations in one column. -/
def sectionText (title : String) (rows : List (String × String)) : String :=
  "\n" ++ title ++ ":\n" ++ String.join (rows.map (fun (term, explanation) =>
    "  " ++ padded (widthOf rows) term ++ "  " ++ explanation ++ "\n"))

/-- The lines of a page. -/
def text (page : HelpPage) : String :=
  page.summary ++ "\n\nUsage: " ++ page.usage ++ "\n"
    ++ String.join (page.sections.map (fun (title, rows) => sectionText title rows))

end HelpPage

/-- The name that the program is called by. -/
def programName : String := "pstore"

/-- What is said of the version. -/
def versionText : String := "patch-store 0.1.0\n"

/-- What asking for help does. -/
def helpSummary : String := "Print this message or the help of the given subcommand(s)"

/-- An argument that has to be given, in a page of help. -/
def Parameter.term (parameter : Parameter) : String := "<" ++ parameter.name ++ ">"

/-- An option in a page of help; room is left for the letter of one that has none. -/
def CommandOption.term (option : CommandOption) : String :=
  let letter := match option.letter with
    | some letter => "-" ++ String.ofList [letter] ++ ", "
    | none => "    "
  let value := match option.effect with
    | .takes name _ => " <" ++ name ++ ">"
    | _ => ""
  letter ++ "--" ++ option.word ++ value

/-- The list of some options. -/
def optionSection (options : List CommandOption) : String × List (String × String) :=
  ("Options", options.map (fun option => (option.term, option.summary)))

/-- The page of a topic. -/
def Topic.page : Topic → HelpPage
  | .program =>
    { summary := "Inspect paths and apply mutation batches from the command line"
      usage := programName ++ " [OPTIONS] <COMMAND>"
      sections :=
        [("Commands",
          CommandName.all.map (fun name => (name.text, name.summary)) ++ [("help", helpSummary)]),
        optionSection programOptions] }
  | .command name =>
    { summary := name.summary
      usage := programName ++ " " ++ name.text ++ " [OPTIONS]"
        ++ String.join (name.parameters.map (fun parameter => " " ++ parameter.term))
      sections :=
        [("Arguments", name.parameters.map (fun parameter => (parameter.term, parameter.summary))),
        optionSection name.options] }
  | .help =>
    { summary := helpSummary
      usage := programName ++ " help [COMMAND]..."
      sections := [("Arguments", [("[COMMAND]...", "Print help for the subcommand(s)")])] }

end DocumentStore

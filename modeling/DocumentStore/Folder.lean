import DocumentStore.Text.Pieces

/-!
# Folders of text files

A folder holds text files under names that may lead through other folders.  A name is a chain of
steps between slashes: an empty step or a single dot stays where it is, two dots go back, and any
other step enters a folder or ends at a file.

* `FileProblem` — why a name leads to no text.
* `Folder.ofFiles`, `Folder.read` — a folder from its files, and the text that a name leads to.
-/

set_option autoImplicit false

namespace DocumentStore

/-- Why a name leads to no text. -/
inductive FileProblem where
  | missing
  | notAFolder
  | isAFolder
  | nameTooLong
  deriving DecidableEq

/-- What is said of a file that cannot be read: the reason, and its number in the system. -/
def systemMessage (reason : String) (code : Nat) : String :=
  reason ++ " (os error " ++ toString code ++ ")"

/-- The text of a problem. -/
def FileProblem.message : FileProblem → String
  | .missing => systemMessage "No such file or directory" 2
  | .notAFolder => systemMessage "Not a directory" 20
  | .isAFolder => systemMessage "Is a directory" 21
  | .nameTooLong => systemMessage "File name too long" 36

/-- Where a name has led so far: along these steps, or out of the folder it started in.  Of what
lies outside nothing is known but that it is a folder. -/
inductive Place where
  | inside (steps : List String)
  | outside

/-- One step back. -/
def Place.parent : Place → Place
  | .inside [] => .outside
  | .inside (step :: steps) => .inside (step :: steps).dropLast
  | .outside => .outside

/-- Text files, each under the steps that lead to it. -/
structure Folder where
  files : List (List String × String)

namespace Folder

/-- The most bytes that a step may have. -/
def longestStep : Nat := 255

/-- The most bytes that a whole name may have. -/
def longestName : Nat := 4095

/-- Whether a step stays where it is. -/
def isIdle (step : String) : Bool := step.isEmpty || step == "."

/-- The steps of a name. -/
def stepsOf (name : String) : List String := (piecesOf '/' name.toList).map String.ofList

/-- A folder of these files; of two with one name the later one counts. -/
def ofFiles (contents : List (String × String)) : Folder :=
  ⟨(contents.map (fun (name, text) =>
    ((stepsOf name).filter (fun step => !isIdle step), text))).reverse⟩

/-- Whether the way to some file goes along these steps. -/
def leadsAlong (folder : Folder) (steps : List String) : Bool :=
  folder.files.any (fun (path, _) => steps.isPrefixOf path)

/-- The text that further steps lead to. -/
def follow (folder : Folder) : Place → List String → Except FileProblem String
  | _, [] => .error .isAFolder
  | place, step :: rest =>
    if isIdle step then folder.follow place rest
    else if step = ".." then folder.follow place.parent rest
    else if longestStep < step.utf8ByteSize then .error .nameTooLong
    else match place with
      | .outside => .error .missing
      | .inside steps =>
        let path := steps ++ [step]
        match folder.files.lookup path with
        | some text => if rest.isEmpty then .ok text else .error .notAFolder
        | none =>
          if folder.leadsAlong path then folder.follow (.inside path) rest else .error .missing

/-- The text that a name leads to.  A name that begins with a slash starts outside. -/
def read (folder : Folder) (name : String) : Except FileProblem String :=
  if name.isEmpty then .error .missing
  else if longestName < name.utf8ByteSize then .error .nameTooLong
  else folder.follow (if name.startsWith "/" then .outside else .inside []) (stepsOf name)

end Folder

end DocumentStore

import Blueprint.Text.Cut

/-
  Reading files by their paths.

  A tree holds the files below one folder, and the folders
  on the way to them. Nothing is known of what lies outside
  of it, except that the folders above it exist.

  Main definitions:
    * `ReadFault`, `Reading`
    * `FileTree`, `FileTree.ofPaths`
    * `FileTree.read`
    * `folderOf`, `besides`
-/

------------------------------------------------------------
-- Readings
------------------------------------------------------------

namespace Blueprint

/- Why a path cannot be read as text. -/
inductive ReadFault where
| missing
| denied
| notFolder
| folder
| notText
| other (message : String)
deriving DecidableEq, Repr

namespace ReadFault

/- What is told about a path that cannot be read. -/
def message : ReadFault → String
| .missing => "No such file or directory (os error 2)"
| .denied => "Permission denied (os error 13)"
| .notFolder => "Not a directory (os error 20)"
| .folder => "Is a directory (os error 21)"
| .notText => "stream did not contain valid UTF-8"
| .other message => message

/- A file exists, although it cannot be read. -/
def isOfFile : ReadFault → Bool
| .missing => false
| .notFolder => false
| .folder => false
| _ => true

end ReadFault

/- The text of a file, or why it cannot be read. -/
abbrev Reading := Except ReadFault String

/- A file exists, whether or not it can be read. -/
def Reading.isOfFile : Reading → Bool
| .ok _ => true
| .error fault => fault.isOfFile

/- The text that bytes encode. -/
def Reading.ofBytes (bytes : ByteArray) : Reading :=
  match String.fromUTF8? bytes with
  | some text => .ok text
  | none => .error .notText

end Blueprint

------------------------------------------------------------
-- Trees
------------------------------------------------------------

namespace Blueprint

open Text

/- The files below a folder, each with the steps to it. -/
structure FileTree where
  files : List (List String × ByteArray)

/- What a path leads to. -/
inductive Place where
| file (bytes : ByteArray)
| folder (steps : List String)
| outside

/- The steps that a path is made of. -/
def pathSteps (path : String) : List String :=
  (splitWhere (· == '/') path.toList).map String.ofList

/- A step that leads nowhere else. -/
def isIdleStep (step : String) : Bool :=
  step == "" || step == "."

namespace FileTree

/- The tree of files with their paths. -/
def ofPaths (files : List (String × ByteArray)) : FileTree :=
  ⟨files.map fun (path, bytes) =>
    ((pathSteps path).filter (!isIdleStep ·), bytes)⟩

/- What lies below the folder of the tree. -/
def place?
    (tree : FileTree)
    (steps : List String) : Option Place :=
  match tree.files.lookup steps with
  | some bytes => some (.file bytes)
  | none =>
      if tree.files.any fun (path, _) => steps.isPrefixOf path
      then
        some (.folder steps)
      else
        none

/- Follow steps from a place. -/
def walk
    (tree : FileTree) :
    Place → List String → Except ReadFault Place
| place, [] => .ok place
| .file _, _ :: _ => .error .notFolder
| .outside, step :: more =>
    if isIdleStep step || step == ".." then
      walk tree .outside more
    else
      .error .missing
| .folder steps, step :: more =>
    if isIdleStep step then
      walk tree (.folder steps) more
    else if step == ".." then
      match steps with
      | [] => walk tree .outside more
      | _ => walk tree (.folder steps.dropLast) more
    else
      match tree.place? (steps ++ [step]) with
      | none => .error .missing
      | some place => walk tree place more

/- Where paths start: outside if they start with a slash. -/
def startOf (path : String) : Place :=
  if path.startsWith "/" then .outside else .folder []

/- Read the file at a path. -/
def read
    (tree : FileTree)
    (path : String) : Reading :=
  if path.isEmpty then
    .error .missing
  else
    match tree.walk (startOf path) (pathSteps path) with
    | .error fault => .error fault
    | .ok (.file bytes) => Reading.ofBytes bytes
    | .ok _ => .error .folder

end FileTree

end Blueprint

------------------------------------------------------------
-- Neighbours
------------------------------------------------------------

namespace Blueprint

/-
  A path, written from its end, without the slashes and the
  idle steps at its end.
-/
def trimPathEnd : List Char → List Char
| ['/'] => ['/']
| '/' :: rest => trimPathEnd rest
| '.' :: '/' :: rest => trimPathEnd ('/' :: rest)
| path => path
termination_by path => path.length

/- The folder of a path, which is empty for a bare name. -/
def folderOf (path : String) : String :=
  match trimPathEnd path.toList.reverse with
  | ['/'] => ""
  | trimmed =>
      let folder := trimmed.dropWhile (· != '/')
      String.ofList (trimPathEnd folder).reverse

/- The path of a file in the folder of another. -/
def besides
    (path name : String) : String :=
  let folder := folderOf path
  if folder.isEmpty then
    "./" ++ name
  else if folder.endsWith "/" then
    folder ++ name
  else
    folder ++ "/" ++ name

end Blueprint

import SceneScript.Table
import SceneScript.Text.Quoted
import SceneScript.Text.Split
import SceneScript.Text.Utf8

/-!
Files and directories as a command sees them: paths are walked from the working directory one
component at a time. Names beyond the working directory are not known; there nothing is found, and
what is written there is not kept.
-/

namespace SceneScript

/-- Why a path cannot be read or written. -/
inductive AccessFault where
  | noSuchFile
  | exists
  | notDirectory
  | isDirectory
  | nameTooLong
  deriving DecidableEq, Repr

namespace AccessFault

def number : AccessFault → Nat
  | noSuchFile => 2
  | «exists» => 17
  | notDirectory => 20
  | isDirectory => 21
  | nameTooLong => 36

def reason : AccessFault → String
  | noSuchFile => "No such file or directory"
  | «exists» => "File exists"
  | notDirectory => "Not a directory"
  | isDirectory => "Is a directory"
  | nameTooLong => "File name too long"

def message (fault : AccessFault) (path : String) : String :=
  s!"[Errno {fault.number}] {fault.reason}: {Text.quoted path}"

end AccessFault

/-- A path without empty components and without dots; `rooted` holds its leading slashes. -/
structure FilePath where
  rooted : String := ""
  components : List String

namespace FilePath

/-- Two leading slashes stay two; any other number of them is one. -/
def ofString (text : String) : FilePath :=
  let chars := text.toList
  let slashes := (chars.takeWhile (· == '/')).length
  let parts := (Text.splitAt '/' chars).map String.ofList
  { rooted := if slashes = 0 then "" else if slashes = 2 then "//" else "/"
    components := parts.filter fun part => part != "" && part != "." }

def text (path : FilePath) : String :=
  let joined := path.rooted ++ String.intercalate "/" path.components
  if joined = "" then "." else joined

def isTooLong (path : FilePath) : Bool := 4095 < path.text.utf8ByteSize

def parent (path : FilePath) : FilePath := { path with components := path.components.dropLast }

end FilePath

/-- Files by their path from the working directory, and the directories in it. -/
structure FileTree where
  files : Table (List UInt8) := []
  directories : List (List String) := []

namespace FileTree

inductive Place where
  | directory (components : List String)
  | file (path : String) (bytes : List UInt8)
  | outside

/-- The directories that hold a file. -/
def holders : List String → List (List String)
  | [] => []
  | [_] => []
  | part :: rest => [part] :: (holders rest).map (part :: ·)

def joined (components : List String) : String := String.intercalate "/" components

def ofFiles (files : Table (List UInt8)) : FileTree where
  files := Table.ofEntries
    (files.map fun (path, bytes) => (joined (FilePath.ofString path).components, bytes))
  directories := files.flatMap fun (path, _) => holders (FilePath.ofString path).components

def lookup? (tree : FileTree) (components : List String) : Option Place :=
  if components ∈ tree.directories then some (.directory components)
  else
    (Table.get? tree.files (joined components)).map fun bytes => .file (joined components) bytes

/-- One step into a place. -/
def enter (tree : FileTree) (place : Place) (part : String) : Except AccessFault Place :=
  match place with
  | .file _ _ => .error .notDirectory
  | .outside =>
      if part = ".." then .ok .outside
      else if 255 < part.utf8ByteSize then .error .nameTooLong
      else .error .noSuchFile
  | .directory components =>
      if part = ".." then
        match components with
        | [] => .ok .outside
        | _ => .ok (.directory components.dropLast)
      else if 255 < part.utf8ByteSize then .error .nameTooLong
      else
        match lookup? tree (components ++ [part]) with
        | some place => .ok place
        | none => .error .noSuchFile

/-- A step on the way to what is written: beyond the working directory every name is taken for a
directory. -/
def enterMade (tree : FileTree) (place : Place) (part : String) : Except AccessFault Place :=
  match place, tree.enter place part with
  | .outside, .error .noSuchFile => .ok .outside
  | _, entered => entered

def origin (path : FilePath) : Place := if path.rooted = "" then .directory [] else .outside

def resolve (tree : FileTree) (path : FilePath) : Except AccessFault Place :=
  if path.isTooLong then .error .nameTooLong
  else path.components.foldlM tree.enter (origin path)

/-- The place that holds the last part of a path, and what is there; nothing if the name is free. -/
def target (tree : FileTree) (path : FilePath) :
    Except AccessFault (Place × String × Option Place) :=
  if path.isTooLong then .error .nameTooLong
  else do
    let holder ← path.parent.components.foldlM tree.enterMade (origin path)
    match path.components.getLast? with
    | none => .ok (holder, "", some holder)
    | some part =>
        match tree.enter holder part with
        | .ok place => .ok (holder, part, some place)
        | .error .noSuchFile => .ok (holder, part, none)
        | .error fault => .error fault

def read (tree : FileTree) (path : FilePath) : Except AccessFault (List UInt8) := do
  match ← tree.resolve path with
  | .file _ bytes => .ok bytes
  | _ => .error .isDirectory

/-- A fault is reported with the path at which it arose. -/
abbrev Change (α : Type) := Except (AccessFault × String) α

def located {α : Type} (path : FilePath) : Except AccessFault α → Change α
  | .ok value => .ok value
  | .error fault => .error (fault, path.text)

/-- Makes one directory in a directory that is there; one that is there itself is kept. -/
def makeOne (tree : FileTree) (path : FilePath) : Except AccessFault FileTree := do
  match ← tree.target path with
  | (_, _, some (.file _ _)) => .error .exists
  | (.directory components, part, none) =>
      .ok { tree with directories := (components ++ [part]) :: tree.directories }
  | _ => .ok tree

/-- Makes the directory of the first `count` components, and first those that it lies in. -/
def makeFirst (tree : FileTree) (path : FilePath) : Nat → Change FileTree
  | 0 => .ok tree
  | count + 1 =>
      let stage := { path with components := path.components.take (count + 1) }
      match tree.makeOne stage with
      | .ok tree => .ok tree
      | .error .noSuchFile => do
          let tree ← makeFirst tree path count
          located stage (tree.makeOne stage)
      | .error fault => .error (fault, stage.text)

def makeDirectory (tree : FileTree) (path : FilePath) : Change FileTree :=
  tree.makeFirst path path.components.length

def writeFile (tree : FileTree) (path : FilePath) (text : String) : Except AccessFault FileTree := do
  let put (name : String) : FileTree :=
    { tree with files := Table.insert tree.files name (Text.encodeUtf8 text) }
  match ← tree.target path with
  | (_, _, some (.file name _)) => .ok (put name)
  | (_, _, some _) => .error .isDirectory
  | (.directory components, part, none) => .ok (put (joined (components ++ [part])))
  | _ => .ok tree

def save (tree : FileTree) (path : FilePath) (text : String) : Change FileTree :=
  located path (tree.writeFile path text)

end FileTree

end SceneScript

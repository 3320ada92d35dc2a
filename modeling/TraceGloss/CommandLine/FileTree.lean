import TraceGloss.CommandLine.Path

/-!
# File trees

What the program sees of a file system: directories, and files whose content is
text or is not. Every step of a path must start in a directory, also a step that
stays or goes up. The working directory, the directories above it and the root
are always there. A path that is to be written may lead to nothing as yet, when
its last step starts in a directory.

Two limits. A file has one name, the one that its path spells: there are no
links, and a path from the root never leads to a file of the working directory.
And a write is done at once. Whether it fails depends on the path alone, never
on the text, and no file is left with a part of a text.
-/

namespace TraceGloss.CommandLine

set_option autoImplicit false

inductive Content where
  | text (text : Text)
  /-- Bytes that are not UTF-8. -/
  | bytes
  deriving DecidableEq, Repr

def Content.ofBytes (bytes : ByteArray) : Content :=
  match String.fromUTF8? bytes with
  | some string => .text string.toList
  | none => .bytes

inductive FileFault where
  | notFound
  | notDirectory
  | isDirectory
  | nameTooLong
  | nullInPath
  | notText
  | other (text : Text)
  deriving DecidableEq, Repr

def FileFault.message : FileFault → Text
  | notFound => "No such file or directory (os error 2)".toList
  | notDirectory => "Not a directory (os error 20)".toList
  | isDirectory => "Is a directory (os error 21)".toList
  | nameTooLong => "File name too long (os error 36)".toList
  | nullInPath => "file name contained an unexpected NUL byte".toList
  | notText => "stream did not contain valid UTF-8".toList
  | other text => text

def maxPathBytes : Nat := 4095

def maxStepBytes : Nat := 255

structure FileTree where
  directories : List Names
  files : List (Names × Content)
  deriving DecidableEq, Repr

inductive Entry where
  | file (content : Content)
  | directory
  deriving DecidableEq, Repr

namespace FileTree

/-- The directories on the way to a file. -/
def parents (names : Names) : List Names :=
  (List.range names.length).map names.take

def ofFiles (files : List (Text × Content)) : FileTree where
  directories := files.flatMap fun file => parents (Path.ofText file.1).names
  files := files.map fun file => ((Path.ofText file.1).names, file.2)

def hasDirectory (tree : FileTree) (names : Names) : Bool :=
  names == root || names.all (· == twoPoints) || tree.directories.contains names

/-- The names after a step, which must start in a directory. -/
def enter (tree : FileTree) (here : Names) (step : Text) : Except FileFault Names :=
  if tree.hasDirectory here then
    if maxStepBytes < Text.length8 step then .error .nameTooLong else .ok (Path.next here step)
  else if (tree.files.lookup here).isSome then .error .notDirectory
  else .error .notFound

def walk (tree : FileTree) : Names → List Text → Except FileFault Names
  | here, [] => .ok here
  | here, step :: more => (tree.enter here step).bind fun next => tree.walk next more

def pathOf (text : Text) : Except FileFault Path :=
  if text.contains '\x00' then .error .nullInPath
  else if text.isEmpty then .error .notFound
  else if maxPathBytes < Text.length8 text then .error .nameTooLong
  else .ok (Path.ofText text)

def entry (tree : FileTree) (text : Text) : Except FileFault Entry := do
  let path ← pathOf text
  let names ← tree.walk path.start path.steps
  match tree.files.lookup names with
  | some content => if path.slashed then .error .notDirectory else .ok (.file content)
  | none => if tree.hasDirectory names then .ok .directory else .error .notFound

def has (tree : FileTree) (path : Text) : Bool :=
  (tree.entry path).toBool

def read (tree : FileTree) (path : Text) : Except FileFault Text :=
  match tree.entry path with
  | .ok (.file (.text text)) => .ok text
  | .ok (.file .bytes) => .error .notText
  | .ok .directory => .error .isDirectory
  | .error fault => .error fault

/-- The names of the file that a path names, whether or not it is there. -/
def target (tree : FileTree) (text : Text) : Except FileFault Names := do
  let path ← pathOf text
  match path.steps.getLast? with
  | none => .error .isDirectory
  | some last =>
      let here ← tree.walk path.start path.steps.dropLast
      let stays := last = point ∨ last = twoPoints
      if tree.hasDirectory here = true ∧ (path.slashed = true ∨ stays) then .error .isDirectory
      else
        let names ← tree.enter here last
        if tree.hasDirectory names then .error .isDirectory else .ok names

def put (tree : FileTree) (names : Names) (text : Text) : FileTree :=
  { tree with files := (names, .text text) :: tree.files.filter fun file => file.1 ≠ names }

/-- Writes a text into a file. A file that is missing is made, a directory that
is missing is not. -/
def write (tree : FileTree) (path text : Text) : Except FileFault FileTree :=
  (tree.target path).map fun names => tree.put names text

end FileTree

end TraceGloss.CommandLine

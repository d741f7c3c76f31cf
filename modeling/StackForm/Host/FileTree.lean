import StackForm.Text.Basic

/-!
# File trees

Files and directories below a working directory, and where a path leads in them. A path is followed
part by part: an empty part and `.` stay where they are, `..` goes up, and any other part must name
something in a directory. Nothing is known of what lies outside of the working directory, so that no
name is found there.
-/

namespace StackForm

/-! ### Failures -/

/-- Why a file cannot be read or run. -/
inductive FileError where
  | missing
  | permissionDenied
  | notDirectory
  | isDirectory
  | nameTooLong
  | zeroByte
  deriving DecidableEq

def FileError.message : FileError → String
  | .missing => "No such file or directory (os error 2)"
  | .permissionDenied => "Permission denied (os error 13)"
  | .notDirectory => "Not a directory (os error 20)"
  | .isDirectory => "Is a directory (os error 21)"
  | .nameTooLong => "File name too long (os error 36)"
  | .zeroByte => "file name contained an unexpected NUL byte"

/-! ### Trees -/

structure File where
  content : List UInt8
  executable : Bool
  deriving DecidableEq

/-- Files and directories by their names from the working directory down. What a listed name lies in
is a directory too. -/
structure FileTree where
  files : List (List String × File)
  directories : List (List String)

/-- What stands at a place. -/
inductive Node where
  | file (f : File)
  | directory
  deriving DecidableEq

namespace FileTree

/-- The working directory alone. -/
def empty : FileTree := ⟨[], [[]]⟩

/-- The names that a path gives one after the other. -/
def place (path : String) : List String :=
  ((Text.split '/' path.toList).filter fun part => !part.isEmpty && part != ['.']).map String.ofList

/-- Put a file under a path, in place of any earlier one. -/
def addFile (tree : FileTree) (path : String) (file : File) : FileTree :=
  { tree with files := (place path, file) :: tree.files }

def addDirectory (tree : FileTree) (path : String) : FileTree :=
  { tree with directories := place path :: tree.directories }

/-- What stands at a place of the tree. -/
def node? (tree : FileTree) (names : List String) : Option Node :=
  match tree.files.lookup names with
  | some f => some (.file f)
  | none =>
    if (tree.files.map (·.1) ++ tree.directories).any names.isPrefixOf then some .directory else none

/-! ### Paths -/

/-- How many bytes a name may have. -/
def maxNameLength : Nat := 255

/-- How many bytes a path may have. -/
def maxPathLength : Nat := 4095

/-- The directory above one, whose names are given from the inside out; `none` stands for the
directories outside of the tree. -/
def above : Option (List String) → Option (List String)
  | some (_ :: names) => some names
  | _ => none

/-- Where the parts of a path lead from a directory. -/
def follow (tree : FileTree) : (here : Option (List String)) → List (List Char) → Except FileError Node
  | _, [] => .ok .directory
  | here, part :: rest =>
    if part = [] || part = ['.'] then follow tree here rest
    else if part = ['.', '.'] then follow tree (above here) rest
    else
      let name := String.ofList part
      if maxNameLength < name.utf8ByteSize then .error .nameTooLong
      else
        match here with
        | none => .error .missing
        | some names =>
          match tree.node? (name :: names).reverse with
          | none => .error .missing
          | some .directory => follow tree (some (name :: names)) rest
          | some (.file f) => if rest.isEmpty then .ok (.file f) else .error .notDirectory

/-- Where a path leads; one that begins with a slash begins outside of the tree. -/
def resolve (tree : FileTree) (path : String) : Except FileError Node :=
  let cs := path.toList
  if cs.contains '\x00' then .error .zeroByte
  else if cs.isEmpty then .error .missing
  else if maxPathLength < path.utf8ByteSize then .error .nameTooLong
  else follow tree (if cs.head? = some '/' then none else some []) (Text.split '/' cs)

/-- The bytes of the file under a path. -/
def read (tree : FileTree) (path : String) : Except FileError (List UInt8) :=
  match tree.resolve path with
  | .ok (.file f) => .ok f.content
  | .ok .directory => .error .isDirectory
  | .error e => .error e

end FileTree

end StackForm

/-!
# File systems

Loading a configuration opens a path and reads it whole. The file system is a parameter,
`Files`, saying what opening and reading each path gives, so that loading stays a function: a
run passes the real one, and a test passes a tree of directories and files given as data.

A path is walked one component at a time from the working directory, or from the root when it
starts with `/`. Empty components and `.` stay where the walk is, `..` goes up, and any other
name is looked up in the directory the walk has reached, so that a name that is missing, or one
that is a file with more of the path after it, stops the walk. The root is its own parent.

## Implementation notes

A tree lists what it knows: a directory may hold more than the tree says, and every name it
does not list is missing. A directory opens but cannot be read as text, which is a failure to
read, not to open. The limits on lengths are the kernel's: a path of 4096 bytes or more, or a
name of more than 255 bytes that has to be looked up, is too long.
-/

namespace Parley

namespace Config

/-- What opening and reading a path gives: a reason it cannot be opened, a reason it opens but
cannot be read as text, or its text. -/
inductive Opened where
  | cannotOpen (reason : String)
  | cannotRead (reason : String)
  | file (text : String)
  deriving DecidableEq, Repr

/-- A file system, as what opening and reading each path gives. -/
abbrev Files := String → Opened

/-- The reason a path with a zero character cannot be opened. -/
def zeroInPath : String := "file name contained an unexpected NUL byte"

/-- The reason a missing path cannot be opened. -/
def noSuchFile : String := "No such file or directory (os error 2)"

/-- The reason a path that goes on after a file cannot be opened. -/
def notADirectory : String := "Not a directory (os error 20)"

/-- The reason a directory cannot be read. -/
def isADirectory : String := "Is a directory (os error 21)"

/-- The reason a path or a name that is too long cannot be opened. -/
def nameTooLong : String := "File name too long (os error 36)"

/-- A tree of directories and files under a root. Each is named by its path from the root, the
names leading to it; a file's path ends in its own name. -/
structure Tree where
  directories : List (List String)
  files : List (List String × String)

/-- The tree with nothing in it but its root. -/
def Tree.empty : Tree := ⟨[], []⟩

/-- Whether `path` names a directory of the tree: its root, a directory it lists, or a
directory on the way to one of the directories or files it lists. -/
def Tree.isDirectory (t : Tree) (path : List String) : Bool :=
  path.isEmpty || t.directories.any (path.isPrefixOf ·) ||
    t.files.any fun entry => path.isPrefixOf entry.1 && path != entry.1

/-- Walk the components of a path from the directory `dir` and open what they lead to. -/
def Tree.walk (t : Tree) : List String → List String → Opened
  | _, [] => .cannotRead isADirectory
  | dir, name :: rest =>
    if name == "" || name == "." then t.walk dir rest
    else if name == ".." then t.walk dir.dropLast rest
    else if 255 < name.utf8ByteSize then .cannotOpen nameTooLong
    else
      let path := dir ++ [name]
      match t.files.lookup path with
      | some text => if rest.isEmpty then .file text else .cannotOpen notADirectory
      | none => if t.isDirectory path then t.walk path rest else .cannotOpen noSuchFile

/-- The file system of a tree, seen from the working directory `home`, a directory of the tree.
The empty path names nothing. -/
def Files.ofTree (t : Tree) (home : List String) : Files := fun path =>
  if path.isEmpty then .cannotOpen noSuchFile
  else if 4096 ≤ path.utf8ByteSize then .cannotOpen nameTooLong
  else
    match path.splitOn "/" with
    | "" :: rest => t.walk [] rest
    | parts => t.walk home parts

end Config

end Parley

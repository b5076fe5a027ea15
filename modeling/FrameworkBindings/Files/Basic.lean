/-!
# Files

What the program needs of a file system, independent of where the files are: to read a text and to
write one.  Paths are texts with `/` between names.

* `FileError` — why a file cannot be read or written.
* `Files` — the two operations, in any monad.
* `joinPath`, `parentPath` — arithmetic of paths.

The monad is left open so that the program can be run on a machine and on a tree in memory.  The
arithmetic of paths looks at texts only: whether there is a directory at a path is never asked to
find its parent, and `..` is a name like any other.
-/

namespace FrameworkBindings

/-- Why a file cannot be read or written, as far as the program tells the reasons apart. -/
inductive FileError where
  | notFound
  | notDirectory
  | isDirectory
  | nameTooLong
  | nulInName
  /-- The bytes of the file are no text. -/
  | notText
  /-- Anything else, in the words of the system. -/
  | other (message : String)
deriving DecidableEq

/-- The reason in the words of the system, number included, as users know them from other
programs. -/
def FileError.message : FileError → String
  | notFound => "No such file or directory (os error 2)"
  | notDirectory => "Not a directory (os error 20)"
  | isDirectory => "Is a directory (os error 21)"
  | nameTooLong => "File name too long (os error 36)"
  | nulInName => "file name contained an unexpected NUL byte"
  | notText => "stream did not contain valid UTF-8"
  | other message => message

/-- Reading and writing texts by path, all that the program asks of the outside. -/
structure Files (m : Type → Type) where
  read : (path : String) → m (Except FileError String)
  write : (path text : String) → m (Except FileError Unit)

/-! ## Paths -/

/-- Whether a path does not depend on a directory. -/
def isAbsolutePath (path : String) : Bool :=
  path.toList.head? == some '/'

/-- The path of `path` seen from `directory`; an absolute path does not depend on it. -/
def joinPath (directory path : String) : String :=
  if isAbsolutePath path then path
  else if directory = "" || directory.toList.getLast? == some '/' then directory ++ path
  else directory ++ "/" ++ path

/-- A path in reverse without the slashes and dots at its end that say nothing. -/
def trimPathEnd : List Char → List Char
  | '/' :: rest => trimPathEnd rest
  | '.' :: '/' :: rest => trimPathEnd rest
  | reversed => reversed

/-- The path of the directory that a path lies in; none if the path has no name in it. -/
def parentPath (path : String) : Option String :=
  match trimPathEnd path.toList.reverse with
  | [] => none
  | named =>
    let directory := (trimPathEnd (named.dropWhile (· != '/'))).reverse
    some (if directory.isEmpty && isAbsolutePath path then "/" else String.ofList directory)

end FrameworkBindings

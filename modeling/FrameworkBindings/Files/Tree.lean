import FrameworkBindings.Files.Basic

/-!
# A file tree in memory

A working directory with files in it, as a value.  A directory exists if a file lies in it or below
it.  The working directory, the directories above it and the root, which is its own parent, exist
always; outside the working directory there is nothing else but what is written there.

* `Place` — where something is, from the working directory, one above it or the root.
* `FileTree.find` — what a path leads to; each name on the way must be that of a directory.
* `FileTree.read`, `FileTree.write` — the operations on texts.
* `FileTree.files` — the same as `Files` over a state.

**Names on the way.**  A path is followed name by name and not simplified first, since `a/../b`
fails where `a` is no directory.  For the same reason `.` is a name: behind a file it is an error.
The limits on the length of a name and of a path are those of the usual systems, and are checked in
the order in which these do it, so that the same error comes out.
-/

namespace FrameworkBindings

/-- A directory that is there whatever the files are. -/
inductive Start where
  /-- The directory so many levels above the working directory. -/
  | above (levels : Nat)
  | root
deriving DecidableEq

/-- Where something is: the names on the way to it from a directory that is always there. -/
structure Place where
  start : Start
  names : List String
deriving DecidableEq

namespace Place

/-- The place of names in the working directory, without `.` and `..` among them. -/
def below (names : List String) : Place :=
  ⟨.above 0, names⟩

/-- The place of a name in a directory. -/
def child (place : Place) (name : String) : Place :=
  ⟨place.start, place.names ++ [name]⟩

/-- The directory that a place lies in. -/
def parent : Place → Place
  | ⟨.above levels, []⟩ => ⟨.above (levels + 1), []⟩
  | ⟨.root, []⟩ => ⟨.root, []⟩
  | ⟨start, names⟩ => ⟨start, names.dropLast⟩

/-- Going up from a named place leads back to the directory that it is in. -/
@[simp] theorem parent_child (place : Place) (name : String) :
    (place.child name).parent = place := by
  obtain ⟨start, names⟩ := place
  cases names with
  | nil => simp [child, parent]
  | cons first rest =>
    have shorter : (first :: rest ++ [name]).dropLast = first :: rest := List.dropLast_concat
    simpa [child, parent] using shorter

/-- Whether `inner` lies in the directory `outer` or below it. -/
def encloses (outer inner : Place) : Bool :=
  outer.start == inner.start && outer.names.isPrefixOf inner.names && outer != inner

end Place

/-- The files of a system, by their places.  Directories are not listed. -/
structure FileTree where
  entries : List (Place × ByteArray) := []

namespace FileTree

/-- The names in a path; `.` is one of them, because only a directory has it. -/
def names (path : String) : List String :=
  (path.splitOn "/").filter (· != "")

/-- The content of the file at a place. -/
def content? (tree : FileTree) (place : Place) : Option ByteArray :=
  tree.entries.lookup place

/-- Whether there is a directory at a place. -/
def isDirectory (tree : FileTree) (place : Place) : Bool :=
  place.names.isEmpty || tree.entries.any fun entry => place.encloses entry.1

/-- Follows names from the directory `here`; the last may be that of a file or of nothing.  What is
wrong first on the way is the error. -/
def walk (tree : FileTree) (here : Place) : List String → Except FileError Place
  | [] => .ok here
  | name :: rest =>
    if !tree.isDirectory here then
      .error (if (tree.content? here).isSome then .notDirectory else .notFound)
    else if name.utf8ByteSize > 255 then .error .nameTooLong
    else if name = "." then tree.walk here rest
    else if name = ".." then tree.walk here.parent rest
    else tree.walk (here.child name) rest

/-- Follows names from where a path starts, unless it can be no path at all. -/
def follow (tree : FileTree) (path : String) (names : List String) : Except FileError Place :=
  if path.toList.contains '\x00' then .error .nulInName
  else if path.utf8ByteSize ≥ 4096 then .error .nameTooLong
  else if path = "" then .error .notFound
  else tree.walk ⟨if isAbsolutePath path then .root else .above 0, []⟩ names

/-- The place a path leads to, where there need be nothing yet. -/
def find (tree : FileTree) (path : String) : Except FileError Place :=
  tree.follow path (names path)

/-- The directory in which the last name of a path is looked up. -/
def findHolder (tree : FileTree) (path : String) : Except FileError Place :=
  tree.follow path ((names path).dropLast ++ ["."])

/-- Whether a path says with a slash at its end that it is that of a directory. -/
def endsInSlash (path : String) : Bool :=
  path.toList.getLast? == some '/'

/-- Reads the text at a path: there must be a file there, its path must not say that it is a
directory, and its bytes must be a text. -/
def read (tree : FileTree) (path : String) : Except FileError String := do
  let place ← tree.find path
  match tree.content? place with
  | some bytes =>
    if endsInSlash path then .error .notDirectory
    else
      match String.fromUTF8? bytes with
      | some text => .ok text
      | none => .error .notText
  | none => .error (if tree.isDirectory place then .isDirectory else .notFound)

/-- Puts a file at a place, instead of one that was there, and with it all directories on the
way. -/
def put (tree : FileTree) (place : Place) (bytes : ByteArray) : FileTree :=
  ⟨(place, bytes) :: tree.entries.filter (·.1 != place)⟩

/-- Writes a text at a path.  No file can have a slash at the end of its path, so the last name
before one is not even looked up. -/
def write (tree : FileTree) (path text : String) : Except FileError FileTree := do
  if endsInSlash path then
    let _ ← tree.findHolder path
    .error .isDirectory
  else
    let place ← tree.find path
    if tree.isDirectory place then .error .isDirectory else .ok (tree.put place text.toUTF8)

/-- Reading and writing as operations on a state, for programs that run on a tree. -/
def files : Files (StateM FileTree) where
  read path := do return (← get).read path
  write path text := do
    match (← get).write path text with
    | .ok tree => set tree; return .ok ()
    | .error e => return .error e

end FileTree

end FrameworkBindings

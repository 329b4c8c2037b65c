import Hest.Files.Basic

/-!
# File trees

A file tree is the content of a working directory: files with their bytes and directories, each
under its place, the names on the way to it.  Paths are walked name by name from the working
directory.  What lies outside of it is not known, and nothing is found there.
-/

namespace Hest

/-- A place in a file tree: the names on the way to it. -/
abbrev Place := List String

/-- What stands at a place. -/
inductive Node where
  | directory
  | file (content : Bytes)
deriving DecidableEq

/-- The content of a working directory. -/
structure FileTree where
  nodes : List (Place × Node) := []

namespace FileTree

/-- The longest name, in bytes. -/
def longestName : Nat := 255

/-- The longest path, in bytes. -/
def longestPath : Nat := 4095

/-- What stands at a place. -/
def find? (t : FileTree) (p : Place) : Option Node :=
  if p.isEmpty then some .directory else t.nodes.lookup p

/-- Where a walk has come to. -/
inductive Spot where
  /-- A directory; none for one outside of the working directory. -/
  | directory (place : Option Place)
  | file (place : Place) (content : Bytes)
  /-- Nothing, in a directory that exists; none for one outside of the working directory. -/
  | absent (place : Option Place)

/-- One name further. -/
def step (t : FileTree) (name : String) : Spot → Except FileError Spot
  | .absent _ => .error .notFound
  | .file _ _ => .error .notDirectory
  | .directory place =>
    if name = "" ∨ name = "." then .ok (.directory place)
    else if name = ".." then
      .ok (.directory (place.bind fun p => if p.isEmpty then none else some p.dropLast))
    else if longestName < name.utf8ByteSize then .error .nameTooLong
    else
      match place.map (· ++ [name]) with
      | none => .ok (.absent none)
      | some p =>
        match t.find? p with
        | some .directory => .ok (.directory (some p))
        | some (.file content) => .ok (.file p content)
        | none => .ok (.absent (some p))

/-- Where names lead to from a spot. -/
def walk (t : FileTree) : Spot → List String → Except FileError Spot
  | s, [] => .ok s
  | s, name :: rest => do t.walk (← t.step name s) rest

/-- Why a path is refused before it is walked, if it is. -/
def refusal? (path : String) : Option FileError :=
  if path.toList.contains '\x00' then some .invalidPath
  else if path.isEmpty then some .notFound
  else if longestPath < path.utf8ByteSize then some .nameTooLong
  else none

/-- Where the names of a path start. -/
def start (path : String) : Spot :=
  .directory (if path.toList.head? = some '/' then none else some [])

/-- The names between the slashes of a path. -/
def names (path : List Char) : List String := (path.splitOn '/').map String.ofList

/-- Where a path leads to. -/
def resolve (t : FileTree) (path : String) : Except FileError Spot :=
  match refusal? path with
  | some e => .error e
  | none => t.walk (start path) (names path.toList)

/-- The bytes of the file at a path. -/
def read (t : FileTree) (path : String) : Except FileError Bytes :=
  match t.resolve path with
  | .error e => .error e
  | .ok (.file _ content) => .ok content
  | .ok (.directory _) => .error .isDirectory
  | .ok (.absent _) => .error .notFound

/-- The tree with a file at a place. -/
def put (t : FileTree) (p : Place) (content : Bytes) : FileTree :=
  if (t.find? p).isSome then
    { nodes := t.nodes.map fun e => if e.1 = p then (p, .file content) else e }
  else { nodes := t.nodes ++ [(p, .file content)] }

/-- The names of a path without the slashes at its end, and whether there were some. -/
def trimmed (path : String) : List String × Bool :=
  let kept := (path.toList.reverse.dropWhile (· = '/')).reverse
  (names kept, kept.length < path.toList.length)

/-- Whether a name is that of an entry, and not another one of a directory itself. -/
def entryName (name : String) : Bool := name ≠ "" && name ≠ "." && name ≠ ".."

/-- Where the file is to be written that a path names.  Slashes after the last name are only for
directories, so then the name is not even looked up. -/
def target (t : FileTree) (path : String) : Except FileError Spot :=
  match refusal? path with
  | some e => .error e
  | none => do
    let (names, slash) := trimmed path
    let parent ← t.walk (start path) names.dropLast
    let last := names.getLastD ""
    if slash && entryName last then
      let _ ← t.step "." parent
      .error .isDirectory
    else t.step last parent

/-- The tree after the file at a path was written; the file is made if its directory exists. -/
def write (t : FileTree) (path : String) (content : Bytes) : Except FileError FileTree :=
  match t.target path with
  | .error e => .error e
  | .ok (.directory _) => .error .isDirectory
  | .ok (.file p _) => .ok (t.put p content)
  | .ok (.absent (some p)) => .ok (t.put p content)
  | .ok (.absent none) => .error .notFound

/-- The files of a tree. -/
def files : Files FileTree where
  read path := do return (← Act.get).read path
  write path content := do
    match (← Act.get).write path content with
    | .ok t =>
      Act.set t
      return .ok ()
    | .error e => return .error e

end FileTree

end Hest

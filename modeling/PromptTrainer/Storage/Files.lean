/-!
# A file tree

The files an application reads and writes, as a tree of directories and text files named
by paths.  A path is split at `/` into components (empty and `.` components dropped); a
path starting with `/` is absolute.  The tree starts with the root directory and a
scratch directory `@TMP@`.

The operations fail as a POSIX system does:

* reading a directory fails with "Is a directory", a missing file with "No such file or
  directory";
* making a directory fails with "File exists" when the path exists, with "Not a
  directory" when a component before it is a file, and with "No such file or directory"
  when its parent is missing;
* making a directory with all its missing parents succeeds when the directory already
  exists, and otherwise makes the parents first;
* writing a file fails with "Is a directory" on a directory, and like making a directory
  when its parent is missing or a component is a file.
-/

namespace PromptTrainer

/-- Why a file operation failed. -/
inductive IoError where
  | notFound
  | alreadyExists
  | notADirectory
  | isADirectory
deriving BEq, Repr

/-- The wording of a file error, with its system error number. -/
def IoError.message : IoError → String
  | .notFound => "No such file or directory (os error 2)"
  | .alreadyExists => "File exists (os error 17)"
  | .notADirectory => "Not a directory (os error 20)"
  | .isADirectory => "Is a directory (os error 21)"

/-- A path as its components; an absolute path starts with the component `/`. -/
def pathComponents (path : String) : List String :=
  let parts := (path.splitOn "/").filter (fun c => !c.isEmpty && c != ".")
  if path.startsWith "/" then "/" :: parts else parts

/-- The lexical parent of a path: the text before its last component, without trailing
slashes; `none` for the root and for the empty path. -/
def parentPath (path : String) : Option String :=
  let trimmed := (path.toList.reverse.dropWhile (· == '/')).reverse
  if trimmed.isEmpty then none
  else
    let before := (trimmed.reverse.dropWhile (· != '/')).reverse
    if before.isEmpty then some ""
    else
      let stripped := (before.reverse.dropWhile (· == '/')).reverse
      some (if stripped.isEmpty then "/" else String.ofList stripped)

/-- What is at a path. -/
inductive Entry where
  | directory
  | file (content : String)

/-- Directories and files, by their components. -/
structure FileTree where
  entries : List (List String × Entry) := [(["/"], .directory), (["@TMP@"], .directory)]

namespace FileTree

/-- What is at a path's components. -/
def entryAt? (t : FileTree) (parts : List String) : Option Entry := t.entries.lookup parts

/-- What is at a path. -/
def entry? (t : FileTree) (path : String) : Option Entry := t.entryAt? (pathComponents path)

/-- Whether a path names something. -/
def exists? (t : FileTree) (path : String) : Bool := (t.entry? path).isSome

/-- Whether a path names a directory. -/
def isDirectory (t : FileTree) (path : String) : Bool :=
  match t.entry? path with
  | some .directory => true
  | _ => false

/-- The text of a file. -/
def read (t : FileTree) (path : String) : Except IoError String :=
  match t.entry? path with
  | some (.file content) => .ok content
  | some .directory => .error .isADirectory
  | none => .error .notFound

/-- Checks the components before the last: each must be a directory; the first missing one
is "No such file or directory", a file before it "Not a directory". -/
def checkAncestors (t : FileTree) (parts : List String) : Except IoError Unit :=
  let prefixes := (List.range (parts.length - 1)).map (fun i => parts.take (i + 1))
  match prefixes.find? (fun p => !(t.entryAt? p matches some .directory)) with
  | none => .ok ()
  | some p =>
    match t.entryAt? p with
    | some (.file _) => .error .notADirectory
    | _ => .error .notFound

/-- Sets what is at a path's components. -/
def put (t : FileTree) (parts : List String) (e : Entry) : FileTree :=
  if (t.entryAt? parts).isSome then
    { entries := t.entries.map (fun (k, v) => if k == parts then (k, e) else (k, v)) }
  else { entries := t.entries ++ [(parts, e)] }

/-- Makes one directory. -/
def makeDirectory (t : FileTree) (path : String) : Except IoError FileTree := do
  let parts := pathComponents path
  if parts.isEmpty || (t.entryAt? parts).isSome then throw .alreadyExists
  checkAncestors t parts
  pure (t.put parts .directory)

/-- Makes a directory and its missing parents; `fuel` bounds the depth. -/
def makeDirectories : Nat → FileTree → String → Except IoError FileTree
  | 0, _, _ => .error .notFound
  | fuel + 1, t, path =>
    if path.isEmpty then .ok t
    else match t.makeDirectory path with
      | .ok t => .ok t
      | .error .notFound =>
        match parentPath path with
        | none => .error .notFound
        | some parent => do
          let t ← makeDirectories fuel t parent
          match t.makeDirectory path with
          | .ok t => .ok t
          | .error e => if t.isDirectory path then .ok t else .error e
      | .error e => if t.isDirectory path then .ok t else .error e

/-- Makes a directory and all its missing parents. -/
def makeAll (t : FileTree) (path : String) : Except IoError FileTree :=
  makeDirectories ((pathComponents path).length + 2) t path

/-- Writes a file, replacing what it held. -/
def write (t : FileTree) (path : String) (content : String) : Except IoError FileTree := do
  let parts := pathComponents path
  match t.entryAt? parts with
  | some .directory => throw .isADirectory
  | _ =>
    checkAncestors t parts
    pure (t.put parts (.file content))

end FileTree

end PromptTrainer

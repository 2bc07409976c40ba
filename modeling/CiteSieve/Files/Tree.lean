import CiteSieve.Assoc
import CiteSieve.Files.Path
import CiteSieve.Text.Encoding
import CiteSieve.Text.Quoted

/-!
# File trees

The files a program can see: bytes and directories under their paths. A directory is there if it
is listed or if something is listed below it.

* `FileTree.read` and `FileTree.write`, with the errors the system reports.
-/

namespace CiteSieve

/-! ## Errors -/

/-- What the system reports about a path. -/
inductive FileError where
  | notFound (path : String)
  | alreadyExists (path : String)
  | notDirectory (path : String)
  | isDirectory (path : String)
  deriving DecidableEq, Repr

def FileError.message : FileError → String
  | .notFound p => "[Errno 2] No such file or directory: " ++ Text.quoted p
  | .alreadyExists p => "[Errno 17] File exists: " ++ Text.quoted p
  | .notDirectory p => "[Errno 20] Not a directory: " ++ Text.quoted p
  | .isDirectory p => "[Errno 21] Is a directory: " ++ Text.quoted p

/-! ## Trees -/

/-- What a path can name. -/
inductive FileNode where
  | file (bytes : ByteArray)
  | directory

/-- Files are compared by their bytes. -/
instance : DecidableEq FileNode
  | .file a, .file b =>
    match ByteArray.instDecidableEq a b with
    | isTrue h => isTrue (h ▸ rfl)
    | isFalse h => isFalse fun e => h (FileNode.file.inj e)
  | .directory, .directory => isTrue rfl
  | .file _, .directory => isFalse nofun
  | .directory, .file _ => isFalse nofun

/-- What is listed under each path. -/
abbrev FileTree := Assoc Path FileNode

namespace FileTree

/-- Something is listed below the path. -/
def hasBelow (t : FileTree) (p : Path) : Bool :=
  t.any fun e =>
    e.1.isAbsolute == p.isAbsolute && p.names.length < e.1.names.length &&
      e.1.names.take p.names.length == p.names

/-- What the path names, once steps back are followed. -/
def node? (t : FileTree) (p : Path) : Option FileNode :=
  let p := p.resolved
  match t.lookup p with
  | some n => some n
  | none => if p.names = [] ∨ hasBelow t p then some .directory else none

/-- The path names something. -/
def has (t : FileTree) (p : Path) : Bool :=
  (t.node? p).isSome

/-- The path names a file. -/
def hasFile (t : FileTree) (p : Path) : Bool :=
  match t.node? p with
  | some (.file _) => true
  | _ => false

/-- Some directory on the way to the path is a file. -/
def isBlocked (t : FileTree) (p : Path) : Bool :=
  (List.range p.names.length).any fun n => t.hasFile { p with names := p.names.take n }

/-- The bytes of the file at the path. -/
def read (t : FileTree) (p : Path) : Except FileError ByteArray :=
  match t.node? p with
  | some (.file bytes) => .ok bytes
  | some .directory => .error (.isDirectory p.toString)
  | none => .error (if t.isBlocked p then .notDirectory p.toString else .notFound p.toString)

/-- The text of the file at the path. -/
def readText (t : FileTree) (p : Path) : Except FileError String :=
  (t.read p).map fun bytes => Text.unifyLines (Text.ofBytes bytes)

/-- The tree with the directory at the path, and those on the way to it. -/
def makeDirectory (t : FileTree) (p : Path) : Except FileError FileTree :=
  match t.node? p with
  | some .directory => .ok t
  | some (.file _) => .error (.alreadyExists p.toString)
  | none =>
    if t.isBlocked p then .error (.notDirectory p.toString)
    else .ok (t.put p.resolved .directory)

/-- The tree with the given bytes in the file at the path, whose directory is there. -/
def write (t : FileTree) (p : Path) (bytes : ByteArray) : Except FileError FileTree :=
  match t.node? p with
  | some .directory => .error (.isDirectory p.toString)
  | _ => .ok (t.put p.resolved (.file bytes))

/-- The files that are new in `t` or have other bytes than before. -/
def changesSince (t before : FileTree) : List (Path × ByteArray) :=
  t.filterMap fun (p, n) =>
    match n with
    | .file bytes => if before.lookup p = some n then none else some (p, bytes)
    | .directory => none

end FileTree

end CiteSieve

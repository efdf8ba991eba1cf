import EntityCatalog.Files.Basic
import EntityCatalog.Files.Path

/-!
Files that are given as a value.

A directory is what stands on the way to a file, so there are no empty ones but the outermost.
Paths from the root lead to what every system has there: a few directories, and the file without
content.
-/

namespace EntityCatalog

/-- Files with the steps that lead to them. -/
structure FileTree where
  files : List (List String × String)

namespace FileTree

/-- The files whose paths are given. -/
def ofPaths (files : List (String × String)) : FileTree :=
  ⟨files.map fun f => (Path.steps f.1, f.2)⟩

/-- What follows some steps at the head of others. -/
def below? : List String → List String → Option (List String)
  | [], rest => some rest
  | _ :: _, [] => none
  | a :: as, b :: bs => if a = b then below? as bs else none

/-- The names of what stands in the directory that steps lead to. -/
def names (t : FileTree) (place : List String) : List String :=
  (t.files.filterMap fun f => (below? place f.1).bind List.head?).eraseDups

/-- Whether steps lead to a directory. -/
def isDirectory (t : FileTree) (place : List String) : Bool :=
  place.isEmpty || !(t.names place).isEmpty

/-- What stands at a place. -/
inductive Spot where
  | file (content : String)
  | directory (place : List String)
  /-- A directory around the tree, of which nothing is known. -/
  | outside
  /-- A directory of the system, with the steps from the root. -/
  | system (place : List String)
deriving DecidableEq, Repr

/-- The directories at the root of a system. -/
def rootNames : List String :=
  ["bin", "dev", "etc", "home", "lib", "mnt", "opt", "proc", "root", "run", "sbin", "sys", "tmp",
   "usr", "var"]

/-- What stands at the place that steps lead to. -/
def spot? (t : FileTree) (place : List String) : Except FileError Spot :=
  match t.files.lookup place with
  | some content => .ok (.file content)
  | none => if t.isDirectory place then .ok (.directory place) else .error .notFound

/-- What stands at the place of the system that steps lead to. -/
def systemSpot? : List String → Except FileError Spot
  | [name] => if rootNames.contains name then .ok (.system [name]) else .error .notFound
  | ["dev", "null"] => .ok (.file "")
  | _ => .error .notFound

/-- The directory around one. -/
def outer : Spot → Spot
  | .directory place => if place.isEmpty then .outside else .directory place.dropLast
  | .system place => .system place.dropLast
  | spot => spot

/-- What stands where a step leads. -/
def enter (t : FileTree) (step : String) (spot : Spot) : Except FileError Spot :=
  match spot with
  | .file _ => .error .notDirectory
  | spot =>
      if step = ".." then .ok (outer spot)
      else if Path.maxNameLength < step.utf8ByteSize then .error .nameTooLong
      else
        match spot with
        | .directory place => t.spot? (place ++ [step])
        | .system place => systemSpot? (place ++ [step])
        | _ => .error .notFound

/-- What stands where a path leads. -/
def find (t : FileTree) (path : String) : Except FileError Spot :=
  match Path.flaw? path with
  | some e => .error e
  | none =>
      let start : Spot := if Path.isAbsolute path then .system [] else .directory []
      (Path.steps path).foldlM (fun spot step => t.enter step spot) start

/-- The text of the file at a path. -/
def read (t : FileTree) (path : String) : Except FileError String :=
  match t.find path with
  | .error e => .error e
  | .ok (.file content) => if Path.endsOpen path then .error .notDirectory else .ok content
  | .ok _ => .error .isDirectory

/-- The names of what stands in the directory at a path. -/
def list (t : FileTree) (path : String) : Option (List String) :=
  match t.find path with
  | .ok (.directory place) => some ((t.names place).mergeSort fun a b => decide (a ≤ b))
  | _ => none

/-- Access to the files of a tree. -/
def access (t : FileTree) : Files Id := ⟨t.read, t.list⟩

end FileTree

end EntityCatalog

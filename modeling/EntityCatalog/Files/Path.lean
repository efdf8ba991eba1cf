import EntityCatalog.Files.Basic

/-!
Paths as texts: steps with slashes between them.
-/

namespace EntityCatalog.Path

/-- Whether a path begins at the root. -/
def isAbsolute (path : String) : Bool := path.toList.head? = some '/'

/-- A path inside another.  A path that begins at the root stands for itself. -/
def join (outer inner : String) : String :=
  if isAbsolute inner || outer.isEmpty then inner
  else if outer.toList.getLast? = some '/' then outer ++ inner
  else outer ++ "/" ++ inner

/-- The pieces of a text between slashes. -/
def pieces : List Char → List (List Char)
  | [] => [[]]
  | c :: rest =>
      if c = '/' then [] :: pieces rest
      else
        match pieces rest with
        | [] => [[c]]
        | piece :: more => (c :: piece) :: more

/-- The steps of a path.  A piece that is empty, or a dot, is none. -/
def steps (path : String) : List String :=
  ((pieces path.toList).map String.ofList).filter fun piece => piece ≠ "" && piece ≠ "."

/-- Whether a path can only be that of a directory. -/
def endsOpen (path : String) : Bool :=
  match (pieces path.toList).getLast? with
  | some [] => true
  | some ['.'] => true
  | some ['.', '.'] => true
  | _ => false

/-- The number of bytes of the shortest path that is too long. -/
def lengthBound : Nat := 4096

/-- The number of bytes of the longest name that a step may have. -/
def maxNameLength : Nat := 255

/-- Why a path cannot be that of anything, whatever stands in the directories. -/
def flaw? (path : String) : Option FileError :=
  if path.toList.contains '\x00' then some .nulInPath
  else if path.isEmpty then some .notFound
  else if lengthBound ≤ path.utf8ByteSize then some .nameTooLong
  else none

/-- What stands before and behind the last dot of a name, if something stands before it. -/
def splitExtension? (name : String) : Option (String × String) :=
  let reversed := name.toList.reverse
  let extension := (reversed.takeWhile (· ≠ '.')).reverse
  match reversed.dropWhile (· ≠ '.') with
  | '.' :: c :: stem => some (String.ofList (c :: stem).reverse, String.ofList extension)
  | _ => none

end EntityCatalog.Path

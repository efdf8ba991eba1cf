/-!
Access to files.

What the command line does with files is written against this interface, so that it can be run on
the files of a machine and on files that are given as a value.
-/

namespace EntityCatalog

/-- Why a file cannot be read. -/
inductive FileError where
  | notFound
  | notDirectory
  | isDirectory
  | nameTooLong
  /-- The path has the one character that no path has. -/
  | nulInPath
  /-- Any other reason, in the words of the system. -/
  | other (reason : String)
deriving DecidableEq, Repr

/-- The reason in words. -/
def FileError.message : FileError → String
  | notFound => "No such file or directory (os error 2)"
  | notDirectory => "Not a directory (os error 20)"
  | isDirectory => "Is a directory (os error 21)"
  | nameTooLong => "File name too long (os error 36)"
  | nulInPath => "file name contained an unexpected NUL byte"
  | other reason => reason

/-- Whether nothing stands where a file was looked for, or can stand there. -/
def FileError.isAbsent : FileError → Bool
  | notFound => true
  | notDirectory => true
  | nameTooLong => true
  | nulInPath => true
  | _ => false

/-- Access to files by their paths. -/
structure Files (m : Type → Type) where
  /-- The text of a file. -/
  read : String → m (Except FileError String)
  /-- The names of what stands in a directory, if there is one, in order. -/
  list : String → m (Option (List String))

end EntityCatalog

import EntityCatalog.Text.Blank
import EntityCatalog.Text.Letter
import EntityCatalog.Text.Casing

/-!
Names made from the keys of a schema.

A key is a sequence of words, however it is written: `deptId`, `dept-id` and `DeptID` each hold
two.  Column names, entity type names and default labels are all derived from those words, and
label files are keyed by the result, so `words` is a contract.

A word ends where a lower-case letter or a digit meets an upper-case letter, and before the last
capital of an acronym that runs into a capitalised word.  Both kinds of boundary are marked in the
text by one pass each, left to right over matches that do not overlap; the text is then cut at
every character that is neither a letter nor an ASCII digit, which the mark is not.
-/

namespace EntityCatalog.Naming

open Text

/-! ## Words -/

/-- Whether a character may stand in a word. -/
def isWordPart (c : Char) : Bool := isLetter c || c.isDigit

/-- The mark of a boundary, a character that stands in no word. -/
def boundary : Char := '\x00'

/-- Marks each place where a lower-case letter or a digit meets an upper-case letter. -/
def markRises : List Char → List Char
  | a :: b :: rest =>
      if (isLower a || a.isDigit) && isUpper b then a :: boundary :: b :: markRises rest
      else a :: markRises (b :: rest)
  | cs => cs

/-- Marks each place where an upper-case letter meets a capitalised word. -/
def markAcronyms : List Char → List Char
  | a :: b :: c :: rest =>
      if isUpper a && isUpper b && isLower c then a :: boundary :: b :: c :: markAcronyms rest
      else a :: markAcronyms (b :: c :: rest)
  | cs => cs

/-- Puts a character in front of the first piece. -/
def consFirst (c : Char) : List (List Char) → List (List Char)
  | [] => [[c]]
  | piece :: rest => (c :: piece) :: rest

/-- The pieces between the characters that may stand in no word; some are empty. -/
def pieces : List Char → List (List Char)
  | [] => [[]]
  | c :: rest => if isWordPart c then consFirst c (pieces rest) else [] :: pieces rest

/-- The words of a text, in order. -/
def words (cs : List Char) : List (List Char) :=
  (pieces (markAcronyms (markRises (trimBlanks cs)))).filter (fun piece => !piece.isEmpty)

/-! ## Spellings -/

/-- The words in lower case, joined by underscores. -/
def snakeChars (cs : List Char) : List Char :=
  ['_'].intercalate ((words cs).map lowerText)

/-- The first word capitalised and the others in lower case, joined by spaces. -/
def sentenceChars (cs : List Char) : List Char :=
  match words cs with
  | [] => []
  | first :: rest => [' '].intercalate (capitalize first :: rest.map lowerText)

/-- The name that a key gives to a column. -/
def snakeCase (s : String) : String := String.ofList (snakeChars s.toList)

/-- The label that a name gives to a column. -/
def sentenceCase (s : String) : String := String.ofList (sentenceChars s.toList)

/-- The name of a module's resource among all modules: the two parts stand on the sides of a
double underscore, which the first of them never holds. -/
def qualifiedName (moduleName resource : String) : String :=
  snakeCase moduleName ++ "__" ++ resource

@[simp] theorem pieces_nil : pieces [] = [[]] := rfl

theorem pieces_cons_of_wordPart {c : Char} (h : isWordPart c = true) (rest : List Char) :
    pieces (c :: rest) = consFirst c (pieces rest) := if_pos h

theorem pieces_cons_of_not_wordPart {c : Char} (h : isWordPart c = false) (rest : List Char) :
    pieces (c :: rest) = [] :: pieces rest := if_neg (h ▸ Bool.false_ne_true)

theorem pieces_ne_nil (cs : List Char) : pieces cs ≠ [] := by
  cases cs with
  | nil => simp
  | cons c rest =>
    simp only [pieces]
    split
    · cases pieces rest <;> simp [consFirst]
    · simp

end EntityCatalog.Naming

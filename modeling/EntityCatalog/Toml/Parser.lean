import EntityCatalog.Toml.Table

/-!
Reading a TOML document into a JSON value.

The document is a sequence of headers and of keys with values; `Toml.Table` holds the rules of
what may be defined twice.  An integer may have any length, because it is only judged where it is
read, and so is a number that is too large for a double: an integer stands for it that no reader
takes.  The numbers that are not finite by name become null, since JSON has none, and a date or a
time becomes an object with its text under a key of its own.  A document is accepted or refused;
no reason is given.
-/

namespace EntityCatalog.Toml

/-- Takes the beginning of a text: a result with what is left, or a refusal. -/
abbrev Reads (α : Type) := List Char → Option (α × List Char)

/-! ## Blanks, comments and line ends -/

/-- Whether a character may stand in a comment or in a literal text. -/
def isPlain (c : Char) : Bool := c = '\t' || (32 ≤ c.toNat && c.toNat ≠ 127)

/-- What follows blanks on one line. -/
def skipBlanks (cs : List Char) : List Char := cs.dropWhile fun c => c = ' ' || c = '\t'

/-- What follows a comment, if one stands here. -/
def skipComment : List Char → List Char
  | '#' :: rest => rest.dropWhile isPlain
  | cs => cs

/-- What follows a line end. -/
def lineEnd? : List Char → Option (List Char)
  | '\n' :: rest => some rest
  | '\r' :: '\n' :: rest => some rest
  | _ => none

/-- What follows the end of a line with its blanks and its comment.  The end of the text ends a
line too. -/
def finishLine? (cs : List Char) : Option (List Char) :=
  match skipComment (skipBlanks cs) with
  | [] => some []
  | rest => lineEnd? rest

/-- What follows blanks, comments and line ends. -/
def skipLines : (budget : Nat) → List Char → List Char
  | 0, cs => cs
  | budget + 1, cs =>
      let rest := skipComment (skipBlanks cs)
      match lineEnd? rest with
      | some after => skipLines budget after
      | none => rest

/-- What follows blanks, comments and line ends. -/
def skipSpace (cs : List Char) : List Char := skipLines cs.length cs

/-! ## Texts -/

/-- The value of a digit in a base of at most sixteen. -/
def digit? (base : Nat) (c : Char) : Option Nat :=
  let value? :=
    if c.isDigit then some (c.toNat - 48)
    else if 'a' ≤ c ∧ c ≤ 'f' then some (c.toNat - 87)
    else if 'A' ≤ c ∧ c ≤ 'F' then some (c.toNat - 55)
    else none
  value?.filter (· < base)

/-- The number that digits write. -/
def number? (base : Nat) (ds : List Char) : Option Nat :=
  ds.foldlM (fun n d => (digit? base d).map (n * base + ·)) 0

/-- The character that an escape of `count` digits names. -/
def codePoint (count : Nat) : Reads Char := fun cs => do
  let ds := cs.take count
  guard (ds.length = count)
  let n ← number? 16 ds
  guard (n.isValidChar)
  return (Char.ofNat n, cs.drop count)

/-- The character of an escape, behind its backslash. -/
def escape : Reads Char
  | 'b' :: rest => some ('\x08', rest)
  | 't' :: rest => some ('\t', rest)
  | 'n' :: rest => some ('\n', rest)
  | 'f' :: rest => some ('\x0c', rest)
  | 'r' :: rest => some ('\r', rest)
  | 'e' :: rest => some ('\x1b', rest)
  | '"' :: rest => some ('"', rest)
  | '\\' :: rest => some ('\\', rest)
  | 'x' :: rest => codePoint 2 rest
  | 'u' :: rest => codePoint 4 rest
  | 'U' :: rest => codePoint 8 rest
  | _ => none

/-- A text behind its opening double quote; `taken` holds its characters so far, last first. -/
def basicText : (budget : Nat) → List Char → Reads String
  | 0, _, _ => none
  | _ + 1, taken, '"' :: rest => some (String.ofList taken.reverse, rest)
  | budget + 1, taken, '\\' :: rest => do
      let (c, rest) ← escape rest
      basicText budget (c :: taken) rest
  | budget + 1, taken, c :: rest => if isPlain c then basicText budget (c :: taken) rest else none
  | _ + 1, _, [] => none

/-- A text behind its opening single quote. -/
def literalText (cs : List Char) : Option (String × List Char) :=
  let inside := cs.takeWhile fun c => isPlain c && c ≠ '\''
  match cs.drop inside.length with
  | '\'' :: rest => some (String.ofList inside, rest)
  | _ => none

/-- The quotes at the end of a text of several lines: up to two of them belong to the text. -/
def closing? (quote : Char) (taken cs : List Char) : Option (String × List Char) :=
  let quotes := (cs.takeWhile (· = quote)).length
  if quotes < 3 then none
  else
    let inside := min (quotes - 3) 2
    some (String.ofList (taken.reverse ++ List.replicate inside quote), cs.drop (inside + 3))

/-- What follows blanks and line ends. -/
def skipEmptyLines : List Char → List Char
  | ' ' :: rest => skipEmptyLines rest
  | '\t' :: rest => skipEmptyLines rest
  | '\n' :: rest => skipEmptyLines rest
  | '\r' :: '\n' :: rest => skipEmptyLines rest
  | cs => cs

/-- What follows a backslash at the end of a line, the blanks and line ends up to the next
character. -/
def continued? (cs : List Char) : Option (List Char) :=
  (lineEnd? (skipBlanks cs)).map skipEmptyLines

/-- A text of several lines behind its opening quotes.  Escapes are read where `escapes` holds. -/
def longText (quote : Char) (escapes : Bool) : (budget : Nat) → List Char → Reads String
  | 0, _, _ => none
  | budget + 1, taken, cs =>
      match closing? quote taken cs with
      | some result => some result
      | none =>
          match cs with
          | [] => none
          | '\r' :: '\n' :: rest => longText quote escapes budget ('\n' :: '\r' :: taken) rest
          | c :: rest =>
              if c = '\\' && escapes then
                match continued? rest with
                | some rest => longText quote escapes budget taken rest
                | none =>
                    match escape rest with
                    | some (c, rest) => longText quote escapes budget (c :: taken) rest
                    | none => none
              else if c = '\n' || isPlain c then longText quote escapes budget (c :: taken) rest
              else none

/-- The text behind the first line end. -/
def dropFirstLineEnd (cs : List Char) : List Char := (lineEnd? cs).getD cs

/-- A text of any kind. -/
def text : Reads String
  | '"' :: '"' :: '"' :: rest => longText '"' true (rest.length + 1) [] (dropFirstLineEnd rest)
  | '\'' :: '\'' :: '\'' :: rest => longText '\'' false (rest.length + 1) [] (dropFirstLineEnd rest)
  | '"' :: rest => basicText (rest.length + 1) [] rest
  | '\'' :: rest => literalText rest
  | _ => none

/-! ## Keys -/

/-- Whether a character may stand in a bare key. -/
def isBare (c : Char) : Bool := c.isAlphanum || c = '_' || c = '-'

/-- One part of a key. -/
def keyPart : Reads String
  | '"' :: rest => basicText (rest.length + 1) [] rest
  | '\'' :: rest => literalText rest
  | cs =>
      let bare := cs.takeWhile isBare
      if bare.isEmpty then none else some (String.ofList bare, cs.drop bare.length)

/-- The parts of a key, joined by dots, with the blanks after them. -/
def keyParts : (budget : Nat) → Reads (List String)
  | 0, _ => none
  | budget + 1, cs => do
      let (part, rest) ← keyPart cs
      match skipBlanks rest with
      | '.' :: rest =>
          let (parts, rest) ← keyParts budget (skipBlanks rest)
          return (part :: parts, rest)
      | rest => return ([part], rest)

/-- The number of parts that a key may have. -/
def maxKeyParts : Nat := 80

/-- A key, with the blanks after it. -/
def key : Reads (List String) := fun cs =>
  (keyParts cs.length cs).filter fun (parts, _) => parts.length ≤ maxKeyParts

/-! ## Numbers -/

/-- Digits with single underscores between them, without the underscores. -/
def plainDigits? (base : Nat) : List Char → Option (List Char)
  | [] => none
  | [d] => (digit? base d).map fun _ => [d]
  | d :: '_' :: rest => (digit? base d).bind fun _ => (plainDigits? base rest).map (d :: ·)
  | d :: rest => (digit? base d).bind fun _ => (plainDigits? base rest).map (d :: ·)

/-- An integer with its sign. -/
def integerJson (negative : Bool) (n : Nat) : Json :=
  .number (.integer (if negative then -n else n))

/-- The integer that stands for a number too large for a double. -/
def tooLarge : Nat := Nat.pow 2 1024

/-- Whether a number in base ten has no superfluous zero in front. -/
def noLeadingZero (ds : List Char) : Bool := ds.length = 1 || ds.head? ≠ some '0'

/-- A text cut at the first character that satisfies `p`, which is dropped. -/
def cutAt (p : Char → Bool) (cs : List Char) : List Char × Option (List Char) :=
  let before := cs.takeWhile fun c => !p c
  match cs.drop before.length with
  | [] => (before, none)
  | _ :: after => (before, some after)

/-- The sign in front of a number, and the rest. -/
def signed : List Char → Bool × List Char
  | '+' :: rest => (false, rest)
  | '-' :: rest => (true, rest)
  | cs => (false, cs)

/-- A double with its sign. -/
def doubleJson (negative : Bool) (f : Float) : Json :=
  if f.isInf then integerJson negative tooLarge
  else .number (.double (if negative then -f else f).toBits)

/-- A decimal number with a fraction or an exponent. -/
def double? (negative : Bool) (cs : List Char) : Option Json := do
  let (mantissa, exponent) := cutAt (fun c => c = 'e' || c = 'E') cs
  let (whole, fraction) := cutAt (· = '.') mantissa
  guard (exponent.isSome || fraction.isSome)
  let ws ← plainDigits? 10 whole
  guard (noLeadingZero ws)
  let fs ← match fraction with
    | none => some []
    | some f => plainDigits? 10 f
  let (down, es) ← match exponent with
    | none => some (false, [])
    | some e =>
        let (down, e) := signed e
        (plainDigits? 10 e).map (down, ·)
  let m ← number? 10 (ws ++ fs)
  let e ← number? 10 es
  let shift : Int := (if down then -(e : Int) else e) - fs.length
  -- Beyond this every number is zero or too large.
  let bounded := max (-100000) (min 100000 shift)
  return doubleJson negative (Float.ofScientific m (bounded < 0) bounded.natAbs)

/-- A number without blanks around it. -/
def numeral? (cs : List Char) : Option Json :=
  match cs with
  | '0' :: 'x' :: ds => based 16 ds
  | '0' :: 'o' :: ds => based 8 ds
  | '0' :: 'b' :: ds => based 2 ds
  | _ =>
      let (negative, ds) := signed cs
      if ds = "inf".toList || ds = "nan".toList then some .null
      else
        match plainDigits? 10 ds with
        | some plain => do
            guard (noLeadingZero plain)
            let n ← number? 10 plain
            return integerJson negative n
        | none => double? negative ds
where
  /-- A number in another base. -/
  based (base : Nat) (ds : List Char) : Option Json := do
    let plain ← plainDigits? base ds
    let n ← number? base plain
    return integerJson false n

/-! ## Dates and times -/

/-- Exactly `count` digits, between two bounds. -/
def twoDigits (count low high : Nat) : Reads (List Char) := fun cs => do
  let ds := cs.take count
  guard (ds.length = count)
  let n ← number? 10 ds
  guard (low ≤ n ∧ n ≤ high)
  return (ds, cs.drop count)

/-- The days of a month. -/
def daysIn (year month : Nat) : Nat :=
  if month = 2 then
    if year % 4 = 0 ∧ (year % 100 ≠ 0 ∨ year % 400 = 0) then 29 else 28
  else if month = 4 ∨ month = 6 ∨ month = 9 ∨ month = 11 then 30
  else 31

/-- One given character. -/
def expect (c : Char) : List Char → Option (List Char)
  | d :: rest => if c = d then some rest else none
  | [] => none

/-- A date. -/
def date : Reads (List Char) := fun cs => do
  let (y, cs) ← twoDigits 4 0 9999 cs
  let cs ← expect '-' cs
  let (m, cs) ← twoDigits 2 1 12 cs
  let cs ← expect '-' cs
  let (d, cs) ← twoDigits 2 1 (daysIn ((number? 10 y).getD 0) ((number? 10 m).getD 0)) cs
  return (y ++ '-' :: m ++ '-' :: d, cs)

/-- The fraction of a second, at most nine digits of it, without zeros at its end. -/
def secondFraction : Reads (List Char)
  | '.' :: rest =>
      let ds := rest.takeWhile Char.isDigit
      if ds.isEmpty then none
      else
        let kept := ((ds.take 9).reverse.dropWhile (· = '0')).reverse
        some (if kept.isEmpty then [] else '.' :: kept, rest.drop ds.length)
  | cs => some ([], cs)

/-- A time of day, whose seconds are none if they are left out. -/
def time : Reads (List Char) := fun cs => do
  let (h, cs) ← twoDigits 2 0 23 cs
  let cs ← expect ':' cs
  let (m, cs) ← twoDigits 2 0 59 cs
  match cs with
  | ':' :: cs =>
      let (s, cs) ← twoDigits 2 0 60 cs
      let (f, cs) ← secondFraction cs
      return (h ++ ':' :: m ++ ':' :: s ++ f, cs)
  | cs => return (h ++ ':' :: m ++ ":00".toList, cs)

/-- The distance from universal time.  That of universal time itself is written with a plus. -/
def offset : Reads (List Char)
  | 'Z' :: rest => some (['Z'], rest)
  | 'z' :: rest => some (['Z'], rest)
  | sign :: rest =>
      if sign = '+' || sign = '-' then do
        let (h, cs) ← twoDigits 2 0 23 rest
        let cs ← expect ':' cs
        let (m, cs) ← twoDigits 2 0 59 cs
        let sign := if (h ++ m).all (· = '0') then '+' else sign
        return (sign :: h ++ ':' :: m, cs)
      else none
  | [] => none

/-- The value that holds a date or a time. -/
def momentJson (cs : List Char) : Json :=
  .object [("$__toml_private_datetime", .string (String.ofList cs))]

/-- A date, a time, or both. -/
def moment : Reads Json := fun cs =>
  match date cs with
  | none => (time cs).map fun (t, rest) => (momentJson t, rest)
  | some (d, rest) =>
      let timed : Option (List Char × List Char) :=
        match rest with
        | 'T' :: more => time more
        | 't' :: more => time more
        | ' ' :: more => time more
        | _ => none
      match timed with
      | none => some (momentJson d, rest)
      | some (t, rest) =>
          match offset rest with
          | none => some (momentJson (d ++ 'T' :: t), rest)
          | some (o, rest) => some (momentJson (d ++ 'T' :: t ++ o), rest)

/-! ## Values -/

/-- Whether a character may stand in a number, a truth value, a date or a time. -/
def isScalarPart (c : Char) : Bool :=
  c.isAlphanum || c = '_' || c = '-' || c = '+' || c = '.' || c = ':'

/-- A value that is neither a text nor nested. -/
def scalar : Reads Json := fun cs =>
  let word := cs.takeWhile isScalarPart
  let rest := cs.drop word.length
  if word = "true".toList then some (.bool true, rest)
  else if word = "false".toList then some (.bool false, rest)
  else
    match numeral? word with
    | some j => some (j, rest)
    | none =>
        match moment cs with
        | some (j, rest) => if rest.head?.any isScalarPart then none else some (j, rest)
        | none => none

/-- The number of brackets and braces that may be open at once. -/
def maxNesting : Nat := 80

mutual
/-- A value, in which as many levels as given may be opened. -/
def value : (budget levels : Nat) → Reads Json
  | 0, _, _ => none
  | budget + 1, levels, cs =>
      match levels, cs with
      | _, '"' :: _ => (text cs).map fun (s, rest) => (.string s, rest)
      | _, '\'' :: _ => (text cs).map fun (s, rest) => (.string s, rest)
      | 0, '[' :: _ => none
      | 0, '\x7b' :: _ => none
      | levels + 1, '[' :: rest =>
          (items budget levels [] rest).map fun (js, rest) => (.array js, rest)
      | levels + 1, '\x7b' :: rest =>
          (members budget levels [] rest).map fun (es, rest) =>
            (.object (entriesToJson es), rest)
      | _, _ => scalar cs

/-- The items of an array behind its bracket or behind a comma, `taken` last first. -/
def items : (budget levels : Nat) → List Json → Reads (List Json)
  | 0, _, _, _ => none
  | budget + 1, levels, taken, cs =>
      match skipSpace cs with
      | ']' :: rest => some (taken.reverse, rest)
      | cs =>
          match value budget levels cs with
          | none => none
          | some (j, rest) =>
              match skipSpace rest with
              | ',' :: rest => items budget levels (j :: taken) rest
              | ']' :: rest => some ((j :: taken).reverse, rest)
              | _ => none

/-- The entries of a table in braces, behind its brace or behind a comma. -/
def members : (budget levels : Nat) → Entries → Reads Entries
  | 0, _, _, _ => none
  | budget + 1, levels, taken, cs =>
      match skipSpace cs with
      | '\x7d' :: rest => some (taken, rest)
      | cs =>
          match key cs with
          | none => none
          | some (path, rest) =>
              match expect '=' (skipSpace rest) with
              | none => none
              | some rest =>
                  match value budget levels (skipSpace rest) with
                  | none => none
                  | some (j, rest) =>
                      match assign j path taken with
                      | none => none
                      | some taken =>
                          match skipSpace rest with
                          | ',' :: rest => members budget levels taken rest
                          | '\x7d' :: rest => some (taken, rest)
                          | _ => none
end

/-! ## Documents -/

/-- The lines of a document, where `header` names the table that is open. -/
def lines : (budget : Nat) → (header : List String) → Entries → List Char → Option Entries
  | 0, _, _, _ => none
  | budget + 1, header, es, cs =>
      match skipSpace cs with
      | [] => some es
      | '[' :: '[' :: rest => do
          let (path, rest) ← key (skipBlanks rest)
          let rest ← (expect ']' rest).bind (expect ']')
          let rest ← finishLine? rest
          let es ← addTable path es
          lines budget path es rest
      | '[' :: rest => do
          let (path, rest) ← key (skipBlanks rest)
          let rest ← expect ']' rest
          let rest ← finishLine? rest
          let es ← openTable path es
          lines budget path es rest
      | cs => do
          let (path, rest) ← key cs
          let rest ← expect '=' rest
          let (j, rest) ← value (cs.length + 1) maxNesting (skipBlanks rest)
          let rest ← finishLine? rest
          let es ← within (assign j path) header es
          lines budget header es rest

/-- Reads a document, which may begin with a byte order mark. -/
def parse (document : String) : Option Json :=
  let cs := document.toList
  let cs := if cs.head? = some '\ufeff' then cs.drop 1 else cs
  (lines (cs.length + 1) [] [] cs).map fun es => .object (entriesToJson es)

end EntityCatalog.Toml

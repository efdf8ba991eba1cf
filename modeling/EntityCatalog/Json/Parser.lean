import EntityCatalog.Json.Value
import EntityCatalog.OrderedMap

/-!
Reading a JSON text.

A text that is no JSON value is refused with the first cause met and the place of it: the line,
counted from one, and the number of bytes read on that line.  Some causes are found by looking at
a byte that has not been taken yet; their place counts that byte (`Cursor.ahead`), the place of
the others ends with the last byte taken (`Cursor.here`).

An object that names a member twice keeps the first place and the last value.  Values nest at most
127 deep.
-/

namespace EntityCatalog.Json

/-! ## Refusals -/

/-- Why a text is no JSON value. -/
inductive SyntaxCause where
  | endInList
  | endInObject
  | endInString
  | endInValue
  | expectedColon
  | expectedListEnd
  | expectedObjectEnd
  | expectedIdent
  | expectedValue
  | invalidEscape
  | invalidNumber
  | numberOutOfRange
  | controlInString
  | keyMustBeString
  | loneSurrogate
  | unpairedSurrogate
  | trailingComma
  | trailingCharacters
  | nestedTooDeep
deriving DecidableEq, Repr

/-- The cause in words. -/
def SyntaxCause.message : SyntaxCause → String
  | .endInList => "EOF while parsing a list"
  | .endInObject => "EOF while parsing an object"
  | .endInString => "EOF while parsing a string"
  | .endInValue => "EOF while parsing a value"
  | .expectedColon => "expected `:`"
  | .expectedListEnd => "expected `,` or `]`"
  | .expectedObjectEnd => "expected `,` or `\x7d`"
  | .expectedIdent => "expected ident"
  | .expectedValue => "expected value"
  | .invalidEscape => "invalid escape"
  | .invalidNumber => "invalid number"
  | .numberOutOfRange => "number out of range"
  | .controlInString => "control character (\\u0000-\\u001F) found while parsing a string"
  | .keyMustBeString => "key must be a string"
  | .loneSurrogate => "lone leading surrogate in hex escape"
  | .unpairedSurrogate => "unexpected end of hex escape"
  | .trailingComma => "trailing comma"
  | .trailingCharacters => "trailing characters"
  | .nestedTooDeep => "recursion limit exceeded"

/-- A cause and its place. -/
structure SyntaxError where
  cause : SyntaxCause
  line : Nat
  column : Nat
deriving DecidableEq, Repr

/-- The cause and its place in words. -/
def SyntaxError.message (e : SyntaxError) : String :=
  e.cause.message ++ " at line " ++ toString e.line ++ " column " ++ toString e.column

/-! ## The place in a text -/

/-- What is left of a text, and how much has been taken. -/
structure Cursor where
  rest : List Char
  line : Nat
  column : Nat

namespace Cursor

/-- The start of a text. -/
def start (text : String) : Cursor := ⟨text.toList, 1, 0⟩

/-- The cursor behind the character `c`, with `rest` left. -/
def past (cur : Cursor) (c : Char) (rest : List Char) : Cursor :=
  if c = '\n' then ⟨rest, cur.line + 1, 0⟩ else ⟨rest, cur.line, cur.column + c.utf8Size⟩

/-- The next character and the cursor behind it. -/
def next? (cur : Cursor) : Option (Char × Cursor) :=
  match cur.rest with
  | [] => none
  | c :: rest => some (c, cur.past c rest)

/-- The next character, left where it is. -/
def peek? (cur : Cursor) : Option Char := cur.rest.head?

/-- The cursor behind the next character. -/
def skip (cur : Cursor) : Cursor :=
  match cur.rest with
  | [] => cur
  | c :: rest => cur.past c rest

/-- The cursor behind the first characters that satisfy `p`. -/
def skipWhile (p : Char → Bool) (cur : Cursor) : Cursor :=
  go cur.line cur.column cur.rest
where
  /-- The same, for a text that begins at a line and a column. -/
  go (line column : Nat) : List Char → Cursor
    | [] => ⟨[], line, column⟩
    | c :: rest =>
        if !p c then ⟨c :: rest, line, column⟩
        else if c = '\n' then go (line + 1) 0 rest
        else go line (column + c.utf8Size) rest

/-- The cursor behind `count` characters of one byte that end no line. -/
def skipBytes (cur : Cursor) (count : Nat) : Cursor :=
  ⟨cur.rest.drop count, cur.line, cur.column + count⟩

/-- The cursor at the end of the text. -/
def toEnd (cur : Cursor) : Cursor := cur.skipWhile fun _ => true

/-- A refusal at the last byte taken. -/
def here (cur : Cursor) (cause : SyntaxCause) : SyntaxError := ⟨cause, cur.line, cur.column⟩

/-- A refusal at the byte that comes next. -/
def ahead (cur : Cursor) (cause : SyntaxCause) : SyntaxError :=
  match cur.rest with
  | [] => cur.here cause
  | c :: _ => if c = '\n' then ⟨cause, cur.line + 1, 0⟩ else ⟨cause, cur.line, cur.column + 1⟩

/-- A refusal after the next four bytes. -/
def afterFour (cur : Cursor) (cause : SyntaxCause) : SyntaxError :=
  go 4 cur.line cur.column cur.rest
where
  /-- Counts `bytes` bytes on. -/
  go (bytes line column : Nat) : List Char → SyntaxError
    | [] => ⟨cause, line, column⟩
    | c :: rest =>
        if bytes ≤ c.utf8Size then
          if c = '\n' then ⟨cause, line + 1, 0⟩ else ⟨cause, line, column + bytes⟩
        else if c = '\n' then go (bytes - 1) (line + 1) 0 rest
        else go (bytes - c.utf8Size) line (column + c.utf8Size) rest

/-- Whether a character may stand between the parts of a value. -/
def isSpace (c : Char) : Bool := c = ' ' || c = '\n' || c = '\t' || c = '\r'

/-- The cursor behind the blanks. -/
def skipSpace (cur : Cursor) : Cursor := cur.skipWhile isSpace

end Cursor

/-! ## Words and numbers -/

/-- Takes the letters that must follow. -/
def expectLetters : List Char → Cursor → Except SyntaxError Cursor
  | [], cur => .ok cur
  | w :: ws, cur =>
      match cur.next? with
      | none => .error (cur.here .endInValue)
      | some (c, after) =>
          if c = w then expectLetters ws after else .error (cur.ahead .expectedIdent)

/-- The value of a digit. -/
def digitValue (c : Char) : Nat := c.toNat - '0'.toNat

/-- The digits at the cursor. -/
def digitsAt (cur : Cursor) : List Char := cur.rest.takeWhile Char.isDigit

/-- Writes digits behind a number while it stays below a bound: the number, and how many digits
it took. -/
def readDigits (bound : Nat) : Nat → List Char → Nat × Nat
  | value, [] => (value, 0)
  | value, d :: ds =>
      let longer := value * 10 + digitValue d
      if longer < bound then
        let (result, count) := readDigits bound longer ds
        (result, count + 1)
      else (value, 0)

/-- A power of ten as a double. -/
def powerOfTen (exponent : Nat) : Float := Float.ofScientific 1 false exponent

/-- A double divided by a power of ten: by the largest power as often as needed, then by what is
left of it.  Three divisions by the largest take every significand to zero. -/
def divideDown : (steps : Nat) → Float → (power : Nat) → Float
  | 0, _, _ => 0.0
  | steps + 1, f, power =>
      if power ≤ 308 then f / powerOfTen power
      else divideDown steps (f / powerOfTen 308) (power - 308)

/-- A significand scaled by a power of ten in double arithmetic, so that the last bit may differ
from that of the nearest double.  Nothing is given where the result is too large. -/
def scaleDouble (significand : Nat) (exponent : Int) : Option Float :=
  let f := Float.ofNat significand
  if exponent < 0 then some (divideDown 4 f exponent.natAbs)
  else if exponent ≤ 308 then
    let scaled := f * powerOfTen exponent.toNat
    if scaled.isInf then none else some scaled
  else if significand = 0 then some f
  else none

/-- The number with a sign and a magnitude. -/
def signedDouble (negative : Bool) (f : Float) : Number :=
  .double (if negative then -f else f).toBits

/-- The double with a sign, a significand and an exponent. -/
def doubleAt (negative : Bool) (significand : Nat) (exponent : Int) (cur : Cursor) :
    Except SyntaxError (Number × Cursor) :=
  match scaleDouble significand exponent with
  | none => .error (cur.here .numberOutOfRange)
  | some f => .ok (signedDouble negative f, cur)

/-- The exponent of a number, behind its `e`. -/
def parseExponent (negative : Bool) (significand : Nat) (exponent : Int) (cur : Cursor) :
    Except SyntaxError (Number × Cursor) :=
  let (down, cur) :=
    match cur.peek? with
    | some '+' => (false, cur.skip)
    | some '-' => (true, cur.skip)
    | _ => (false, cur)
  let ds := digitsAt cur
  if ds.isEmpty then
    .error (cur.ahead (if cur.rest.isEmpty then .endInValue else .invalidNumber))
  else
    let (value, count) := readDigits 0x80000000 0 ds
    if count = ds.length then
      let total : Int := if down then exponent - value else exponent + value
      doubleAt negative significand total (cur.skipBytes count)
    else if significand ≠ 0 && !down then
      -- The refusal comes at the first digit that does not fit.
      .error ((cur.skipBytes (count + 1)).here .numberOutOfRange)
    else .ok (signedDouble negative 0.0, cur.skipBytes ds.length)

/-- The rest of a number behind the digits of its integer part, of which `dropped` were beyond
64 bits. -/
def parseFraction (negative : Bool) (significand dropped : Nat) (cur : Cursor) :
    Except SyntaxError (Number × Cursor) :=
  match cur.peek? with
  | some '.' =>
      let point := cur.skip
      let ds := digitsAt point
      if ds.isEmpty then
        .error (point.ahead (if point.rest.isEmpty then .endInValue else .invalidNumber))
      else
        -- Digits that do not fit any more are passed over.
        let (value, count) := readDigits 0x10000000000000000 significand ds
        let exponent : Int := (dropped : Int) - count
        let after := point.skipBytes ds.length
        match after.peek? with
        | some 'e' | some 'E' => parseExponent negative value exponent after.skip
        | _ => doubleAt negative value exponent after
  | some 'e' | some 'E' => parseExponent negative significand dropped cur.skip
  | _ =>
      if dropped ≠ 0 then doubleAt negative significand dropped cur
      else if !negative then .ok (.integer significand, cur)
      else if 0 < significand && significand ≤ 0x8000000000000000 then
        .ok (.integer (-significand), cur)
      else .ok (signedDouble true (Float.ofNat significand), cur)

/-- A number behind its sign. -/
def parseNumber (negative : Bool) (cur : Cursor) : Except SyntaxError (Number × Cursor) :=
  match digitsAt cur with
  | [] => .error (cur.ahead (if cur.rest.isEmpty then .endInValue else .invalidNumber))
  | '0' :: more =>
      if more.isEmpty then parseFraction negative 0 0 cur.skip
      else .error (cur.skip.ahead .invalidNumber)
  | ds =>
      let (value, count) := readDigits 0x10000000000000000 0 ds
      parseFraction negative value (ds.length - count) (cur.skipBytes ds.length)

/-! ## Strings -/

/-- The value of a hexadecimal digit. -/
def hexValue? (c : Char) : Option Nat :=
  if c.isDigit then some (c.toNat - '0'.toNat)
  else if 'a' ≤ c ∧ c ≤ 'f' then some (c.toNat - 'a'.toNat + 10)
  else if 'A' ≤ c ∧ c ≤ 'F' then some (c.toNat - 'A'.toNat + 10)
  else none

/-- The number that four hexadecimal digits write. -/
def parseHex (cur : Cursor) : Except SyntaxError (Nat × Cursor) :=
  match cur.rest.take 4 |>.map hexValue? with
  | [some a, some b, some c, some d] => .ok (((a * 16 + b) * 16 + c) * 16 + d, cur.skipBytes 4)
  | _ =>
      if (cur.rest.take 4).foldl (fun n c => n + c.utf8Size) 0 < 4 then
        .error (cur.toEnd.here .endInString)
      else .error (cur.afterFour .invalidEscape)

/-- Takes the character that must open the second half of a surrogate pair. -/
def expectPair (c : Char) (cur : Cursor) : Except SyntaxError Cursor :=
  match cur.next? with
  | none => .error (cur.here .endInString)
  | some (found, after) => if found = c then .ok after else .error (cur.ahead .unpairedSurrogate)

/-- The character of a numeric escape, behind its `u`. -/
def parseCodePoint (cur : Cursor) : Except SyntaxError (Char × Cursor) := do
  let (high, after) ← parseHex cur
  if 0xDC00 ≤ high ∧ high ≤ 0xDFFF then
    throw (after.here .loneSurrogate)
  else if 0xD800 ≤ high ∧ high ≤ 0xDBFF then
    let opened ← expectPair '\\' after
    let opened ← expectPair 'u' opened
    let (low, after) ← parseHex opened
    if 0xDC00 ≤ low ∧ low ≤ 0xDFFF then
      return (Char.ofNat (0x10000 + (high - 0xD800) * 0x400 + (low - 0xDC00)), after)
    else throw (after.here .loneSurrogate)
  else return (Char.ofNat high, after)

/-- The character of an escape, behind its backslash. -/
def parseEscape (cur : Cursor) : Except SyntaxError (Char × Cursor) :=
  match cur.next? with
  | none => .error (cur.here .endInString)
  | some (c, after) =>
      match c with
      | '"' => .ok ('"', after)
      | '\\' => .ok ('\\', after)
      | '/' => .ok ('/', after)
      | 'b' => .ok ('\x08', after)
      | 'f' => .ok ('\x0c', after)
      | 'n' => .ok ('\n', after)
      | 'r' => .ok ('\r', after)
      | 't' => .ok ('\t', after)
      | 'u' => parseCodePoint after
      | _ => .error (cur.ahead .invalidEscape)

/-- The text behind an opening quote, where `taken` holds its characters so far, last first.  The
budget bounds the number of characters. -/
def parseString : (budget : Nat) → List Char → Cursor → Except SyntaxError (String × Cursor)
  | 0, _, cur => .error (cur.here .endInString)
  | budget + 1, taken, cur =>
      match cur.next? with
      | none => .error (cur.here .endInString)
      | some (c, after) =>
          if c = '"' then .ok (String.ofList taken.reverse, after)
          else if c = '\\' then
            match parseEscape after with
            | .error e => .error e
            | .ok (c, after) => parseString budget (c :: taken) after
          else if c.toNat < 32 then .error (after.here .controlInString)
          else parseString budget (c :: taken) after

/-! ## Values -/

mutual
/-- The value at the cursor, where `depth` more levels may be opened.  The budget bounds the number
of steps. -/
def parseValue : (budget : Nat) → (depth : Nat) → Cursor → Except SyntaxError (Json × Cursor)
  | 0, _, cur => .error (cur.here .endInValue)
  | budget + 1, depth, cur =>
      let cur := cur.skipSpace
      match cur.peek? with
      | none => .error (cur.ahead .endInValue)
      | some 'n' => (expectLetters ['u', 'l', 'l'] cur.skip).map (Json.null, ·)
      | some 't' => (expectLetters ['r', 'u', 'e'] cur.skip).map (Json.bool true, ·)
      | some 'f' => (expectLetters ['a', 'l', 's', 'e'] cur.skip).map (Json.bool false, ·)
      | some '-' => (parseNumber true cur.skip).map fun (n, k) => (Json.number n, k)
      | some '"' =>
          (parseString budget [] cur.skip).map fun (s, k) => (Json.string s, k)
      | some '[' =>
          match depth with
          | 0 => .error (cur.ahead .nestedTooDeep)
          | depth + 1 =>
              (parseItems budget depth true [] cur.skip).map fun (js, k) => (Json.array js, k)
      | some '\x7b' =>
          match depth with
          | 0 => .error (cur.ahead .nestedTooDeep)
          | depth + 1 =>
              (parseMembers budget depth true [] cur.skip).map fun (ms, k) => (Json.object ms, k)
      | some c =>
          if c.isDigit then (parseNumber false cur).map fun (n, k) => (Json.number n, k)
          else .error (cur.ahead .expectedValue)

/-- The items of an array behind its bracket, or behind the items `taken`, last first. -/
def parseItems : (budget : Nat) → (depth : Nat) → (first : Bool) → List Json → Cursor →
    Except SyntaxError (List Json × Cursor)
  | 0, _, _, _, cur => .error (cur.here .endInList)
  | budget + 1, depth, first, taken, cur =>
      let cur := cur.skipSpace
      match cur.peek? with
      | none => .error (cur.ahead .endInList)
      | some ']' => .ok (taken.reverse, cur.skip)
      | some c =>
          let item? : Except SyntaxError Cursor :=
            if first then .ok cur
            else if c = ',' then
              let after := cur.skip.skipSpace
              match after.peek? with
              | none => .error (after.ahead .endInValue)
              | some ']' => .error (after.ahead .trailingComma)
              | some _ => .ok after
            else .error (cur.ahead .expectedListEnd)
          match item? with
          | .error e => .error e
          | .ok start =>
              match parseValue budget depth start with
              | .error e => .error e
              | .ok (j, after) => parseItems budget depth false (j :: taken) after

/-- The members of an object behind its brace, or behind the members `taken`. -/
def parseMembers : (budget : Nat) → (depth : Nat) → (first : Bool) → List (String × Json) →
    Cursor → Except SyntaxError (List (String × Json) × Cursor)
  | 0, _, _, _, cur => .error (cur.here .endInObject)
  | budget + 1, depth, first, taken, cur =>
      let cur := cur.skipSpace
      match cur.peek? with
      | none => .error (cur.ahead .endInObject)
      | some '\x7d' => .ok (taken, cur.skip)
      | some c =>
          let key? : Except SyntaxError Cursor :=
            if first then
              if c = '"' then .ok cur else .error (cur.ahead .keyMustBeString)
            else if c = ',' then
              let after := cur.skip.skipSpace
              match after.peek? with
              | none => .error (after.ahead .endInValue)
              | some '"' => .ok after
              | some '\x7d' => .error (after.ahead .trailingComma)
              | some _ => .error (after.ahead .keyMustBeString)
            else .error (cur.ahead .expectedObjectEnd)
          match key? with
          | .error e => .error e
          | .ok start =>
              match parseString budget [] start.skip with
              | .error e => .error e
              | .ok (key, after) =>
                  let colon := after.skipSpace
                  match colon.peek? with
                  | none => .error (colon.ahead .endInObject)
                  | some ':' =>
                      match parseValue budget depth colon.skip with
                      | .error e => .error e
                      | .ok (j, after) => parseMembers budget depth false (put key j taken) after
                  | some _ => .error (colon.ahead .expectedColon)
end

/-- Reads a text that holds one value and nothing else but blanks. -/
def parse (text : String) : Except SyntaxError Json :=
  let start := Cursor.start text
  match parseValue (2 * start.rest.length + 2) 127 start with
  | .error e => .error e
  | .ok (j, after) =>
      let after := after.skipSpace
      if after.rest.isEmpty then .ok j else .error (after.ahead .trailingCharacters)

end EntityCatalog.Json

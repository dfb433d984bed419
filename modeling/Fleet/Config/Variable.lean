import Fleet.Json.Parser
import Fleet.Text.Blank

/-!
# Values of variables

The text of a variable writes `true` or `false`, an integer of 64 bits, a number with a point, a
text between quotes, a character between apostrophes, an array between brackets, a table between
braces, or else a plain text, which ends before the next comma, bracket or brace and counts without
the blanks at its ends. A text that does not follow this grammar as a whole is a plain text as it
stands.
-/

namespace Fleet.Config

open Json (digitsValue)

/-- A blank of ASCII between the parts of a value. -/
def isAsciiBlank (c : Char) : Bool := [' ', '\t', '\n', '\x0c', '\r'].contains c

/-- The text behind its blanks. -/
def skipBlanks (cs : List Char) : List Char := cs.dropWhile isAsciiBlank

/-- Whether a character ends a plain text. -/
def isSeparator (c : Char) : Bool := [',', '[', ']', '\x7b', '\x7d'].contains c

/-- One digit or more, as a number. -/
def wholeNumber? (ds : List Char) : Option Nat :=
  if !ds.isEmpty && ds.all Char.isDigit then some (digitsValue 0 ds) else none

/-- An integer of 64 bits: negative ones have a sign bit, others need none. -/
def integer? : List Char → Option Int
  | '-' :: ds => (wholeNumber? ds).bind fun n => if n ≤ UInt64.size / 2 then some (-n) else none
  | '+' :: ds => (wholeNumber? ds).bind fun n => if n < UInt64.size then some n else none
  | ds => (wholeNumber? ds).bind fun n => if n < UInt64.size then some n else none

/-- The exponent behind a number, if there is one. -/
def exponent? : List Char → Option Int
  | [] => some 0
  | c :: rest =>
    if c == 'e' || c == 'E' then
      match rest with
      | '-' :: ds => (wholeNumber? ds).map fun n => -(n : Int)
      | '+' :: ds => (wholeNumber? ds).map Int.ofNat
      | ds => (wholeNumber? ds).map Int.ofNat
    else none

/-- A number with a point and a digit at least. -/
def pointNumber? (cs : List Char) : Option Numeral :=
  let (negative, cs) := match cs with
    | '-' :: rest => (true, rest)
    | '+' :: rest => (false, rest)
    | cs => (false, cs)
  let whole := cs.takeWhile Char.isDigit
  match cs.dropWhile Char.isDigit with
  | '.' :: behind =>
    let places := behind.takeWhile Char.isDigit
    if whole.isEmpty && places.isEmpty then none
    else (exponent? (behind.dropWhile Char.isDigit)).map fun e =>
      ⟨negative, digitsValue 0 (whole ++ places), e - places.length, false⟩
  | _ => none

/-- The value of a plain text. -/
def plainValue (cs : List Char) : Json :=
  match pointNumber? cs, integer? cs with
  | some n, _ => .number n
  | none, some i => .number (Numeral.ofInt i)
  | none, none => .string (String.ofList cs)

/-! ## Quoted texts -/

/-- The character of an escape of one letter. -/
def escapedLetter? : Char → Option Char
  | '"' => some '"'
  | '\\' => some '\\'
  | 'b' => some '\x08'
  | 't' => some '\t'
  | 'n' => some '\n'
  | 'f' => some '\x0c'
  | 'r' => some '\r'
  | _ => none

/-- The character whose number hexadecimal digits write. -/
def hexChar? (ds : List Char) : Option Char :=
  (Text.hexNumber? ds).bind fun n => if n.isValidChar then some (Char.ofNat n) else none

/-- The rest of a quoted text; `read` is what stands before, in reverse. -/
def readQuoted (read : List Char) : List Char → Option (List Char × List Char)
  | [] => none
  | '"' :: rest => some (read.reverse, rest)
  | '\\' :: 'u' :: a :: b :: c :: d :: rest =>
    match hexChar? [a, b, c, d] with
    | some x => readQuoted (x :: read) rest
    | none => none
  | '\\' :: 'U' :: a :: b :: c :: d :: e :: f :: g :: h :: rest =>
    match hexChar? [a, b, c, d, e, f, g, h] with
    | some x => readQuoted (x :: read) rest
    | none => none
  | '\\' :: c :: rest =>
    match escapedLetter? c with
    | some x => readQuoted (x :: read) rest
    | none => none
  | c :: rest =>
    if (c.toNat < 0x20 && c != '\t') || c.toNat == 0x7F || c == '\\' then none
    else readQuoted (c :: read) rest

/-- Whether a character can stand in the name of a member without quotes. -/
def isNameChar (c : Char) : Bool := c.isAlphanum || c == '_' || c == '-'

/-- The name of a member. -/
def readName : List Char → Option (String × List Char)
  | '"' :: rest => (readQuoted [] rest).map fun (name, rest) => (String.ofList name, rest)
  | cs =>
    match cs.takeWhile isNameChar with
    | [] => none
    | name => some (String.ofList name, cs.dropWhile isNameChar)

/-- Puts a member in place of the members of its name. -/
def setMember (name : String) (value : Json) (members : List (String × Json)) :
    List (String × Json) :=
  if members.any fun m => m.1 == name then
    members.map fun m => if m.1 == name then (name, value) else m
  else members ++ [(name, value)]

/-! ## Values -/

mutual

/-- A value between blanks. -/
def readVariable : Nat → List Char → Option (Json × List Char)
  | 0, _ => none
  | budget + 1, cs =>
    let value : Option (Json × List Char) := match skipBlanks cs with
      | 't' :: 'r' :: 'u' :: 'e' :: rest => some (.bool true, rest)
      | 'f' :: 'a' :: 'l' :: 's' :: 'e' :: rest => some (.bool false, rest)
      | '\x7b' :: '\x7d' :: rest => some (.object [], rest)
      | '\x7b' :: rest => (readTable budget [] rest).map fun (ms, rest) => (.object ms, rest)
      | '[' :: ']' :: rest => some (.array [], rest)
      | '[' :: rest => (readArray budget rest).map fun (items, rest) => (.array items, rest)
      | '"' :: rest => (readQuoted [] rest).map fun (t, rest) => (.string (String.ofList t), rest)
      | '\'' :: c :: '\'' :: rest => some (.string (String.singleton c), rest)
      | '\'' :: _ => none
      | cs =>
        let plain := cs.takeWhile fun c => !isSeparator c
        some (plainValue (Text.trimChars plain), cs.drop plain.length)
    value.map fun (value, rest) => (value, skipBlanks rest)

/-- The items of an array up to its end, which may follow a comma. -/
def readArray : Nat → List Char → Option (List Json × List Char)
  | 0, _ => none
  | budget + 1, cs =>
    match readVariable budget cs with
    | some (item, ',' :: ']' :: rest) => some ([item], rest)
    | some (item, ',' :: rest) =>
      (readArray budget rest).map fun (items, rest) => (item :: items, rest)
    | some (item, ']' :: rest) => some ([item], rest)
    | _ => none

/-- The members of a table up to its end, which may follow a comma, behind members that stand before
them. The last member of a name counts. -/
def readTable : Nat → List (String × Json) → List Char → Option (List (String × Json) × List Char)
  | 0, _, _ => none
  | budget + 1, before, cs =>
    match (readName (skipBlanks cs)).map fun (name, rest) => (name, skipBlanks rest) with
    | some (name, '=' :: rest) =>
      match readVariable budget rest with
      | some (value, ',' :: '\x7d' :: rest) => some (setMember name value before, rest)
      | some (value, ',' :: rest) => readTable budget (setMember name value before) rest
      | some (value, '\x7d' :: rest) => some (setMember name value before, rest)
      | _ => none
    | _ => none

end

/-- The value of a variable. -/
def variableValue (s : String) : Json :=
  match readVariable (Json.budgetFor s.toList) s.toList with
  | some (value, []) => value
  | _ => .string s

end Fleet.Config

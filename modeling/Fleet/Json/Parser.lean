import Fleet.Json.Basic
import Fleet.Text.Hex

/-!
# Reading JSON texts

`Json.parse?` accepts a text that is one JSON value between blanks. Strings hold no control
character and no half of a surrogate pair, numbers follow the grammar strictly, and arrays and
objects nest at most 127 deep.

Every reader takes the text that is left and answers what it read with the text behind it. The
readers of nested values count down a budget that the length of the text covers, so they end.
-/

namespace Fleet.Json

/-- The blanks of JSON. -/
def isSpace (c : Char) : Bool := c == ' ' || c == '\n' || c == '\r' || c == '\t'

/-- The text behind its blanks. -/
def skipSpace (cs : List Char) : List Char := cs.dropWhile isSpace

/-! ## Numbers -/

/-- The value of a decimal digit. -/
def digitValue (c : Char) : Nat := c.toNat - 48

/-- The number that digits write, behind a number that stands before them. -/
def digitsValue (before : Nat) (ds : List Char) : Nat :=
  ds.foldl (fun n c => n * 10 + digitValue c) before

/-- One digit or more. -/
def readDigits (cs : List Char) : Option (List Char × List Char) :=
  match cs.takeWhile Char.isDigit with
  | [] => none
  | ds => some (ds, cs.dropWhile Char.isDigit)

/-- The whole part of a number: `0`, or digits that do not begin with `0`. -/
def readWhole : List Char → Option (List Char × List Char)
  | '0' :: rest => some (['0'], rest)
  | cs => readDigits cs

/-- The part of a number behind the point, if there is one. -/
def readFraction : List Char → Option (Option (List Char) × List Char)
  | '.' :: rest => (readDigits rest).map fun (ds, rest) => (some ds, rest)
  | cs => some (none, cs)

/-- The exponent of a number, if there is one. -/
def readExponent : List Char → Option (Option Int × List Char)
  | c :: rest =>
    if c == 'e' || c == 'E' then
      let (sign, rest) : Int × List Char := match rest with
        | '-' :: rest => (-1, rest)
        | '+' :: rest => (1, rest)
        | rest => (1, rest)
      (readDigits rest).map fun (ds, rest) => (some (sign * digitsValue 0 ds), rest)
    else some (none, c :: rest)
  | [] => some (none, [])

/-- A number behind its sign. `-0` is no integer. -/
def readUnsigned (negative : Bool) (cs : List Char) : Option (Numeral × List Char) := do
  let (whole, cs) ← readWhole cs
  let (fraction, cs) ← readFraction cs
  let (exponent, cs) ← readExponent cs
  let places := fraction.getD []
  let digits := digitsValue (digitsValue 0 whole) places
  let integral := fraction.isNone && exponent.isNone && !(negative && digits == 0)
  pure (⟨negative, digits, exponent.getD 0 - places.length, integral⟩, cs)

/-- A number. -/
def readNumber : List Char → Option (Numeral × List Char)
  | '-' :: rest => readUnsigned true rest
  | cs => readUnsigned false cs

/-! ## Strings -/

/-- The value of four hexadecimal digits. -/
def hex4? (a b c d : Char) : Option Nat := Text.hexNumber? [a, b, c, d]

/-- The character of an escape of one letter. -/
def escaped? : Char → Option Char
  | '"' => some '"'
  | '\\' => some '\\'
  | '/' => some '/'
  | 'b' => some '\x08'
  | 'f' => some '\x0c'
  | 'n' => some '\n'
  | 'r' => some '\r'
  | 't' => some '\t'
  | _ => none

/-- The character of a surrogate pair. -/
def pairValue (high low : Nat) : Char :=
  Char.ofNat (0x10000 + (high - 0xD800) * 0x400 + (low - 0xDC00))

/-- The rest of a string up to its closing quote; `read` is what stands before, in reverse. -/
def readString (read : List Char) : List Char → Option (List Char × List Char)
  | [] => none
  | '"' :: rest => some (read.reverse, rest)
  | '\\' :: 'u' :: a :: b :: c :: d :: '\\' :: 'u' :: e :: f :: g :: h :: rest =>
    match hex4? a b c d, hex4? e f g h with
    | some first, some second =>
      if 0xD800 ≤ first && first < 0xDC00 then
        if 0xDC00 ≤ second && second < 0xE000 then
          readString (pairValue first second :: read) rest
        else none
      else if 0xDC00 ≤ first && first < 0xE000 then none
      else readString (Char.ofNat first :: read) ('\\' :: 'u' :: e :: f :: g :: h :: rest)
    | _, _ => none
  | '\\' :: 'u' :: a :: b :: c :: d :: rest =>
    match hex4? a b c d with
    | some n =>
      if 0xD800 ≤ n && n < 0xE000 then none else readString (Char.ofNat n :: read) rest
    | none => none
  | '\\' :: c :: rest =>
    match escaped? c with
    | some e => readString (e :: read) rest
    | none => none
  | c :: rest => if c.toNat < 0x20 || c == '\\' then none else readString (c :: read) rest

/-! ## Values -/

/-- A literal name with its value. -/
def readWord (word : List Char) (value : Json) (cs : List Char) : Option (Json × List Char) :=
  if word.isPrefixOf cs then some (value, cs.drop word.length) else none

mutual

/-- A value; `depth` is how many arrays and objects may still open inside. -/
def readValue : Nat → Nat → List Char → Option (Json × List Char)
  | 0, _, _ => none
  | budget + 1, depth, cs =>
    match skipSpace cs with
    | [] => none
    | '"' :: rest => (readString [] rest).map fun (s, rest) => (.string (String.ofList s), rest)
    | '[' :: rest =>
      if depth ≤ 1 then none
      else match skipSpace rest with
        | ']' :: rest => some (.array [], rest)
        | rest =>
          (readItems budget (depth - 1) rest).map fun (items, rest) => (.array items, rest)
    | '\x7b' :: rest =>
      if depth ≤ 1 then none
      else match skipSpace rest with
        | '\x7d' :: rest => some (.object [], rest)
        | rest =>
          (readMembers budget (depth - 1) rest).map fun (members, rest) => (.object members, rest)
    | 't' :: rest => readWord "rue".toList (.bool true) rest
    | 'f' :: rest => readWord "alse".toList (.bool false) rest
    | 'n' :: rest => readWord "ull".toList .null rest
    | cs => (readNumber cs).map fun (n, rest) => (.number n, rest)

/-- The items of an array up to its end. -/
def readItems : Nat → Nat → List Char → Option (List Json × List Char)
  | 0, _, _ => none
  | budget + 1, depth, cs =>
    match readValue budget depth cs with
    | none => none
    | some (item, rest) =>
      match skipSpace rest with
      | ',' :: rest => (readItems budget depth rest).map fun (items, rest) => (item :: items, rest)
      | ']' :: rest => some ([item], rest)
      | _ => none

/-- The members of an object up to its end. -/
def readMembers : Nat → Nat → List Char → Option (List (String × Json) × List Char)
  | 0, _, _ => none
  | budget + 1, depth, cs =>
    match skipSpace cs with
    | '"' :: rest =>
      match readString [] rest with
      | none => none
      | some (name, rest) =>
        match skipSpace rest with
        | ':' :: rest =>
          match readValue budget depth rest with
          | none => none
          | some (value, rest) =>
            let member := (String.ofList name, value)
            match skipSpace rest with
            | ',' :: rest =>
              (readMembers budget depth rest).map fun (members, rest) => (member :: members, rest)
            | '\x7d' :: rest => some ([member], rest)
            | _ => none
        | _ => none
    | _ => none

end

/-- How deep arrays and objects may nest, and one more. -/
def depthLimit : Nat := 128

/-- A budget that covers every value of a text. -/
def budgetFor (cs : List Char) : Nat := 2 * cs.length + 2

/-- The value that a text writes. -/
def parse? (s : String) : Option Json :=
  let cs := s.toList
  match readValue (budgetFor cs) depthLimit cs with
  | some (value, rest) => if (skipSpace rest).isEmpty then some value else none
  | none => none

end Fleet.Json

import Fleet.Text.Hex
import Fleet.Text.Utf8

/-!
# Percent signs

Two encodings of text into ASCII. `percent` writes the bytes of the characters of a class as `%` and
two hexadecimal digits, and `unpercent` reads such bytes. `formEncode` writes name and value pairs
as a form body: a space becomes `+`, letters, digits and `*-._` stay, every other byte is written
with a percent sign.
-/

namespace Fleet.Text

/-- A byte written with a percent sign. -/
def percentByte (b : UInt8) : List Char :=
  ['%', hexDigit (b.toNat / 16), hexDigit (b.toNat % 16)]

/-- A character written byte by byte with percent signs. -/
def percentChar (c : Char) : List Char := (bytes (String.singleton c)).flatMap percentByte

/-- The text with the characters of a class written with percent signs. -/
def percent (reserved : Char → Bool) (cs : List Char) : List Char :=
  cs.flatMap fun c => if reserved c then percentChar c else [c]

/-- The bytes of a text in which a percent sign with two hexadecimal digits writes a byte. Any other
percent sign stands for itself. -/
def percentBytes : List Char → List UInt8
  | [] => []
  | '%' :: a :: b :: rest =>
    match hexValue? a, hexValue? b with
    | some high, some low => UInt8.ofNat (16 * high + low) :: percentBytes rest
    | _, _ => bytes "%" ++ percentBytes (a :: b :: rest)
  | c :: rest => bytes (String.singleton c) ++ percentBytes rest

/-- The text that a text with percent signs stands for. -/
def unpercent (cs : List Char) : List Char :=
  if cs.contains '%' then repairFrom none (percentBytes cs) else cs

/-- A control character or one outside ASCII. -/
def isControlOrWide (c : Char) : Bool := c.toNat < 0x20 || 0x7F ≤ c.toNat

/-- What may not stand in a path. -/
def reservedInPath (c : Char) : Bool :=
  isControlOrWide c || " \"#<>?^`\x7b\x7d".toList.contains c

/-- What may not stand in a query. -/
def reservedInQuery (c : Char) : Bool :=
  isControlOrWide c || " \"#<>'".toList.contains c

/-- A byte of a form body. -/
def formByte (b : UInt8) : List Char :=
  let c := Char.ofNat b.toNat
  if b == 0x20 then ['+']
  else if c.isAlphanum || "*-._".toList.contains c then [c]
  else percentByte b

/-- A text in a form body. -/
def formText (s : String) : String := String.ofList ((bytes s).flatMap formByte)

/-- Name and value pairs as a form body. -/
def formEncode (fields : List (String × String)) : String :=
  "&".intercalate (fields.map fun (name, value) => formText name ++ "=" ++ formText value)

end Fleet.Text

/-!
# Blanks, words and lines

Blank is what Unicode calls white space, which is more than the six characters of ASCII. Trimming
and the splitting into words go by that class. Lines end with a line feed, and a carriage return
directly before it belongs to the ending.

The functions work on lists of characters; the versions on `String` wrap them.
-/

namespace Fleet.Text

/-- The characters with the property `White_Space`. -/
def isBlank (c : Char) : Bool :=
  let n := c.toNat
  (9 ≤ n && n ≤ 13) || n == 0x20 || n == 0x85 || n == 0xA0 || n == 0x1680 ||
    (0x2000 ≤ n && n ≤ 0x200A) || n == 0x2028 || n == 0x2029 || n == 0x202F || n == 0x205F ||
    n == 0x3000

/-- The text without the characters of a class at its end. -/
def dropEnd (p : Char → Bool) (cs : List Char) : List Char :=
  (cs.reverse.dropWhile p).reverse

/-- The text without blanks at either end. -/
def trimChars (cs : List Char) : List Char := dropEnd isBlank (cs.dropWhile isBlank)

/-- The text without blanks at either end. -/
def trim (s : String) : String := String.ofList (trimChars s.toList)

/-- The text without any `c` at its end. -/
def dropTrailing (c : Char) (s : String) : String := String.ofList (dropEnd (· == c) s.toList)

/-- Cuts at every character of a class; `word` is what stands before the text, in reverse. -/
def pieces (p : Char → Bool) (word : List Char) : List Char → List (List Char)
  | [] => [word.reverse]
  | c :: rest => if p c then word.reverse :: pieces p [] rest else pieces p (c :: word) rest

/-- The pieces between the characters of a class, empty pieces included. -/
def splitAtChars (p : Char → Bool) (cs : List Char) : List (List Char) := pieces p [] cs

/-- The words of a text: its longest pieces without a blank. -/
def wordChars (cs : List Char) : List (List Char) :=
  (splitAtChars isBlank cs).filter fun w => !w.isEmpty

/-- The words of a text. -/
def words (s : String) : List String := (wordChars s.toList).map String.ofList

/-- A line without the carriage return that belongs to its ending. -/
def dropReturn (line : List Char) : List Char :=
  match line.reverse with
  | '\r' :: rest => rest.reverse
  | _ => line

/-- The lines of a text; `line` is what stands before the text, in reverse. A last line needs no
line feed, and keeps a carriage return if it has none. -/
def lineChars (line : List Char) : List Char → List (List Char)
  | [] => if line.isEmpty then [] else [line.reverse]
  | '\n' :: rest => dropReturn line.reverse :: lineChars [] rest
  | c :: rest => lineChars (c :: line) rest

/-- The lines of a text. -/
def lines (s : String) : List String := (lineChars [] s.toList).map String.ofList

/-- What stands before and after the first place where `mark` stands. -/
def cutChars (mark : List Char) : List Char → Option (List Char × List Char)
  | [] => if mark.isEmpty then some ([], []) else none
  | c :: rest =>
    if mark.isPrefixOf (c :: rest) then some ([], (c :: rest).drop mark.length)
    else (cutChars mark rest).map fun (before, after) => (c :: before, after)

/-- What stands before and after the first place where `mark` stands. -/
def cut? (mark s : String) : Option (String × String) :=
  (cutChars mark.toList s.toList).map fun (before, after) =>
    (String.ofList before, String.ofList after)

/-- Whether `part` stands somewhere in the text. -/
def contains (s part : String) : Bool := (cutChars part.toList s.toList).isSome

/-- The pieces between the places where `c` stands. -/
def splitAt (c : Char) (s : String) : List String :=
  (splitAtChars (· == c) s.toList).map String.ofList

/-- The text in the small letters of ASCII. -/
def lowerAscii (s : String) : String := String.ofList (s.toList.map Char.toLower)

/-- Whether two texts differ at most in the case of ASCII letters. -/
def sameIgnoringCase (a b : String) : Bool := lowerAscii a == lowerAscii b

/-- The text padded with spaces at its end to `width` characters. -/
def padTo (width : Nat) (s : String) : String :=
  s ++ String.ofList (List.replicate (width - s.length) ' ')

end Fleet.Text

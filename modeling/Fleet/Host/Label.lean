import Fleet.Host.Composition
import Fleet.Host.Punycode

/-!
# Labels of domain names

A label is what stands between two points of a name. It does not begin with a mark, a joiner stands
in it only where it shows, and in a name with letters that are written to the left all letters of a
label are written in one direction.

A label that begins with `xn--` stands for the label that the rest writes in ASCII.
-/

namespace Fleet.Host

/-- Whether a character is outside ASCII. -/
def isWide (c : Char) : Bool := 0x80 ≤ c.toNat

/-! ## Joiners -/

/-- Keeps letters apart that would join. -/
def nonJoiner : Char := '\u200C'

/-- Joins letters that would not. -/
def joiner : Char := '\u200D'

/-- The place of a mark behind which the next letter joins. -/
def viramaPlace : Nat := 9

/-- Whether joining finds a letter of one of some kinds first. -/
def joinsBy (kinds : List Joining) (cs : List Char) : Bool :=
  match cs.dropWhile fun c => (traitsOf c).joining == .transparent with
  | c :: _ => kinds.contains (traitsOf c).joining
  | [] => false

/-- Whether a joiner shows between what stands before it, in reverse, and what stands behind it. -/
def joinerShows (c : Char) (before behind : List Char) : Bool :=
  (match before with
    | b :: _ => (traitsOf b).place == viramaPlace
    | [] => false) ||
  (c == nonJoiner && joinsBy [.next, .both] before && joinsBy [.previous, .both] behind)

/-- Whether every joiner of a label shows; `before` is what stands before, in reverse. -/
def joinersShow (before : List Char) : List Char → Bool
  | [] => true
  | c :: rest =>
    ((c != nonJoiner && c != joiner) || joinerShows c before rest) && joinersShow (c :: before) rest

/-! ## Direction -/

/-- The direction of a character. ASCII needs no data. -/
def directionOf (c : Char) : Direction :=
  if c.isDigit then .digit
  else if c.isAlpha then .rightward
  else if isWide c then (traitsOf c).direction
  else .neutral

/-- Whether a character makes its name one that is written to the left. -/
def turnsName (c : Char) : Bool := directionOf c == .leftward || directionOf c == .arabicDigit

/-- Whether a label is written in one direction: behind a first letter stand no letters of the other
direction, the last character that is no attached mark is a letter or a digit, and digits of both
kinds do not meet. -/
def keepsDirection (label : List Char) : Bool :=
  match label.map directionOf with
  | [] => true
  | first :: behind =>
    let body := (behind.reverse.dropWhile (· == .attached)).reverse
    let endsIn (kinds : List Direction) : Bool := body.getLast?.all kinds.contains
    match first with
    | .rightward =>
      !body.contains .leftward && !body.contains .arabicDigit && endsIn [.rightward, .digit]
    | .leftward =>
      !body.contains .rightward && endsIn [.leftward, .digit, .arabicDigit] &&
        !(body.contains .digit && body.contains .arabicDigit)
    | _ => false

/-! ## Labels -/

/-- What an encoded label begins with, which stands for another one. -/
def encodedStem : List Char := ['x', 'n', '-', '-']

/-- How many characters a label can have if some are outside ASCII. -/
def labelLimit : Nat := 1000

/-- How many characters can stand behind the stem of an encoded label. -/
def encodedLimit : Nat := 2000

/-- The label that one stands for, if it can be read: what an encoded label stands for is already in
the form that names have. -/
def decoded? (label : List Char) : Option (List Char) :=
  if encodedStem.isPrefixOf label then
    let behind := label.drop encodedStem.length
    if behind.any isWide || encodedLimit < behind.length then none
    else if behind.getLast?.all (· == '-') then none
    else
      match Punycode.decode? behind with
      | some cs => if mapped? cs == some cs && normalForm cs == cs then some cs else none
      | none => none
  else some label

/-- Whether a label can stand in a name, directions aside. -/
def isLabel (label : List Char) : Bool :=
  !label.any isWide ||
    (!(label.head?.any fun c => (traitsOf c).isMark) && joinersShow [] label &&
      label.length ≤ labelLimit)

end Fleet.Host

import Fleet.Host

/-!
# Web addresses

`Url.parse?` reads an address of the schemes `http` and `https` as browsers do: backslashes count as
slashes, line breaks are dropped, segments of dots are resolved, and what may not stand in a path or
query is written with percent signs. The fragment is no part of a request, and credentials in an
address are not kept.
-/

namespace Fleet

/-- An address that a request can be sent to. -/
structure Url where
  secure : Bool
  host : String
  port : UInt16
  /-- The path with the query. -/
  target : String
  deriving DecidableEq, Repr, Inhabited

namespace Url

/-- The port of a scheme. -/
def standardPort (secure : Bool) : UInt16 := if secure then 443 else 80

/-- Control characters and spaces are not read at the ends of an address. -/
def isPadding (c : Char) : Bool := c.toNat ≤ 0x20

/-- Tabs and line breaks are read nowhere. -/
def isSkipped (c : Char) : Bool := c == '\t' || c == '\n' || c == '\r'

/-- What is read of an address. -/
def significant (cs : List Char) : List Char :=
  (Text.dropEnd isPadding (cs.dropWhile isPadding)).filter fun c => !isSkipped c

/-- A slash of either kind. -/
def isSlash (c : Char) : Bool := c == '/' || c == '\\'

/-- Where the authority of an address ends. -/
def endsAuthority (c : Char) : Bool := isSlash c || c == '?' || c == '#'

/-- What stands behind a scheme's name and its colon, if the text begins with them. -/
def afterScheme? (name : String) (cs : List Char) : Option (List Char) :=
  let head := name.toList ++ [':']
  if (cs.take head.length).map Char.toLower = head then some (cs.drop head.length) else none

/-- The text behind the last `@`: credentials come before it. -/
def afterCredentials (authority : List Char) : List Char :=
  (authority.reverse.takeWhile (· != '@')).reverse

/-! ## Hosts and ports -/

/-- A port: digits, or nothing for the port of the scheme. -/
def port? (secure : Bool) (ds : List Char) : Option UInt16 :=
  if ds.isEmpty then some (standardPort secure)
  else if ds.all Char.isDigit then
    let n := ds.foldl (fun n c => n * 10 + (c.toNat - 48)) 0
    if n < UInt16.size then some (UInt16.ofNat n) else none
  else none

/-- What stands before and behind the first colon outside brackets; `inside` says whether a bracket
is open. -/
def cutPort (inside : Bool) : List Char → List Char × List Char
  | [] => ([], [])
  | c :: rest =>
    if c == ':' && !inside then ([], rest)
    else
      let (host, port) := cutPort (c == '[' || (inside && c != ']')) rest
      (c :: host, port)

/-- The host and the port of an authority. -/
def hostAndPort? (secure : Bool) (authority : List Char) : Option (String × UInt16) :=
  let (host, digits) := cutPort false authority
  match Host.parse? host, port? secure digits with
  | some host, some port => some (String.ofList host, port)
  | _, _ => none

/-! ## Paths -/

/-- A point, perhaps written with a percent sign. -/
def pointForms : List String := [".", "%2e"]

/-- Whether a segment stands for the place where it is. -/
def isHere (segment : List Char) : Bool :=
  pointForms.contains (Text.lowerAscii (String.ofList segment))

/-- Whether a segment stands for the place above. -/
def isAbove (segment : List Char) : Bool :=
  (pointForms.flatMap fun a => pointForms.map fun b => a ++ b).contains
    (Text.lowerAscii (String.ofList segment))

/-- Resolves segments of dots; `kept` are the segments before, in reverse. A path that ends in one
ends in a slash. -/
def resolveDots (kept : List (List Char)) : List (List Char) → List (List Char)
  | [] => kept.reverse
  | [last] =>
    if isAbove last then ([] :: kept.tail).reverse
    else if isHere last then ([] :: kept).reverse
    else (last :: kept).reverse
  | s :: rest =>
    if isAbove s then resolveDots kept.tail rest
    else if isHere s then resolveDots kept rest
    else resolveDots (s :: kept) rest

/-- The path that is sent. -/
def path (cs : List Char) : List Char :=
  let cs := match cs with
    | c :: rest => if isSlash c then rest else cs
    | [] => []
  let segments := resolveDots [] (Text.splitAtChars isSlash cs)
  segments.flatMap fun s => '/' :: Text.percent Text.reservedInPath s

/-- The path and the query that are sent. -/
def targetOf (cs : List Char) : String :=
  let cs := cs.takeWhile (· != '#')
  let before := cs.takeWhile (· != '?')
  let query := match cs.drop before.length with
    | '?' :: q => '?' :: Text.percent Text.reservedInQuery q
    | _ => []
  String.ofList (path before ++ query)

/-- The address that a text writes, if a request can be sent to it. -/
def parse? (s : String) : Option Url := do
  let cs := significant s.toList
  let (secure, rest) ← match afterScheme? "http" cs, afterScheme? "https" cs with
    | some rest, _ => some (false, rest)
    | none, some rest => some (true, rest)
    | none, none => none
  let rest := rest.dropWhile isSlash
  let authority := rest.takeWhile fun c => !endsAuthority c
  let (host, port) ← hostAndPort? secure (afterCredentials authority)
  pure { secure, host, port, target := targetOf (rest.drop authority.length) }

end Url

end Fleet

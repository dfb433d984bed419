import Fleet.Text.Blank
import Fleet.Text.Hex

/-!
# Numeric hosts

A host of four bytes is written as up to four numbers between points, decimal, octal or hexadecimal,
of which the last one takes up all the bytes that are left. A name that ends in a number is such a
host or none.

A host of eight words is written between brackets: groups of up to four hexadecimal digits between
colons, where two colons stand for one zero group or more, and four decimal numbers between points
may take the place of the last two groups.
-/

namespace Fleet.Host

/-! ## Four bytes -/

/-- A number of a host: octal with `0` in front, hexadecimal with `0x` in front. -/
def number? (part : List Char) : Option Nat :=
  let digits (base : Nat) (ds : List Char) : Option Nat :=
    ds.foldlM (fun n c => (Text.hexValue? c).bind fun v =>
      if v < base then some (n * base + v) else none) 0
  match part with
  | [] => none
  | '0' :: x :: ds => if x.toLower == 'x' then digits 16 ds else digits 8 (x :: ds)
  | ds => digits 10 ds

/-- Whether a host ends in a number, so that it must be numeric as a whole. -/
def endsInNumber (parts : List (List Char)) : Bool :=
  match parts.getLast? with
  | some last => (!last.isEmpty && last.all Char.isDigit) || (number? last).isSome
  | none => false

/-- Whether the parts write a host of four bytes: all but the last one write a byte. -/
def isFourBytes (parts : List (List Char)) : Bool :=
  match parts.mapM number? with
  | none => false
  | some ns =>
    ns.length ≤ 4 && ns.dropLast.all (· < 256) &&
      ns.getLast?.any fun last => last < Nat.pow 256 (5 - ns.length)

/-- The parts of a host between its points; an empty one at the end does not count. -/
def numericParts (host : List Char) : List (List Char) :=
  let parts := Text.splitAtChars (· == '.') host
  match parts.getLast? with
  | some [] => parts.dropLast
  | _ => parts

/-- Whether a host is numeric if it ends in a number. -/
def numbersFit (host : List Char) : Bool :=
  !endsInNumber (numericParts host) || isFourBytes (numericParts host)

/-! ## Eight words -/

/-- Whether a text writes a group. -/
def isGroup (cs : List Char) : Bool := (Text.hexNumber? cs).isSome && cs.length ≤ 4

/-- Whether a text writes a byte as a decimal number without zeros in front. -/
def isByte (cs : List Char) : Bool :=
  !cs.isEmpty && cs.all Char.isDigit && (cs.length == 1 || cs.head? != some '0') &&
    cs.length ≤ 3 && (number? cs).any (· < 256)

/-- Whether a text writes four bytes as decimal numbers. -/
def isDotted (cs : List Char) : Bool :=
  let parts := Text.splitAtChars (· == '.') cs
  parts.length == 4 && parts.all isByte

/-- How many groups a text writes; four bytes count for two groups where they may stand. -/
def groupCount? (canEndDotted : Bool) (cs : List Char) : Option Nat :=
  if cs.isEmpty then some 0
  else
    let parts := Text.splitAtChars (· == ':') cs
    if parts.all isGroup then some parts.length
    else if canEndDotted && parts.dropLast.all isGroup && parts.getLast?.any isDotted then
      some (parts.length + 1)
    else none

/-- Whether a text writes eight words. -/
def isEightWords (cs : List Char) : Bool :=
  match Text.cutChars [':', ':'] cs with
  | none => groupCount? true cs == some 8
  | some (before, behind) =>
    match groupCount? false before, groupCount? true behind with
    | some m, some n => m + n < 8
    | _, _ => false

example : isEightWords "::ffff:127.0.0.1".toList := by decide +kernel
example : isEightWords "1:2:3:4:5:6:7::".toList := by decide +kernel
example : isEightWords ":::1".toList = false := by decide +kernel
example : isEightWords "::1.2.3".toList = false := by decide +kernel

end Fleet.Host

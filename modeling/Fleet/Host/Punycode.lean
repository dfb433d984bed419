/-!
# Labels in ASCII

A label with characters outside ASCII travels as ASCII text: first its ASCII characters, then behind
a hyphen where the others go, as numbers of base 36. `Punycode.decode?` reads such a text. Each
number is the distance from one insertion to the next, counted over all places and code points in
order, and the weights of its digits adapt to the distances before.
-/

namespace Fleet.Punycode

/-- The value of a digit: letters come before figures. -/
def digitValue? (c : Char) : Option Nat :=
  if 'a' ≤ c && c ≤ 'z' then some (c.toNat - 97)
  else if 'A' ≤ c && c ≤ 'Z' then some (c.toNat - 65)
  else if c.isDigit then some (c.toNat - 22)
  else none

/-- A digit below this is the last of its number; `place` is 36 for the first digit, and 36 more for
each next one. -/
def threshold (bias place : Nat) : Nat := max 1 (min 26 (place - bias))

/-- How far the bias moves for a large distance, and the distance that is left. -/
def shrink (distance moved : Nat) : Nat × Nat :=
  if distance ≤ 455 then (distance, moved) else shrink (distance / 35) (moved + 36)
termination_by distance
decreasing_by exact Nat.div_lt_self (by omega) (by omega)

/-- The bias behind a distance; `count` is how many characters there are then. -/
def adapt (distance count : Nat) (isFirst : Bool) : Nat :=
  let distance := if isFirst then distance / 700 else distance / 2
  let (distance, moved) := shrink (distance + distance / count) 0
  moved + 36 * distance / (distance + 38)

/-- A number, with the text behind it. -/
def readNumber? (bias : Nat) : (place weight value : Nat) → List Char → Option (Nat × List Char)
  | _, _, _, [] => none
  | place, weight, value, c :: rest =>
    match digitValue? c with
    | none => none
    | some d =>
      let t := threshold bias place
      let value := value + d * weight
      if d < t then some (value, rest)
      else readNumber? bias (place + 36) (weight * (36 - t)) value rest

/-- A number takes up one character at least. -/
theorem length_lt_of_readNumber? {bias place weight value n : Nat} {cs rest : List Char}
    (h : readNumber? bias place weight value cs = some (n, rest)) : rest.length < cs.length := by
  induction cs generalizing place weight value with
  | nil => simp [readNumber?] at h
  | cons c cs ih =>
    rw [readNumber?] at h
    split at h
    · cases h
    · dsimp only at h
      split at h
      · cases h; simp
      · have := ih h
        simp only [List.length_cons]
        omega

/-- Inserts the characters that numbers write. `code` is the code point of the last one inserted,
and `place` the place behind it. -/
def insertAll? (bias code place : Nat) (written cs : List Char) : Option (List Char) :=
  if cs.isEmpty then some written
  else
    match h : readNumber? bias 36 1 0 cs with
    | none => none
    | some (distance, rest) =>
      let count := written.length + 1
      let next := code + (place + distance) / count
      let spot := (place + distance) % count
      if next.isValidChar then
        insertAll? (adapt distance count (place == 0)) next (spot + 1)
          (written.insertIdx spot (Char.ofNat next)) rest
      else none
termination_by cs.length
decreasing_by exact length_lt_of_readNumber? h

/-- The characters before the last hyphen, and those behind it. -/
def cutLastHyphen (cs : List Char) : List Char × List Char :=
  let behind := (cs.reverse.takeWhile (· != '-')).reverse
  ((cs.take (cs.length - behind.length)).dropLast, behind)

/-- The label that an ASCII text stands for. -/
def decode? (cs : List Char) : Option (List Char) :=
  let (written, numbers) := cutLastHyphen cs
  if cs.head? == some '-' && written.isEmpty then none
  else insertAll? 72 0x80 0 written numbers

example : decode? "mnchen-3ya".toList = some "münchen".toList := by decide +kernel
example : decode? "ihqwcrb4cv8a8dqg056pqjye".toList = some "他们为什么不说中文".toList := by
  decide +kernel
example : decode? "a".toList = some ['\u0080'] := by decide +kernel
example : decode? "-abc".toList = none := by decide +kernel

end Fleet.Punycode

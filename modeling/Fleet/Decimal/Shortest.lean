import Fleet.Decimal.Binary

/-!
# The shortest decimal that reads back

A binary fraction is written with the fewest digits that read back as the same value, and of the
decimals with that many digits the nearest one. `positional` writes it without an exponent and
without a point when the value is whole: `2`, `0.25`, `1000000000000000000000`.
-/

namespace Fleet

/-- The value `digits · 10 ^ exponent`. -/
structure Decimal where
  digits : Nat
  exponent : Int
  deriving DecidableEq, Repr, Inhabited

namespace Decimal

/-- The decimal digits of a number. -/
def digitChars (n : Nat) : List Char := Nat.toDigits 10 n

/-- The same value without zeros at the end of its digits; `fuel` bounds their number. -/
def dropZeros : Nat → Decimal → Decimal
  | 0, d => d
  | fuel + 1, d =>
    if d.digits != 0 && d.digits % 10 == 0 then dropZeros fuel ⟨d.digits / 10, d.exponent + 1⟩
    else d

/-- The value written without an exponent. -/
def positional (d : Decimal) : List Char :=
  let cs := digitChars d.digits
  if 0 ≤ d.exponent then cs ++ List.replicate d.exponent.toNat '0'
  else
    let places := (-d.exponent).toNat
    if places < cs.length then cs.take (cs.length - places) ++ '.' :: cs.drop (cs.length - places)
    else '0' :: '.' :: List.replicate (places - cs.length) '0' ++ cs

end Decimal

namespace Binary64

/-- The power of ten at which a positive fraction has its first digit. -/
def firstPlace (num den : Nat) : Int :=
  if den ≤ num then ((Decimal.digitChars (num / den)).length : Int) - 1
  else -((Decimal.digitChars ((den + num - 1) / num - 1)).length : Int)

/-- Compares `4 · a · 10 ^ k` with `b · 2 ^ q`. -/
def compareQuarters (a : Nat) (k : Int) (b : Nat) (q : Int) : Ordering :=
  let left := (4 * a * Nat.pow 10 k.toNat) <<< (-q).toNat
  let right := (b <<< q.toNat) * Nat.pow 10 (-k).toNat
  compare left right

/-- Whether `a · 10 ^ k` is read back as the value. -/
def readsBack (v : Binary64) (a : Nat) (k : Int) : Bool :=
  let narrow := 2 * v.mantissa == mantissaBound && leastExponent < v.exponent
  let low := 4 * v.mantissa - (if narrow then 1 else 2)
  let high := 4 * v.mantissa + 2
  let even := v.mantissa % 2 == 0
  let above := compareQuarters a k low v.exponent
  let below := compareQuarters a k high v.exponent
  (above == .gt || (even && above == .eq)) && (below == .lt || (even && below == .eq))

/-- The nearest decimal with its last digit at `10 ^ k`, if one of the two neighbours of the value
on that grid reads back. Of two equally near ones the greater is taken. -/
def onGrid? (v : Binary64) (num den : Nat) (k : Int) : Option Decimal :=
  let (n, d) :=
    if 0 ≤ k then (num, den * Nat.pow 10 k.toNat) else (num * Nat.pow 10 (-k).toNat, den)
  let floor := n / d
  let rest := n % d
  let lower := v.readsBack floor k && floor != 0
  let upper := v.readsBack (floor + 1) k
  if upper && (!lower || d ≤ 2 * rest) then some ⟨floor + 1, k⟩
  else if lower then some ⟨floor, k⟩
  else none

/-- The first grid that holds a decimal which reads back, from `k` downwards. -/
def searchGrids (v : Binary64) (num den : Nat) : Nat → Int → Decimal
  | 0, _ => ⟨v.mantissa, v.exponent⟩
  | fuel + 1, k =>
    match v.onGrid? num den k with
    | some d => d
    | none => searchGrids v num den fuel (k - 1)

/-- The shortest decimal that reads back as the absolute value. -/
def shortest (v : Binary64) : Decimal :=
  if v.mantissa == 0 then ⟨0, 0⟩
  else
    let (num, den) :=
      if 0 ≤ v.exponent then (v.mantissa <<< v.exponent.toNat, 1)
      else (v.mantissa, 1 <<< (-v.exponent).toNat)
    (searchGrids v num den 18 (firstPlace num den)).dropZeros 400

/-- The value in decimal digits, without an exponent and without a point if it is whole. -/
def positional (v : Binary64) : String :=
  String.ofList ((if v.negative then ['-'] else []) ++ v.shortest.positional)

end Binary64

end Fleet

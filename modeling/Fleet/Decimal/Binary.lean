/-!
# Binary fractions of 53 bits

A quota is kept as the binary fraction nearest to the decimal that was written: a sign, a mantissa
of at most 53 bits and a power of two, the finite values of the 64-bit format. `ofDecimal?` rounds a
decimal to the nearest such value, a tie to the even mantissa, and refuses what is too large.
-/

namespace Fleet

/-- The value `± mantissa · 2 ^ exponent`. -/
structure Binary64 where
  negative : Bool
  mantissa : Nat
  exponent : Int
  deriving DecidableEq, Repr, Inhabited

namespace Binary64

/-- The exponent of the smallest values. -/
def leastExponent : Int := -1074

/-- Mantissas are less than `2 ^ 53`. -/
def mantissaBound : Nat := 9007199254740992

/-- The exponent of the largest values. -/
def greatestExponent : Int := 971

/-- Zero. -/
def zero (negative : Bool) : Binary64 := ⟨negative, 0, leastExponent⟩

/-- The fraction `10 ^ e`. -/
def tenTo (e : Int) : Nat × Nat :=
  if 0 ≤ e then (Nat.pow 10 e.toNat, 1) else (1, Nat.pow 10 (-e).toNat)

/-- The fraction `num / den / 2 ^ q`. -/
def scaleDown (num den : Nat) (q : Int) : Nat × Nat :=
  if 0 ≤ q then (num, den <<< q.toNat) else (num <<< (-q).toNat, den)

/-- The quotient rounded to the nearest number, a tie to the even one. -/
def roundHalfEven (num den : Nat) : Nat :=
  let whole := num / den
  let twice := 2 * (num % den)
  if twice < den then whole
  else if den < twice then whole + 1
  else whole + whole % 2

/-- The value nearest to `num / den`, a positive fraction. -/
def ofFraction? (negative : Bool) (num den : Nat) : Option Binary64 :=
  let guess : Int := (num.log2 : Int) - den.log2 - 53
  let fits (q : Int) : Bool :=
    let (n, d) := scaleDown num den q
    n / d < mantissaBound
  let q := if fits guess then guess else if fits (guess + 1) then guess + 1 else guess + 2
  let q := max leastExponent q
  let (n, d) := scaleDown num den q
  let m := roundHalfEven n d
  let (m, q) := if m == mantissaBound then (m / 2, q + 1) else (m, q)
  if greatestExponent < q then none else some ⟨negative, m, q⟩

/-- The value nearest to `± digits · 10 ^ exponent`; absent when that is beyond the greatest value.
-/
def ofDecimal? (negative : Bool) (digits : Nat) (exponent : Int) : Option Binary64 :=
  if digits == 0 then some (zero negative)
  else if 400 < exponent then none
  else if (digits.log2 : Int) + 1 + 3 * exponent < -1100 then some (zero negative)
  else
    let (up, down) := tenTo exponent
    ofFraction? negative (digits * up) down

end Binary64

end Fleet

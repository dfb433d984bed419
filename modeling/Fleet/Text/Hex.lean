/-!
# Hexadecimal digits

Digits are read in either case and written in capitals.
-/

namespace Fleet.Text

/-- A hexadecimal digit in capitals. -/
def hexDigit (n : Nat) : Char := if n < 10 then Char.ofNat (48 + n) else Char.ofNat (55 + n)

/-- The value of a hexadecimal digit. -/
def hexValue? (c : Char) : Option Nat :=
  if c.isDigit then some (c.toNat - 48)
  else if 'a' ≤ c && c ≤ 'f' then some (c.toNat - 87)
  else if 'A' ≤ c && c ≤ 'F' then some (c.toNat - 55)
  else none

/-- The number that one hexadecimal digit or more write. -/
def hexNumber? (ds : List Char) : Option Nat :=
  if ds.isEmpty then none
  else ds.foldlM (fun n d => (hexValue? d).map fun v => n * 16 + v) 0

example : hexNumber? ['2', 'F'] = some 47 := by decide
example : hexNumber? [] = none := by decide

end Fleet.Text

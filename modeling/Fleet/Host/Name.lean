import Fleet.Host.Label

/-!
# Domain names

A name is read in its normal form: small letters, composed characters, labels that are written in
ASCII read as what they stand for. `domainName?` refuses a name that has no normal form.
-/

namespace Fleet.Host

/-- What may not stand in a name. -/
def isForbidden (c : Char) : Bool :=
  c.toNat ≤ 0x20 || c.toNat == 0x7F || "\"#%/:<>?@[\\]^`\x7b|\x7d".toList.contains c

/-- The labels of a name. -/
def labelsOf (name : List Char) : List (List Char) := Text.splitAtChars (· == '.') name

/-- Whether the labels make a name. -/
def isName (labels : List (List Char)) : Bool :=
  labels.all isLabel &&
    (!labels.any (fun label => label.any turnsName) || labels.all keepsDirection)

/-- The normal form of a name. -/
def domainName? (cs : List Char) : Option (List Char) :=
  match mapped? cs with
  | none => none
  | some cs =>
    let name := normalForm cs
    if name.any isForbidden then none
    else
      match (labelsOf name).mapM decoded? with
      | none => none
      | some labels => if isName labels then some (['.'].intercalate labels) else none

end Fleet.Host

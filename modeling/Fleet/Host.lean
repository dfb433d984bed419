import Fleet.Host.Name
import Fleet.Host.Numeric
import Fleet.Text.Percent

/-!
# Hosts

The host of an address: eight words between brackets, or a domain name, which may be written with
percent signs and is a host of four bytes if it ends in a number.
-/

namespace Fleet.Host

/-- The host that a text writes, in its normal form. -/
def parse? (cs : List Char) : Option (List Char) :=
  match cs with
  | '[' :: rest =>
    if rest.getLast? == some ']' && isEightWords rest.dropLast then some (cs.map Char.toLower)
    else none
  | cs =>
    (domainName? (Text.unpercent cs)).bind fun name =>
      if !name.isEmpty && numbersFit name then some name else none

end Fleet.Host

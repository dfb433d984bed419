import Fleet.Call
import Fleet.Text.Blank

/-!
# The root token in a log

A secret store that starts in development mode announces its root token in its log. A log may hold
several announcements, of which the last one that is not blank counts.
-/

namespace Fleet.RootToken

/-- What stands before a token in a log. -/
def marker : String := "Root Token:"

/-- The token that a line announces, if it announces one. -/
def ofLine? (line : String) : Option String :=
  match Text.cut? marker line with
  | none => none
  | some (_, after) =>
    let token := Text.trim after
    if token.isEmpty then none else some token

/-- The token that is announced last in a log. -/
def ofLog? (log : String) : Option String := (Text.lines log).reverse.findSome? ofLine?

/-- Reads the token from the log of a container. -/
def read (container : String) : Attempt RuntimeCall.Answer Token := do
  let log ← ExceptT.mk (Program.perform (RuntimeCall.logs container))
  match ofLog? log with
  | some token => pure ⟨token⟩
  | none => throw (.runtime (.noRootToken container))

end Fleet.RootToken

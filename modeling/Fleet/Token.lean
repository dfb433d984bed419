/-!
# Tokens

A token opens services, so it never shows in a log: its printed form says only that there is one.
-/

namespace Fleet

/-- A bearer or root token. -/
structure Token where
  secret : String
  deriving DecidableEq, Inhabited

/-- What a log shows of a token. -/
def Token.shown (_ : Token) : String := "[REDACTED]"

instance : Repr Token where
  reprPrec t _ := t.shown

end Fleet

import Fleet.Duration

/-!
# Budgets of attempts

How often something is tried, and how long is waited between two attempts.
-/

namespace Fleet

/-- How often and how densely something is tried. -/
structure Budget where
  /-- The attempts. -/
  attempts : Nat
  /-- The time between two attempts. -/
  delayMillis : Nat
  deriving DecidableEq, Repr

/-- The budget that is asked for, with one attempt at least and a delay that a pause can last. -/
def Budget.atLeastOne (attempts delayMillis : Nat) : Budget :=
  ⟨max 1 attempts, Duration.pause delayMillis⟩

end Fleet

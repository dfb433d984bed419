import Fleet.Call
import Fleet.Duration

/-!
# Waiting for quiescence

Capability sets are attached only when the consumer group that processes capability events is idle:
it has no members and is not being rebalanced. The group is described again and again, a fixed
interval apart; a failure to describe it is no quiescence. The last look is taken when the time is
up, and if the group is busy even then, the wait fails. The clock says when that is. It breaks the
wait off if it cannot show the end of the time, or the end of the next interval.
-/

namespace Fleet

/-- How the consumer group is awaited. -/
structure Quiescence where
  group : String
  initialDelayMillis : Nat
  intervalMillis : Nat
  timeoutMillis : Nat
  deriving DecidableEq, Repr

namespace Quiescence

/-- The wait of a description. -/
def ofConfig (s : Config.Saga) : Quiescence where
  group := s.consumerGroup
  initialDelayMillis := Duration.pause (1000 * s.initialDelaySecs)
  intervalMillis := s.pollIntervalMillis
  timeoutMillis := 1000 * s.timeoutSecs

/-- How many looks a wait can take: they are counted in 32 bits. -/
def pollLimit : Nat := UInt32.size - 1

/-- Whether a description shows an idle group. -/
def isIdle : Outcome GroupState → Bool
  | .ok state => state.isQuiescent
  | .error _ => false

theorem isIdle_iff {state : Outcome GroupState} : isIdle state = true ↔ state = .ok ⟨0, false⟩ := by
  constructor
  · intro h
    rcases state with e | ⟨members, rebalancing⟩
    · cases h
    · obtain ⟨hmembers, hrebalancing⟩ := (Bool.and_eq_true _ _).mp h
      obtain rfl : members = 0 := beq_iff_eq.1 hmembers
      obtain rfl : rebalancing = false := (Bool.not_eq_true' rebalancing).mp hrebalancing
      rfl
  · rintro rfl
    rfl

/-- Looks until the group is idle or the deadline is reached. `left` bounds the looks, and `polls`
counts those taken. -/
def look (q : Quiescence) (started deadline : Nat) : (left polls : Nat) → Action Nat
  | 0, _ => throw (.internal "poll counter exhausted")
  | left + 1, polls => do
    let state ← (Action.describeGroup q.group).outcome
    if isIdle state then pure (polls + 1)
    else
      let now ← Action.now
      if deadline ≤ now then throw (.notQuiescent q.group (now - started))
      else
        let next ← Action.later now q.intervalMillis
        Action.sleep (min next deadline - now)
        look q started deadline left (polls + 1)

/-- Waits until the group is idle, and answers how many looks it took. -/
def await (q : Quiescence) : Action Nat := do
  let started ← Action.now
  let deadline ← Action.later started q.timeoutMillis
  look q started deadline pollLimit 0

/-- Waits until the group is idle, then attaches capability sets. -/
def attach (q : Quiescence) (token : Token) (tenant : String) (roles : Roles) : Action Unit := do
  if q.initialDelayMillis != 0 then
    Action.sleep q.initialDelayMillis
  let _ ← q.await
  Action.attach token tenant roles

/-- Detaches capability sets; a failure does not matter. -/
def detach (token : Token) (tenant : String) (roles : Roles) : Action Unit := do
  let _ ← (Action.detach token tenant roles).outcome

end Quiescence

end Fleet

import Fleet.Proofs.Vigil
import Fleet.Quiescence
import Mathlib.Algebra.Order.Floor.Div

/-!
# How long a wait for quiescence takes

Looks are taken an interval apart, and the last one when the time is up, which may be sooner than an
interval after the one before. So the time and the interval alone say when the looks are taken and
how many there can be (`lookTime`, `mostLooks`); what the looks find only says which of them is the
last.

`await_awaited` says so for every wait whose times the clock can show. Behind a busy look the end of
the next interval is worked out even where the deadline comes first. So if the clock can show the
deadline but not the end of the last interval, the wait breaks off in place of its last look; and if
it cannot show the deadline, the wait breaks off before the first.
-/

namespace Fleet.Quiescence

/-- The most looks that a wait takes. -/
def mostLooks (q : Quiescence) : Nat := q.timeoutMillis ⌈/⌉ q.intervalMillis + 1

/-- How long after the first look the last interval is over. -/
def reach (q : Quiescence) : Nat := (q.mostLooks - 1) * q.intervalMillis

/-- How long after the first look another one is taken; the first one is number 0. -/
def lookTime (q : Quiescence) (k : Nat) : Nat := min (k * q.intervalMillis) q.timeoutMillis

/-- None of the first looks finds the group idle. -/
def Busy (f : Forecast) (n : Nat) : Prop := ∀ k < n, isIdle (f.looks k) = false

/-- A look is the first one to find the group idle; here the first one is number 1. -/
def FirstIdle (f : Forecast) (n : Nat) : Prop :=
  ∃ k, n = k + 1 ∧ Busy f k ∧ isIdle (f.looks k) = true

/-- How a wait of at most some looks ends, by what its looks find, and what has happened until
then. -/
structure Awaited (f : Forecast) (q : Quiescence) (start most : Nat) (last : Failure)
    (o : Outcome Nat) (v : Vigil) : Prop where
  ok_iff : ∀ n, o = .ok n ↔ n ≤ most ∧ FirstIdle f n
  /-- The wait answers how many looks it took. -/
  length : ∀ n, o = .ok n → v.looked.length = n
  /-- Otherwise it fails, and has taken all looks that it can take. -/
  fails : (¬ ∃ n ≤ most, FirstIdle f n) → o = .error last ∧ v.looked.length = most
  looked : v.looked.reverse = (List.range v.looked.length).map fun k => start + q.lookTime k
  /-- The wait ends with its last look. -/
  clock : v.clock = start + q.lookTime (v.looked.length - 1)

variable {f : Forecast} {q : Quiescence} {start k : Nat}

theorem lookTime_zero : q.lookTime 0 = 0 := by
  rw [lookTime, Nat.zero_mul, Nat.zero_min]

/-- From one look to the next it is an interval, or what is left of the time. -/
theorem lookTime_succ :
    q.lookTime k + min q.intervalMillis (q.timeoutMillis - q.lookTime k) = q.lookTime (k + 1) := by
  have hnext : (k + 1) * q.intervalMillis = k * q.intervalMillis + q.intervalMillis :=
    Nat.succ_mul k q.intervalMillis
  rw [lookTime, lookTime, hnext]
  omega

/-- The time is up with the last of the looks that a wait can take. -/
theorem timeoutMillis_le_lookTime_iff (hinterval : 0 < q.intervalMillis) :
    q.timeoutMillis ≤ q.lookTime k ↔ q.mostLooks ≤ k + 1 := by
  rw [mostLooks, Nat.add_le_add_iff_right, ceilDiv_le_iff_le_mul hinterval, lookTime, Nat.mul_comm,
    Nat.le_min]
  exact and_iff_left (Nat.le_refl _)

/-- The last look that a wait can take is taken when the time is up. -/
theorem lookTime_of_le (hinterval : 0 < q.intervalMillis) (h : q.mostLooks ≤ k + 1) :
    q.lookTime k = q.timeoutMillis :=
  Nat.le_antisymm (Nat.min_le_right _ _) ((timeoutMillis_le_lookTime_iff hinterval).2 h)

/-- Before the last look that a wait can take, looks are an interval apart. -/
theorem lookTime_of_lt (hinterval : 0 < q.intervalMillis) (h : k + 1 < q.mostLooks) :
    q.lookTime k = k * q.intervalMillis := by
  have hup : ¬ q.timeoutMillis ≤ q.lookTime k :=
    mt (timeoutMillis_le_lookTime_iff hinterval).1 (Nat.not_le.2 h)
  rw [lookTime] at hup ⊢
  omega

/-- When the first looks are taken, the latest time first. -/
def times (q : Quiescence) (start n : Nat) : List Nat :=
  ((List.range n).map fun k => start + q.lookTime k).reverse

theorem times_succ : q.times start (k + 1) = (start + q.lookTime k) :: q.times start k := by
  rw [times, List.range_succ, List.map_append, List.reverse_append]
  rfl

theorem length_times : (q.times start k).length = k := by
  rw [times, List.length_reverse, List.length_map, List.length_range]

/-- What has happened just before a look. -/
def before (q : Quiescence) (start k : Nat) : Vigil where
  clock := start + q.lookTime k
  looked := q.times start k

/-- What has happened just after a look. -/
def after (q : Quiescence) (start k : Nat) : Vigil where
  clock := start + q.lookTime k
  looked := q.times start (k + 1)

theorem looked_after : (q.after start k).looked.reverse =
    (List.range (q.after start k).looked.length).map fun k => start + q.lookTime k := by
  rw [after, length_times, times, List.reverse_reverse]

theorem clock_after :
    (q.after start k).clock = start + q.lookTime ((q.after start k).looked.length - 1) := by
  rw [after, length_times, Nat.add_sub_cancel]

/-! ## One look -/

/-- The failure with which a wait ends behind a look that finds the group busy, if it ends there. -/
def last? (q : Quiescence) (start k : Nat) : Option Failure :=
  if q.mostLooks ≤ k + 1 then some (.notQuiescent q.group q.timeoutMillis)
  else if Duration.horizon ≤ start + (k + 1) * q.intervalMillis then some .clockExceeded
  else none

section Looks

variable (hinterval : 0 < q.intervalMillis) (left : Nat)

/-- The looks from one of them on, as many as are left. -/
abbrev looksFrom (f : Forecast) (q : Quiescence) (start left k : Nat) : Outcome Nat × Vigil :=
  Program.run f.handler (look q start (start + q.timeoutMillis) left k).run (q.before start k)

/-- Describing the group is a look. -/
theorem run_describeGroup : Program.run f.handler (Action.describeGroup q.group).outcome.run
    (q.before start k) = (.ok (f.looks k), q.after start k) := by
  have hanswer : f.looks (q.before start k).looked.length = f.looks k :=
    congrArg f.looks length_times
  rw [Action.run_outcome, after, times_succ]
  exact congrArg (fun answer => (Except.ok answer, _)) hanswer

/-- A look that finds the group idle ends the wait. -/
theorem looksFrom_of_idle (hidle : isIdle (f.looks k) = true) :
    looksFrom f q start (left + 1) k = (.ok (k + 1), q.after start k) := by
  rw [looksFrom, look, Program.run_bind_of_ok run_describeGroup, if_pos hidle]
  rfl

/-- Behind a look that finds the group busy, the clock is read. -/
theorem looksFrom_of_busy (hbusy : isIdle (f.looks k) = false) :
    looksFrom f q start (left + 1) k =
      Program.run f.handler
        (if start + q.timeoutMillis ≤ start + q.lookTime k then
          throw (.notQuiescent q.group (start + q.lookTime k - start))
        else do
          let next ← Action.later (start + q.lookTime k) q.intervalMillis
          Action.sleep (min next (start + q.timeoutMillis) - (start + q.lookTime k))
          look q start (start + q.timeoutMillis) left (k + 1) : Action Nat).run
        (q.after start k) := by
  have hnow : Program.run f.handler Action.now.run (q.after start k) =
      (.ok (start + q.lookTime k), q.after start k) := rfl
  rw [looksFrom, look, Program.run_bind_of_ok run_describeGroup, if_neg (Bool.eq_false_iff.1 hbusy),
    Program.run_bind_of_ok hnow]

include hinterval

theorem up_iff : start + q.timeoutMillis ≤ start + q.lookTime k ↔ q.mostLooks ≤ k + 1 :=
  Nat.add_le_add_iff_left.trans (timeoutMillis_le_lookTime_iff hinterval)

/-- A look behind which the wait ends is the last one if it finds the group busy. -/
theorem looksFrom_of_last {e : Failure} (hbusy : isIdle (f.looks k) = false)
    (hlast : q.last? start k = some e) :
    looksFrom f q start (left + 1) k = (.error e, q.after start k) := by
  rw [looksFrom_of_busy left hbusy]
  unfold last? at hlast
  split at hlast
  · next hup =>
    cases hlast
    rw [if_pos ((up_iff hinterval).2 hup), Nat.add_sub_cancel_left, lookTime_of_le hinterval hup]
    rfl
  · next hup =>
    split at hlast
    · next hclock =>
      cases hlast
      rw [if_neg (mt (up_iff hinterval).1 hup), Action.later,
        lookTime_of_lt hinterval (Nat.not_le.1 hup), if_neg]
      · rfl
      · rw [Nat.add_assoc, ← Nat.succ_mul]
        exact Nat.not_lt.2 hclock
    · cases hlast

/-- Behind every other look that finds the group busy, the next one is awaited. -/
theorem looksFrom_of_next (hbusy : isIdle (f.looks k) = false) (hnext : q.last? start k = none) :
    looksFrom f q start (left + 1) k = looksFrom f q start left (k + 1) := by
  rw [looksFrom_of_busy left hbusy]
  unfold last? at hnext
  split at hnext
  · cases hnext
  · next hup =>
    split at hnext
    · cases hnext
    · next hclock =>
      have hk : q.lookTime k = k * q.intervalMillis :=
        lookTime_of_lt hinterval (Nat.not_le.1 hup)
      have hlater : Program.run f.handler
          (Action.later (start + q.lookTime k) q.intervalMillis).run (q.after start k) =
          (.ok (start + q.lookTime k + q.intervalMillis), q.after start k) := by
        rw [Action.later, if_pos]
        · rfl
        · rw [hk, Nat.add_assoc, ← Nat.succ_mul]
          exact Nat.not_le.1 hclock
      have hpause : min (start + q.lookTime k + q.intervalMillis) (start + q.timeoutMillis) -
          (start + q.lookTime k) = min q.intervalMillis (q.timeoutMillis - q.lookTime k) := by
        omega
      have hsleep : Program.run f.handler
          (Action.sleep (min q.intervalMillis (q.timeoutMillis - q.lookTime k))).run
          (q.after start k) = (.ok (), q.before start (k + 1)) := by
        rw [before, ← lookTime_succ, ← Nat.add_assoc]
        rfl
      rw [if_neg (mt (up_iff hinterval).1 hup), Program.run_bind_of_ok hlater, hpause]
      exact Program.run_bind_of_ok hsleep

end Looks

/-! ## How many looks there can be -/

/-- A wait can take some looks, and fails behind the last of them. -/
structure Limited (q : Quiescence) (start most : Nat) (last : Failure) : Prop where
  goesOn : ∀ k, k + 1 < most → q.last? start k = none
  ends : ∃ k, most = k + 1 ∧ q.last? start k = some last

/-- If the clock can show the end of the last interval, the wait fails when the time is up. -/
theorem limited_of_shown (h : start + q.reach < Duration.horizon) :
    Limited q start q.mostLooks (.notQuiescent q.group q.timeoutMillis) where
  goesOn k hk := by
    have hshown : (k + 1) * q.intervalMillis ≤ q.reach :=
      Nat.mul_le_mul_right _ (Nat.le_sub_one_of_lt hk)
    rw [last?, if_neg (Nat.not_le.2 hk), if_neg (by omega)]
  ends := ⟨_, rfl, if_pos (Nat.le_refl _)⟩

/-- If the clock can show the deadline but not the end of the last interval, the wait breaks off in
place of the last look. -/
theorem limited_of_unshown (hinterval : 0 < q.intervalMillis)
    (hdeadline : start + q.timeoutMillis < Duration.horizon)
    (h : Duration.horizon ≤ start + q.reach) :
    Limited q start (q.mostLooks - 1) .clockExceeded where
  goesOn k hk := by
    -- an interval that is not the last one is over before the deadline
    have hearly : (k + 1) * q.intervalMillis < q.timeoutMillis := by
      rw [Nat.mul_comm, ← Nat.not_le, ← ceilDiv_le_iff_le_mul hinterval]
      exact Nat.not_le.2 hk
    rw [last?, if_neg (by omega), if_neg (by omega)]
  ends := by
    have hpos : 0 < q.reach := by omega
    have hsome : 0 < q.mostLooks - 1 := Nat.pos_of_mul_pos_right hpos
    refine ⟨q.mostLooks - 1 - 1, by omega, ?_⟩
    have hlast : q.mostLooks - 1 - 1 + 1 = q.mostLooks - 1 := by omega
    rw [last?, hlast, if_neg (by omega)]
    exact if_pos h

theorem Busy.succ (h : Busy f k) (hlook : isIdle (f.looks k) = false) : Busy f (k + 1) :=
  Nat.forall_lt_succ_right.2 ⟨h, hlook⟩

/-- No look is the first one to find the group idle if the group is busy throughout. -/
theorem Busy.not_firstIdle {n m : Nat} (h : Busy f m) (hn : n ≤ m) : ¬ FirstIdle f n := by
  rintro ⟨k, rfl, _, hidle⟩
  exact Bool.false_ne_true ((h k hn).symm.trans hidle)

/-- Only one look is the first one to find the group idle. -/
theorem FirstIdle.unique {n m : Nat} (hn : FirstIdle f n) (hm : FirstIdle f m) : n = m := by
  obtain ⟨k, rfl, hbusy, hidle⟩ := hn
  obtain ⟨j, rfl, hbusy', hidle'⟩ := hm
  rcases Nat.lt_trichotomy k j with hlt | rfl | hlt
  · exact absurd ⟨k, rfl, hbusy, hidle⟩ (hbusy'.not_firstIdle hlt)
  · rfl
  · exact absurd ⟨j, rfl, hbusy', hidle'⟩ (hbusy.not_firstIdle hlt)

/-! ## Whole waits -/

section Waits

variable {most : Nat} {last : Failure}

/-- A wait that ends because a look finds the group idle. -/
theorem awaited_of_idle (hk : k < most) (h : FirstIdle f (k + 1)) :
    Awaited f q start most last (.ok (k + 1)) (q.after start k) where
  ok_iff n := by
    constructor
    · intro hn
      cases hn
      exact ⟨hk, h⟩
    · rintro ⟨_, hn⟩
      rw [h.unique hn]
  length n hn := by
    cases hn
    exact length_times
  fails hnone := absurd ⟨k + 1, hk, h⟩ hnone
  looked := looked_after
  clock := clock_after

/-- A wait that ends because no more looks can be taken. -/
theorem awaited_of_busy (h : Busy f (k + 1)) :
    Awaited f q start (k + 1) last (.error last) (q.after start k) where
  ok_iff n := by
    constructor
    · intro hn
      cases hn
    · rintro ⟨hle, hn⟩
      exact absurd hn (h.not_firstIdle hle)
  length n hn := by
    cases hn
  fails _ := ⟨rfl, length_times⟩
  looked := looked_after
  clock := clock_after

/-- The looks that are left end the wait, if there are enough of them. -/
theorem awaited_looksFrom (hinterval : 0 < q.intervalMillis) (hlimited : Limited q start most last)
    {left : Nat} (hk : k < most) (hleft : most ≤ k + left) (hbusy : Busy f k) :
    Awaited f q start most last (looksFrom f q start left k).1
      (looksFrom f q start left k).2 := by
  induction left generalizing k with
  | zero => exact absurd hleft (Nat.not_le.2 hk)
  | succ left ih =>
    cases hlook : isIdle (f.looks k) with
    | true =>
      rw [looksFrom_of_idle left hlook]
      exact awaited_of_idle hk ⟨k, rfl, hbusy, hlook⟩
    | false =>
      by_cases hmore : k + 1 < most
      · rw [looksFrom_of_next hinterval left hlook (hlimited.goesOn k hmore)]
        exact ih hmore (by omega) (hbusy.succ hlook)
      · obtain ⟨j, rfl, hlast⟩ := hlimited.ends
        obtain rfl : k = j := by omega
        rw [looksFrom_of_last hinterval left hlook hlast]
        exact awaited_of_busy (hbusy.succ hlook)

/-- A wait whose deadline the clock can show is made up of its looks. -/
theorem run_await (hdeadline : start + q.timeoutMillis < Duration.horizon) :
    Program.run f.handler q.await.run { clock := start } = looksFrom f q start pollLimit 0 := by
  have hnow : Program.run f.handler Action.now.run { clock := start } =
      (.ok start, { clock := start }) := rfl
  have hlater : Program.run f.handler (Action.later start q.timeoutMillis).run { clock := start } =
      (.ok (start + q.timeoutMillis), { clock := start }) := by
    rw [Action.later, if_pos hdeadline]
    rfl
  have hfirst : q.before start 0 = { clock := start } := by
    rw [before, lookTime_zero]
    rfl
  rw [await, Program.run_bind_of_ok hnow, Program.run_bind_of_ok hlater, looksFrom, hfirst]

/-- A wait whose deadline the clock can show ends as its limit says. -/
theorem awaited_of_limited (hinterval : 0 < q.intervalMillis)
    (hdeadline : start + q.timeoutMillis < Duration.horizon) (hmost : most < UInt32.size)
    (hlimited : Limited q start most last) :
    Awaited f q start most last (Program.run f.handler q.await.run { clock := start }).1
      (Program.run f.handler q.await.run { clock := start }).2 := by
  obtain ⟨k, rfl, _⟩ := hlimited.ends
  have henough : k + 1 ≤ 0 + pollLimit := by
    rw [Nat.zero_add]
    exact Nat.le_sub_one_of_lt hmost
  have hbusy : Busy f 0 := fun _ h => absurd h (Nat.not_lt_zero _)
  rw [run_await hdeadline]
  exact awaited_looksFrom hinterval hlimited (Nat.succ_pos k) henough hbusy

end Waits

/-- The time is up before the last interval is over, or just then. -/
theorem timeoutMillis_le_reach (hinterval : 0 < q.intervalMillis) :
    q.timeoutMillis ≤ q.reach := by
  rw [reach, Nat.mul_comm, ← ceilDiv_le_iff_le_mul hinterval]
  exact Nat.le_refl _

/-- Whatever the looks of a wait find, if they can be counted: it ends when they first find the group
idle, or else when its time is up; or else, if the clock cannot show the end of the last interval,
it breaks off in place of its last look. If the clock cannot show the deadline, it breaks off at
once. -/
theorem await_awaited (f : Forecast) (q : Quiescence) (start : Nat)
    (hinterval : 0 < q.intervalMillis) (hcount : q.mostLooks < UInt32.size) :
    let run := Program.run f.handler q.await.run { clock := start }
    (start + q.reach < Duration.horizon →
      Awaited f q start q.mostLooks (.notQuiescent q.group q.timeoutMillis) run.1 run.2) ∧
    (start + q.timeoutMillis < Duration.horizon → Duration.horizon ≤ start + q.reach →
      Awaited f q start (q.mostLooks - 1) .clockExceeded run.1 run.2) ∧
    (Duration.horizon ≤ start + q.timeoutMillis →
      run = (.error .clockExceeded, { clock := start })) := by
  intro run
  refine ⟨fun hshown => ?_, fun hdeadline hunshown => ?_, fun hdeadline => ?_⟩
  · have hreach : q.timeoutMillis ≤ q.reach := timeoutMillis_le_reach hinterval
    exact awaited_of_limited hinterval (by omega) hcount (limited_of_shown hshown)
  · have hmost : q.mostLooks - 1 < UInt32.size := Nat.lt_of_le_of_lt (Nat.sub_le _ _) hcount
    exact awaited_of_limited hinterval hdeadline hmost
      (limited_of_unshown hinterval hdeadline hunshown)
  · have hnow : Program.run f.handler Action.now.run { clock := start } =
        (.ok start, { clock := start }) := rfl
    show Program.run f.handler q.await.run { clock := start } = _
    rw [await, Program.run_bind_of_ok hnow, Action.later, if_neg (Nat.not_lt.2 hdeadline)]
    rfl

/-- Looks every 10 milliseconds, for 25 milliseconds. -/
def brief : Quiescence := ⟨"capabilities", 0, 10, 25⟩

/-- A group that cannot be described at first, and is idle from one of the looks on. -/
def idleFrom (n : Nat) : Forecast where
  looks k := if k = 0 then .error (.internal "no broker") else .ok ⟨if k < n then 2 else 0, false⟩

/-- The wait begins so long before the first time that the clock cannot show. -/
def lastMillis (millis : Nat) : Vigil := { clock := Duration.horizon - millis }

/-- The last of four looks is taken when the time is up: the group may be idle then, or not. The last
interval is over 30 milliseconds after the first look. If that is too late for the clock, there are
three looks, and if the deadline is too late as well, there is none. -/
theorem brief_awaited :
    let idle := Program.run (idleFrom 3).handler brief.await.run { clock := 5 }
    let busy := Program.run (idleFrom 4).handler brief.await.run { clock := 5 }
    let late := Program.run (idleFrom 3).handler brief.await.run (lastMillis 30)
    brief.mostLooks = 4 ∧ brief.reach = 30 ∧
    idle = (.ok 4, { clock := 30, looked := [30, 25, 15, 5] }) ∧
    busy = (.error (.notQuiescent "capabilities" 25), { clock := 30, looked := [30, 25, 15, 5] }) ∧
    (late.1 = .error .clockExceeded ∧ late.2.looked.length = 3) ∧
    Awaited (idleFrom 3) brief 5 4 (.notQuiescent "capabilities" 25) idle.1 idle.2 ∧
    Awaited (idleFrom 4) brief 5 4 (.notQuiescent "capabilities" 25) busy.1 busy.2 ∧
    Awaited (idleFrom 3) brief (Duration.horizon - 30) 3 .clockExceeded late.1 late.2 ∧
    Program.run ({} : Forecast).handler brief.await.run (lastMillis 25) =
      (.error .clockExceeded, lastMillis 25) := by
  have hcount : brief.mostLooks < UInt32.size := by decide +kernel
  have hwait := fun f start => await_awaited f brief start (by decide) hcount
  refine ⟨by decide +kernel, by decide +kernel, by decide +kernel, by decide +kernel,
    by decide +kernel, (hwait _ 5).1 (by decide +kernel), (hwait _ 5).1 (by decide +kernel),
    (hwait _ _).2.1 (by decide +kernel) (by decide +kernel), (hwait _ _).2.2 (by decide +kernel)⟩

/-- The longest wait that can be described. -/
def longest : Quiescence :=
  .ofConfig { pollIntervalMillis := UInt64.size - 1, timeoutSecs := UInt64.size - 1 }

/-- The group is idle and its looks can be counted, but the clock cannot show the deadline: the wait
breaks off and takes no look. -/
theorem longest_not_awaited :
    0 < longest.intervalMillis ∧ longest.mostLooks = 1001 ∧ FirstIdle {} 1 ∧
    Program.run ({} : Forecast).handler longest.await.run {} = (.error .clockExceeded, {}) := by
  have hfirst : FirstIdle {} 1 := ⟨0, rfl, fun _ h => absurd h (Nat.not_lt_zero _), rfl⟩
  exact ⟨by decide +kernel, by decide +kernel, hfirst, by decide +kernel⟩

end Fleet.Quiescence

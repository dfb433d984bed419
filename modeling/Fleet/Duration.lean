/-!
# Durations

Times are counted in whole milliseconds. A clock counts its seconds in 64 bits, one of them for the
sign, so there are times that it cannot show. A pause that a description asks for lasts thirty years
at most. A message names a duration in seconds, with as many decimals as it needs, and one below a
second in milliseconds: `600s`, `1.5s`, `25ms`. No time at all is `0ns`.
-/

namespace Fleet.Duration

/-- The first time that a clock cannot show. -/
def horizon : Nat := 1000 * (UInt64.size / 2)

/-- The longest pause: thirty years of 365 days. -/
def longestPause : Nat := 30 * 365 * 24 * 60 * 60 * 1000

/-- How long a pause lasts that is asked for. -/
def pause (millis : Nat) : Nat := min millis longestPause

/-- Three decimals without the zeros at their end. -/
def decimals (millis : Nat) : String :=
  if millis % 100 == 0 then toString (millis / 100)
  else if millis % 10 == 0 then
    (if millis < 100 then "0" else "") ++ toString (millis / 10)
  else
    (if millis < 10 then "00" else if millis < 100 then "0" else "") ++ toString millis

/-- A duration of whole milliseconds as messages name it. -/
def text (millis : Nat) : String :=
  let seconds := millis / 1000
  let rest := millis % 1000
  if millis == 0 then "0ns"
  else if seconds == 0 then toString rest ++ "ms"
  else if rest == 0 then toString seconds ++ "s"
  else toString seconds ++ "." ++ decimals rest ++ "s"

example : text 1500 = "1.5s" := by decide
example : text 1001 = "1.001s" := by decide
example : text 60050 = "60.05s" := by decide

end Fleet.Duration

import ResilientProxy.Binary64
import ResilientProxy.Duration

/-!
# Seconds in floating point

Backoff arithmetic counts seconds in floating point. A length of time becomes the rounded sum of
its rounded whole seconds and its rounded fraction; a number of seconds becomes the nearest whole
number of nanoseconds, if that is a length of time at all.
-/

namespace ResilientProxy.Duration

/-- The length in seconds, rounded three times: its whole seconds, its fraction, their sum. -/
def inSeconds (d : Duration) : Binary64 :=
  Binary64.ofNat d.seconds + Binary64.round ((d.subsecondNanos : Rat) / (nanosPerSecond : Rat))

/-- The length nearest to `s` seconds, ties to an even nanosecond. Refused for a negative number,
for one too long for a length of time, and for what is not a number. -/
def ofInSeconds? : Binary64 → Option Duration
  | .finite q => if q < 0 then none else ofNanos? (nearestEven (q * (nanosPerSecond : Rat))).toNat
  | _ => none

end ResilientProxy.Duration

import ResilientProxy.Duration.Seconds

/-!
# Exponential backoff with full jitter

The wait after the failed attempt with index `n` is a random share of `(2 ^ n - 1)` time slots: the
first retry follows at once, and later ones spread out exponentially. The arithmetic is in floating
point, so the ceiling of a wait is `2 ^ n - 1` time slots only up to rounding.
-/

namespace ResilientProxy

/-- The spacing of retries after a transient failure. -/
structure Backoff where
  timeSlot : Duration
  deriving DecidableEq, Repr

namespace Backoff

/-- The longest wait after the attempt with index `attempt`. A product too long for a length of
time is cut to the longest there is. -/
def ceiling (b : Backoff) (attempt : UInt32) : Duration :=
  if b.timeSlot.isZero then .zero
  else
    let slots := Binary64.twoToThe attempt.toNat - .finite 1
    (Duration.ofInSeconds? (b.timeSlot.inSeconds * slots)).getD .longest

/-- The wait after the attempt with index `attempt` for the jitter draw `draw`, of which only the
`share` between zero and one counts. -/
def delay (b : Backoff) (attempt : UInt32) (draw : Binary64) : Duration :=
  let ceiling := b.ceiling attempt
  (Duration.ofInSeconds? (ceiling.inSeconds * .finite draw.share)).getD ceiling

end Backoff

/-- A supply of jitter draws: those listed, and one half ever after. -/
abbrev Draws := List Binary64

namespace Draws

def next : Draws → Binary64 × Draws
  | [] => (.finite (1 / 2), [])
  | u :: us => (u, us)

end Draws

/-- The wait after the attempt with index `attempt` for the next draw. -/
def Backoff.jittered (b : Backoff) (attempt : UInt32) (draws : Draws) : Duration × Draws :=
  let (u, draws) := draws.next
  (b.delay attempt u, draws)

end ResilientProxy

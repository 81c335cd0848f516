import RequestLog.Calendar

/-!
# The clock

The clock shows the present instant and hands out readings of a stopwatch.  Readings are taken from
a queue; once it is empty the last reading is repeated.  The clock counts the readings taken.
-/

namespace RequestLog

/-- The present instant and the stopwatch. -/
structure Clock where
  /-- The present instant. -/
  now : Instant
  /-- Stopwatch readings still to come, in seconds. -/
  upcoming : List Float
  /-- The last reading taken, zero at first. -/
  last : Float
  /-- How many readings have been taken. -/
  readings : Nat

namespace Clock

/-- A clock whose stopwatch has not been read. -/
def start (now : Instant) : Clock :=
  ⟨now, [], 0, 0⟩

/-- Read the stopwatch. -/
def read (clock : Clock) : Float × Clock :=
  match clock.upcoming with
  | [] => (clock.last, { clock with readings := clock.readings + 1 })
  | reading :: rest =>
      (reading, { clock with upcoming := rest, last := reading, readings := clock.readings + 1 })

end Clock

/-- One look at the clock: a stopwatch reading and the instant. -/
structure Stamp where
  /-- Stopwatch reading in seconds. -/
  seconds : Float
  /-- The instant. -/
  instant : Instant

/-- Take a stamp. -/
def Clock.stamp (clock : Clock) : Stamp × Clock :=
  let (seconds, clock) := clock.read
  (⟨seconds, clock.now⟩, clock)

end RequestLog

/-
# Time zones

A zone is a sequence of periods, each with an offset from UTC and an
abbreviation; a period goes on until the next one begins, and the last for
ever. A clock in the zone shows, during a period, the local times from the
beginning to the end of the period moved by its offset. So a local time can be
shown never, once, or twice.

Key definitions: `Period`, `Zone`, `Zone.periodAt`, `Zone.instantsOf`, `Zone.resolve`.
-/
import PathTemplate.Time.Clock

namespace PathTemplate.Time

/-- What holds in a zone between two transitions. -/
structure Period where
  /-- The seconds that clocks are ahead of UTC. -/
  offset : Int
  /-- The abbreviation of the zone's time. -/
  abbreviation : String
deriving DecidableEq, Repr

/-- The beginning of a period, in seconds since 1970-01-01 00:00:00 UTC. -/
structure Transition where
  begins : Int
  period : Period
deriving DecidableEq, Repr

/-- A time zone. Its transitions stand in the order in which they happen. -/
structure Zone where
  name : String
  first : Period
  transitions : List Transition
deriving DecidableEq, Repr

namespace Zone

/-- Universal time. -/
def utc : Zone := ⟨"UTC", ⟨0, "UTC"⟩, []⟩

/-- The period in force at a second, where `p` holds before the transitions. -/
def periodFrom (seconds : Int) (p : Period) : List Transition → Period
  | [] => p
  | t :: ts => if seconds < t.begins then p else periodFrom seconds t.period ts

/-- The period in force at a second of UTC. -/
def periodAt (z : Zone) (seconds : Int) : Period := periodFrom seconds z.first z.transitions

/-- Whether a bound, if there is one, is at most a number. -/
def begun (bound : Option Int) (n : Int) : Bool := bound.all (· ≤ n)

/-- The periods during which a clock shows a local second, where `p` begins at `begins`. -/
def periodsFrom (seconds : Int) (begins : Option Int) (p : Period) : List Transition → List Period
  | [] => if begun begins (seconds - p.offset) then [p] else []
  | t :: ts =>
    (if begun begins (seconds - p.offset) && decide (seconds - p.offset < t.begins) then [p]
      else []) ++ periodsFrom seconds (some t.begins) t.period ts

/-- The periods during which a clock in the zone shows a local second, from the earliest. -/
def periodsShowing (z : Zone) (seconds : Int) : List Period :=
  periodsFrom seconds none z.first z.transitions

/-- The instants at which a clock in the zone shows a time, from the earliest; none if one of
them cannot be written. -/
def instantsOf (z : Zone) (l : LocalTime) : List Instant :=
  let is := (z.periodsShowing l.seconds).map fun p => l.toInstant p.offset
  if is.all fun i => decide (InRange i.seconds) then is else []

/-- The instant for a time that no clock in the zone shows: it is read with the offset in force
one day before, the day before being looked up as if it were UTC. -/
def resolveSkipped (z : Zone) (l : LocalTime) : Option Instant :=
  let before := l.seconds - secondsPerDay
  let (s, nanos) := elapsed l.seconds l.nanos (-(z.periodAt before).offset)
  if InRange before ∧ InRange s then some ⟨s, nanos⟩ else none

/-- The instant for a time in the zone: the earliest at which a clock shows it, or the one that
a skipped time stands for. -/
def resolve (z : Zone) (l : LocalTime) : Option Instant :=
  match z.instantsOf l with
  | i :: _ => some i
  | [] => z.resolveSkipped l

/-- The instant for a time that clocks in the zone show exactly once. -/
def single (z : Zone) (l : LocalTime) : Option Instant :=
  match z.instantsOf l with
  | [i] => some i
  | _ => none

end Zone

end PathTemplate.Time

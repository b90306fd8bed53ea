import CqlMapper.MappingError

/-! Write timestamps that strictly increase, whatever the wall clock does. -/

namespace CqlMapper

/-- Microseconds since the Unix epoch, at each time the clock is read. -/
structure WallClock where
  reading : Nat → Int64
  reads : Nat

namespace WallClock

/-- A clock that stands before the epoch gives no time. -/
def now (clock : WallClock) : Except MappingError Int64 :=
  let micros := clock.reading clock.reads
  if micros < 0 then .error (.invalidOperation "system clock before epoch") else .ok micros

def advance (clock : WallClock) : WallClock :=
  { clock with reads := clock.reads + 1 }

end WallClock

structure StampClock where
  last : Int64
  deriving DecidableEq

namespace StampClock

def new : StampClock := ⟨0⟩

/-- The wall-clock time, or one past the last timestamp when that is no later. -/
def next (clock : StampClock) (now : Int64) : Int64 :=
  if clock.last < now then now else clock.last + 1

def tick (clock : StampClock) (wall : WallClock) :
    Except MappingError Int64 × StampClock × WallClock :=
  match wall.now with
  | .ok now => (.ok (clock.next now), ⟨clock.next now⟩, wall.advance)
  | .error error => (.error error, clock, wall.advance)

/-- The timestamps given at so many ticks. -/
def ticks : Nat → StampClock → WallClock → List Int64
  | 0, _, _ => []
  | count + 1, clock, wall =>
    match clock.tick wall with
    | (.ok stamp, clock, wall) => stamp :: ticks count clock wall
    | (.error _, clock, wall) => ticks count clock wall

end StampClock

end CqlMapper

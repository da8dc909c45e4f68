/-
Identity/Time/Timestamp.lean

Instants and lengths of time, both exact to the nanosecond.

An instant is the signed number of nanoseconds since the beginning of 1970
in UTC.  Whole units are taken by rounding towards the past, so that an
instant always lies in the second it is said to lie in.
-/

namespace Identity

/-! ### Lengths of time -/

/-- A length of time. -/
structure Duration where
  nanos : Nat
  deriving DecidableEq, Repr, Inhabited

namespace Duration

/-- Nanoseconds in a second. -/
def nanosPerSecond : Nat := 1000000000

/-- Nanoseconds in a millisecond. -/
def nanosPerMilli : Nat := 1000000

/-- A number of whole seconds. -/
def ofSeconds (n : Nat) : Duration := ⟨n * nanosPerSecond⟩

/-- A number of whole milliseconds. -/
def ofMillis (n : Nat) : Duration := ⟨n * nanosPerMilli⟩

/-- The whole seconds of a length of time. -/
def seconds (d : Duration) : Nat := d.nanos / nanosPerSecond

/-- The shorter of two lengths of time. -/
def min (a b : Duration) : Duration := if a.nanos ≤ b.nanos then a else b

/-- A fraction of `scale`-ths without its trailing zeros, after a point;
nothing when it is zero. -/
def fractionText (fraction scale : Nat) : String :=
  if fraction = 0 then ""
  else
    let width := (toString scale).length - 1
    let ds := (toString fraction).toList
    let padded := List.replicate (width - ds.length) '0' ++ ds
    "." ++ String.ofList (padded.reverse.dropWhile (· == '0')).reverse

/-- A length of time in a unit of `scale` nanoseconds. -/
def inUnit (d : Duration) (scale : Nat) (unit : String) : String :=
  toString (d.nanos / scale) ++ fractionText (d.nanos % scale) scale ++ unit

/-- A length of time in the largest unit that it fills. -/
def toText (d : Duration) : String :=
  if nanosPerSecond ≤ d.nanos then d.inUnit nanosPerSecond "s"
  else if nanosPerMilli ≤ d.nanos then d.inUnit nanosPerMilli "ms"
  else if 1000 ≤ d.nanos then d.inUnit 1000 "µs"
  else d.inUnit 1 "ns"

end Duration

/-! ### Instants -/

/-- An instant: nanoseconds since the beginning of 1970 in UTC. -/
structure Timestamp where
  nanos : Int
  deriving DecidableEq, Repr, Inhabited

namespace Timestamp

/-- The beginning of 1970. -/
def epoch : Timestamp := ⟨0⟩

/-- The instant that many seconds after the epoch. -/
def ofSeconds (n : Int) : Timestamp := ⟨n * 1000000000⟩

/-- The instant that many milliseconds after the epoch. -/
def ofMillis (n : Int) : Timestamp := ⟨n * 1000000⟩

/-- The whole seconds since the epoch. -/
def seconds (t : Timestamp) : Int := t.nanos / 1000000000

/-- The whole milliseconds since the epoch. -/
def millis (t : Timestamp) : Int := t.nanos / 1000000

/-- The instant `d` later. -/
def add (t : Timestamp) (d : Duration) : Timestamp := ⟨t.nanos + d.nanos⟩

end Timestamp

end Identity

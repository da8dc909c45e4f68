/-
Identity/Check/Cache.lean

Decisions that are remembered for a while.

An entry is live before its deadline.  Entries whose deadline has passed are
never answered; they are dropped when they are looked up, purged or swept.
A look-up takes two steps, each of which sees the cache at one moment: `read`
finds the entry, and `dropStale` removes it later if it is then still stale
by the clock of the reading.
-/
import Identity.Error
import Identity.Time.Timestamp

namespace Identity.Check

/-- The longest time for which a decision is remembered. -/
def maxLifetime : Duration := .ofSeconds (365 * 24 * 60 * 60)

/-- A decision and the end of its life. -/
structure Decision where
  allowed : Bool
  deadline : Timestamp
  deriving DecidableEq, Repr

namespace Decision

/-- A decision made now that lives for `lifetime`, or for the longest time. -/
def lasting (allowed : Bool) (lifetime : Duration) (now : Timestamp) : Decision :=
  ⟨allowed, now.add (lifetime.min maxLifetime)⟩

/-- The decision may still be answered. -/
def isLive (decision : Decision) (now : Timestamp) : Bool :=
  decide (now.nanos < decision.deadline.nanos)

end Decision

/-- Decisions under their keys. -/
structure Cache where
  entries : List (String × Decision)
  deriving DecidableEq, Repr

namespace Cache

/-- The cache that remembers nothing. -/
def empty : Cache := ⟨[]⟩

/-- The number of entries, stale ones included. -/
def size (cache : Cache) : Nat := cache.entries.length

/-- The entry under a key. -/
def find? (cache : Cache) (key : String) : Option Decision := cache.entries.lookup key

/-- The cache without the entry under a key. -/
def erase (cache : Cache) (key : String) : Cache :=
  ⟨cache.entries.filter fun e => e.1 != key⟩

/-- Remembers a decision, unless it is to live for no time at all. -/
def set (cache : Cache) (key : String) (allowed : Bool) (lifetime : Duration) (now : Timestamp) :
    Cache :=
  if lifetime.nanos = 0 then cache
  else ⟨(key, .lasting allowed lifetime now) :: (cache.erase key).entries⟩

/-! ### Looking up -/

/-- What an entry answers. -/
def answer (now : Timestamp) : Option Decision → Option Bool
  | some decision => if decision.isLive now then some decision.allowed else none
  | none => none

/-- The first step of a look-up. -/
def read (cache : Cache) (key : String) (now : Timestamp) : Option Bool :=
  answer now (cache.find? key)

/-- The second step of a look-up: drops an entry that is stale. -/
def dropStale (cache : Cache) (key : String) (now : Timestamp) : Cache :=
  if (cache.find? key).any fun decision => !decision.isLive now then cache.erase key else cache

/-- A look-up whose two steps follow one another. -/
def get (cache : Cache) (key : String) (now : Timestamp) : Option Bool × Cache :=
  (cache.read key now, cache.dropStale key now)

/-! ### Dropping stale entries -/

/-- The number of stale entries, and the cache without them. -/
def purge (cache : Cache) (now : Timestamp) : Nat × Cache :=
  ((cache.entries.filter fun e => !e.2.isLive now).length,
    ⟨cache.entries.filter fun e => e.2.isLive now⟩)

/-- The shortest time between two sweeps. -/
def minInterval : Duration := .ofMillis 10

/-- How often a sweeper with the given interval sweeps while it runs: first
after one interval, then after each further one. -/
def sweepCount (interval run : Duration) : Nat :=
  run.nanos / max interval.nanos minInterval.nanos

/-- The cache after some sweeps, of which each reads the clock. -/
def sweep (cache : Cache) : (readings : List Timestamp) → Cache
  | [] => cache
  | now :: readings => (cache.purge now).2.sweep readings

end Cache

end Identity.Check

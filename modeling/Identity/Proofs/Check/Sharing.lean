/-
Identity/Proofs/Check/Sharing.lean

A cache that many tasks share.

An insertion and a purge happen at one moment each.  A look-up takes up to two
moments: it reads the clock and the entry, and if the entry is stale it comes
back to drop it, by the clock that it has read before.  In between anything may
happen to the cache, and the look-up may also never come back.

The events so far say what a reading has to answer: the last insertion under its
key that was to be remembered at all (`lastInsertion?`), while it lasts.  The
tasks can drop entries late, or not at all, but no interleaving of theirs loses
an entry that is live.

Main result: `step_exact`.
-/
import Identity.Proofs.Check.Cache

namespace Identity.Check.Cache

/-! ### Steps on a shared cache -/

/-- What happens to a shared cache.  A removal is the second step of a look-up
whose first one has read the clock as `reading`. -/
inductive Event where
  | insertion (key : String) (allowed : Bool) (lifetime : Duration) (now : Timestamp)
  | reading (key : String) (now : Timestamp) (answer : Option Bool)
  | removal (key : String) (reading now : Timestamp)
  | purge (now : Timestamp) (count : Nat)

/-- When an event happens. -/
def Event.moment : Event → Timestamp
  | insertion _ _ _ now | reading _ now _ | removal _ _ now | purge now _ => now

/-- A cache, the look-ups that have found a stale entry and still have to drop it
(each with its reading of the clock), and the time of the last event. -/
structure Shared where
  cache : Cache
  pending : List (String × Timestamp)
  clock : Timestamp

namespace Shared

/-- The look-up that a reading of a stale entry leaves behind. -/
def leftBehind (cache : Cache) (key : String) (now : Timestamp) : List (String × Timestamp) :=
  if (cache.find? key).any fun decision => !decision.isLive now then [(key, now)] else []

/-- One step of one of the tasks.  The clock never goes back. -/
inductive Step (s : Shared) : Event → Shared → Prop
  | insertion (key : String) (allowed : Bool) (lifetime : Duration) (now : Timestamp)
      (h : s.clock.nanos ≤ now.nanos) :
      Step s (.insertion key allowed lifetime now)
        ⟨s.cache.set key allowed lifetime now, s.pending, now⟩
  | reading (key : String) (now : Timestamp) (h : s.clock.nanos ≤ now.nanos) :
      Step s (.reading key now (s.cache.read key now))
        ⟨s.cache, leftBehind s.cache key now ++ s.pending, now⟩
  | removal (key : String) (reading now : Timestamp) (h : s.clock.nanos ≤ now.nanos)
      (hpending : (key, reading) ∈ s.pending) :
      Step s (.removal key reading now)
        ⟨s.cache.dropStale key reading, s.pending.erase (key, reading), now⟩
  | purge (now : Timestamp) (h : s.clock.nanos ≤ now.nanos) :
      Step s (.purge now (s.cache.purge now).1) ⟨(s.cache.purge now).2, s.pending, now⟩

/-- **Interleavings**: what has happened to a cache that was empty at first, the last
event first, and what has become of it. -/
inductive Run : List Event → Shared → Prop
  | start (clock : Timestamp) : Run [] ⟨.empty, [], clock⟩
  | step {events : List Event} {s after : Shared} {event : Event} (h : Run events s)
      (hstep : Step s event after) : Run (event :: events) after

/-! ### What has been inserted -/

/-- The insertion under a key that an event makes, if it is to be remembered at all. -/
def insertion? (key : String) : Event → Option Insertion
  | .insertion inserted allowed lifetime now =>
    if key = inserted ∧ lifetime.nanos ≠ 0 then some ⟨allowed, lifetime, now⟩ else none
  | _ => none

/-- The last insertion under a key. -/
def lastInsertion? (events : List Event) (key : String) : Option Insertion :=
  events.findSome? (insertion? key)

theorem lastInsertion?_cons (event : Event) (events : List Event) (key : String) :
    lastInsertion? (event :: events) key =
      (insertion? key event).or (lastInsertion? events key) := by
  unfold lastInsertion?
  rw [List.findSome?_cons]
  cases insertion? key event <;> rfl

/-! ### Steps and runs -/

variable {events : List Event} {s after : Shared} {event : Event}

/-- The cache remembers what has been inserted, and no look-up will drop entries
by a clock that is ahead. -/
structure Remembers (events : List Event) (s : Shared) : Prop where
  agrees : Agrees s.cache (lastInsertion? events) s.clock
  readings : ∀ p ∈ s.pending, p.2.nanos ≤ s.clock.nanos

theorem Step.clock_le (h : Step s event after) : s.clock.nanos ≤ after.clock.nanos := by
  cases h with
  | insertion _ _ _ _ h | reading _ _ h | removal _ _ _ h _ | purge _ h => exact h

/-- **One step** of one task. -/
theorem Remembers.step (h : Remembers events s) (hstep : Step s event after) :
    Remembers (event :: events) after := by
  have hclock := hstep.clock_le
  have hagrees := h.agrees.after hclock
  have hreadings : ∀ p ∈ s.pending, p.2.nanos ≤ after.clock.nanos := fun p hp =>
    Int.le_trans (h.readings p hp) hclock
  have hcons : lastInsertion? (event :: events) =
      fun key => (insertion? key event).or (lastInsertion? events key) :=
    funext (lastInsertion?_cons event events)
  cases hstep with
  | insertion key allowed lifetime now hnow =>
    refine ⟨?_, hreadings⟩
    convert hagrees.set key allowed lifetime using 2 with other
    rw [hcons]
    simp only [insertion?]
    split_ifs <;> rfl
  | reading key now hnow =>
    refine ⟨by simpa [hcons, insertion?] using hagrees, ?_⟩
    intro p hp
    rcases List.mem_append.mp hp with hp | hp
    · unfold leftBehind at hp
      split_ifs at hp
      · obtain rfl := List.mem_singleton.mp hp
        exact Int.le_refl _
      · cases hp
    · exact hreadings p hp
  | removal key reading now hnow hpending =>
    refine ⟨?_, fun p hp => hreadings p (List.mem_of_mem_erase hp)⟩
    simpa [hcons, insertion?] using hagrees.dropStale (hreadings _ hpending)
  | purge now hnow =>
    exact ⟨by simpa [hcons, insertion?] using hagrees.purge, hreadings⟩

/-- **Runs**: whatever the interleaving, the cache remembers what has been inserted. -/
theorem Run.remembers (h : Run events s) : Remembers events s := by
  induction h with
  | start clock => exact ⟨Agrees.empty clock, by simp⟩
  | step _ hstep ih => exact ih.step hstep

/-! ### What steps answer and drop -/

/-- The deadline of an entry is at or before a time. -/
def isOverdue (now : Timestamp) (entry : String × Decision) : Bool :=
  decide (entry.2.deadline.nanos ≤ now.nanos)

theorem isLive_eq_not_isOverdue (now : Timestamp) (entry : String × Decision) :
    entry.2.isLive now = !isOverdue now entry := by
  rw [Decision.isLive, isOverdue, ← decide_not, decide_eq_decide, Int.not_le]

/-- What a step on a shared cache answers and drops, told from the events before it. -/
structure StepExact (events : List Event) (s : Shared) (event : Event) (after : Shared) :
    Prop where
  answers : ∀ key now answer, event = .reading key now answer → ∀ allowed,
    answer = some allowed ↔ ∃ lifetime time,
      lastInsertion? events key = some ⟨allowed, lifetime, time⟩ ∧
        now.nanos < time.nanos + (min lifetime.nanos maxLifetime.nanos : Nat)
  keeps : (∀ key allowed lifetime now, event ≠ .insertion key allowed lifetime now) →
    ∀ entry ∈ s.cache.entries, isOverdue event.moment entry = false → entry ∈ after.cache.entries
  purges : ∀ now count, event = .purge now count →
    count = s.cache.entries.countP (isOverdue now) ∧
      after.cache.entries = s.cache.entries.filter fun entry => !isOverdue now entry

/-- **Sharing a cache is safe**: in each interleaving of insertions, purges and the
two steps of look-ups, a reading answers the last insertion under its key exactly
while that lasts, no entry is dropped that is live at that moment, and a purge
counts and drops exactly the entries that are overdue. -/
theorem step_exact (h : Run events s) (hstep : Step s event after) :
    StepExact events s event after := by
  have hremembers := h.remembers
  constructor
  · rintro key now answer rfl allowed
    cases hstep with
    | reading _ _ hnow =>
      have hagrees : Agrees s.cache (lastInsertion? events) now := hremembers.agrees.after hnow
      rw [hagrees.read_eq_some]
      constructor
      · rintro ⟨insertion, hlast, rfl, hlasts⟩
        exact ⟨insertion.lifetime, insertion.time, hlast, hlasts⟩
      · rintro ⟨lifetime, time, hlast, hlasts⟩
        exact ⟨_, hlast, rfl, hlasts⟩
  · intro hother entry hentry hdue
    have hlive : entry.2.isLive event.moment = true := by
      rw [isLive_eq_not_isOverdue, hdue]
      rfl
    cases hstep with
    | insertion key allowed lifetime now => exact absurd rfl (hother key allowed lifetime now)
    | reading => exact hentry
    | removal key reading now hnow hpending =>
      -- the reading is not ahead, so what is stale by it is stale by now
      have hreading : reading.nanos ≤ now.nanos :=
        Int.le_trans (hremembers.readings _ hpending) hnow
      have hdistinct := hremembers.agrees.distinct
      have hfound := hdistinct.find?_eq_some.mpr hentry
      exact hdistinct.dropStale.find?_eq_some.mp (find?_dropStale_of_isLive hfound hreading hlive)
    | purge now => exact List.mem_filter.mpr ⟨hentry, hlive⟩
  · rintro now count rfl
    cases hstep with
    | purge _ _ =>
      constructor
      · rw [List.countP_eq_length_filter, Cache.purge]
        simp only [isLive_eq_not_isOverdue, Bool.not_not]
      · simp only [Cache.purge, isLive_eq_not_isOverdue]

/-- A look-up finds a stale entry, which is refreshed before the look-up comes back
to drop it; the fresh entry stays and is answered. -/
theorem step_exact_refreshed :
    ∃ events s after, Run events s ∧ s.pending = [] ∧
      Step s (.reading "k" (.ofMillis 31) (some false)) after ∧
      StepExact events s (.reading "k" (.ofMillis 31) (some false)) after := by
  have inserted := (Run.start .epoch).step
    (.insertion "k" true (.ofMillis 10) .epoch (by decide))
  have found := inserted.step (.reading "k" (.ofMillis 20) (by decide))
  have refreshed := found.step
    (.insertion "k" false (.ofMillis 10) (.ofMillis 25) (by decide))
  have dropped := refreshed.step
    (.removal "k" (.ofMillis 20) (.ofMillis 30) (by decide) (by decide))
  exact ⟨_, _, _, dropped, by decide, .reading "k" (.ofMillis 31) (by decide),
    step_exact dropped (.reading "k" (.ofMillis 31) (by decide))⟩

end Shared

end Identity.Check.Cache

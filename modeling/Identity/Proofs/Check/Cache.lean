/-
Identity/Proofs/Check/Cache.lean

What the operations of a cache do to single entries.

`find?` is the view of a cache; one lemma for each operation says what it
answers afterwards.  The second part compares a cache with what it was meant
to remember: `Agrees cache last clock` says that every entry is the last
insertion under its key, and that the last insertion under a key is an entry as
long as it lives.  Entries that are dropped too early or kept under a wrong key
would break it; entries that are dropped late do not matter.
-/
import Identity.Check.Cache
import Mathlib.Data.List.Nodup
import Mathlib.Tactic.Common

namespace Identity.Check

variable {now later clock : Timestamp} {key other : String} {decision : Decision}

/-! ### Lives of decisions -/

theorem Decision.isLive_eq_true :
    decision.isLive now = true ↔ now.nanos < decision.deadline.nanos := by
  simp [isLive]

/-- What lives later lives before. -/
theorem Decision.isLive_earlier (h : now.nanos ≤ later.nanos)
    (hlive : decision.isLive later = true) : decision.isLive now = true := by
  rw [isLive_eq_true] at hlive ⊢
  omega

theorem Duration.nanos_min (a b : Duration) : (a.min b).nanos = min a.nanos b.nanos := by
  unfold Duration.min
  split_ifs <;> omega

/-- A decision lives until its lifetime, or the longest one, is over. -/
theorem Decision.isLive_lasting {allowed : Bool} {lifetime : Duration} {time : Timestamp} :
    (lasting allowed lifetime time).isLive now = true ↔
      now.nanos < time.nanos + (min lifetime.nanos maxLifetime.nanos : Nat) := by
  rw [isLive_eq_true, lasting, Timestamp.add, Duration.nanos_min]

namespace Cache

variable {cache : Cache}

/-! ### Single entries -/

@[simp] theorem find?_empty : empty.find? key = none := rfl

/-- The keys of the entries differ from one another. -/
def Distinct (cache : Cache) : Prop := (cache.entries.map Prod.fst).Nodup

theorem distinct_empty : empty.Distinct := List.nodup_nil

theorem find?_erase :
    (cache.erase key).find? other = if other = key then none else cache.find? other := by
  unfold find? erase
  induction cache.entries with
  | nil => simp
  | cons e entries ih =>
    rw [List.filter_cons, List.lookup_cons]
    by_cases he : e.1 = key
    · rw [if_neg (by simp [he]), ih]
      split_ifs with hother
      · rfl
      · rw [he, beq_false_of_ne hother]
    · rw [if_pos (by simp [he]), List.lookup_cons, ih]
      split_ifs with hother
      · rw [hother, beq_false_of_ne (Ne.symm he)]
      · rfl

theorem Distinct.filter (h : cache.Distinct) (p : String × Decision → Bool) :
    Distinct ⟨cache.entries.filter p⟩ :=
  (List.filter_sublist.map Prod.fst).nodup h

theorem Distinct.erase (h : cache.Distinct) : (cache.erase key).Distinct := h.filter _

/-- Among entries with different keys, a look-up finds all of them. -/
theorem lookup_eq_some_iff {entries : List (String × Decision)}
    (h : (entries.map Prod.fst).Nodup) :
    entries.lookup key = some decision ↔ (key, decision) ∈ entries := by
  induction entries with
  | nil => simp
  | cons e entries ih =>
    obtain ⟨first, found⟩ := e
    rw [List.map_cons, List.nodup_cons] at h
    rw [List.lookup_cons, List.mem_cons]
    by_cases hkey : key = first
    · have hnot : (key, decision) ∉ entries := fun hmem =>
        h.1 (List.mem_map.mpr ⟨_, hmem, hkey⟩)
      rw [hkey, beq_self_eq_true]
      simp [← hkey, hnot, eq_comm]
    · rw [beq_false_of_ne hkey]
      simp [hkey, ih h.2]

theorem Distinct.find?_eq_some (h : cache.Distinct) :
    cache.find? key = some decision ↔ (key, decision) ∈ cache.entries :=
  lookup_eq_some_iff h

/-! ### Operations -/

/-- Setting makes an entry, unless it is to live for no time. -/
theorem find?_set {allowed : Bool} {lifetime : Duration} :
    (cache.set key allowed lifetime now).find? other =
      if other = key ∧ lifetime.nanos ≠ 0 then some (.lasting allowed lifetime now)
      else cache.find? other := by
  unfold set
  by_cases hlifetime : lifetime.nanos = 0
  · rw [if_pos hlifetime, if_neg (by simp [hlifetime])]
  · rw [if_neg hlifetime]
    show List.lookup other (_ :: _) = _
    rw [List.lookup_cons]
    by_cases hother : other = key
    · rw [hother, beq_self_eq_true, if_pos ⟨rfl, hlifetime⟩]
    · rw [beq_false_of_ne hother, if_neg fun h => hother h.1]
      exact find?_erase.trans (if_neg hother)

theorem Distinct.set {allowed : Bool} {lifetime : Duration} (h : cache.Distinct) :
    (cache.set key allowed lifetime now).Distinct := by
  unfold Cache.set
  split_ifs
  · exact h
  · have hnew : key ∉ (cache.erase key).entries.map Prod.fst := by
      simp [Cache.erase]
    exact List.nodup_cons.mpr ⟨hnew, h.erase⟩

/-- Dropping leaves everything but a stale entry under its key. -/
theorem find?_dropStale :
    (cache.dropStale key now).find? other =
      if other = key then (cache.find? key).filter (·.isLive now) else cache.find? other := by
  unfold dropStale
  cases hfound : cache.find? key with
  | none =>
    rw [if_neg (by simp)]
    split_ifs with hother
    · rw [hother, hfound]
      rfl
    · rfl
  | some decision =>
    cases hlive : decision.isLive now with
    | true =>
      rw [if_neg (by simp [hlive])]
      split_ifs with hother
      · rw [hother, hfound, Option.filter_some, if_pos hlive]
      · rfl
    | false =>
      rw [if_pos (by simp [hlive]), find?_erase]
      split_ifs
      · rw [Option.filter_some, if_neg (by simp [hlive])]
      · rfl

/-- Dropping makes no entry. -/
theorem find?_of_dropStale (h : (cache.dropStale key now).find? other = some decision) :
    cache.find? other = some decision := by
  rw [find?_dropStale] at h
  split_ifs at h with hother
  · rw [hother]
    exact (Option.filter_eq_some_iff.mp h).1
  · exact h

/-- What is read stands in an entry. -/
theorem exists_find?_of_read {allowed : Bool} (h : cache.read key now = some allowed) :
    ∃ decision, cache.find? key = some decision ∧ decision.allowed = allowed := by
  unfold read at h
  cases hfound : cache.find? key with
  | none =>
    rw [hfound] at h
    cases h
  | some decision =>
    rw [hfound, answer] at h
    split_ifs at h
    exact ⟨decision, rfl, Option.some.inj h⟩

/-- What could not be read is dropped. -/
theorem find?_dropStale_of_read (h : cache.read key now = none) :
    (cache.dropStale key now).find? key = none := by
  rw [find?_dropStale, if_pos rfl]
  unfold read at h
  cases hfound : cache.find? key with
  | none => rfl
  | some decision =>
    rw [hfound] at h
    rw [Option.filter_some, if_neg]
    intro hlive
    rw [answer, if_pos hlive] at h
    cases h

/-- Dropping leaves what is live at a time that is not before the reading. -/
theorem find?_dropStale_of_isLive (hfound : cache.find? other = some decision)
    (hlater : now.nanos ≤ later.nanos) (hlive : decision.isLive later = true) :
    (cache.dropStale key now).find? other = some decision := by
  rw [find?_dropStale]
  split_ifs with hother
  · rw [← hother, hfound]
    exact Option.filter_eq_some_iff.mpr ⟨rfl, Decision.isLive_earlier hlater hlive⟩
  · exact hfound

theorem Distinct.dropStale (h : cache.Distinct) : (cache.dropStale key now).Distinct := by
  unfold Cache.dropStale
  split_ifs
  · exact h.erase
  · exact h

theorem Distinct.purge (h : cache.Distinct) : (cache.purge now).2.Distinct := h.filter _

theorem Distinct.find?_purge (h : cache.Distinct) :
    (cache.purge now).2.find? key = (cache.find? key).filter (·.isLive now) := by
  ext decision
  rw [h.purge.find?_eq_some, Option.filter_eq_some_iff, h.find?_eq_some]
  simp [Cache.purge]

/-! ### What a cache is meant to remember -/

/-- An insertion into a cache: what is to be remembered, for how long, since when. -/
structure Insertion where
  allowed : Bool
  lifetime : Duration
  time : Timestamp

/-- The entry that an insertion makes. -/
def Insertion.entry (insertion : Insertion) : Decision :=
  .lasting insertion.allowed insertion.lifetime insertion.time

/-- An insertion is still to be answered: its lifetime, or the longest one, is not over. -/
def Insertion.Lasts (insertion : Insertion) (now : Timestamp) : Prop :=
  now.nanos < insertion.time.nanos + (min insertion.lifetime.nanos maxLifetime.nanos : Nat)

theorem Insertion.isLive_entry {insertion : Insertion} :
    insertion.entry.isLive now = true ↔ insertion.Lasts now :=
  Decision.isLive_lasting

/-- The cache, at the time of `clock`, remembers the last insertion under each key
for as long as it lasts, and nothing else that could be answered. -/
structure Agrees (cache : Cache) (last : String → Option Insertion) (clock : Timestamp) :
    Prop where
  distinct : cache.Distinct
  stored : ∀ key decision, cache.find? key = some decision →
    ∃ insertion, last key = some insertion ∧ insertion.entry = decision
  kept : ∀ key insertion, last key = some insertion → insertion.Lasts clock →
    cache.find? key = some insertion.entry

namespace Agrees

variable {last : String → Option Insertion}

theorem empty (clock : Timestamp) : Agrees .empty (fun _ => none) clock :=
  ⟨distinct_empty, by simp, by simp⟩

theorem after (h : Agrees cache last clock) (hlater : clock.nanos ≤ later.nanos) :
    Agrees cache last later := by
  refine ⟨h.distinct, h.stored, fun key insertion hlast hlasts => ?_⟩
  refine h.kept key insertion hlast ?_
  unfold Insertion.Lasts at hlasts ⊢
  omega

/-- A reading answers the last insertion, exactly while it lasts. -/
theorem read_eq_some (h : Agrees cache last clock) {allowed : Bool} :
    cache.read key clock = some allowed ↔
      ∃ insertion, last key = some insertion ∧ insertion.allowed = allowed ∧
        insertion.Lasts clock := by
  unfold Cache.read answer
  constructor
  · intro hread
    cases hfound : cache.find? key with
    | none =>
      rw [hfound] at hread
      cases hread
    | some decision =>
      obtain ⟨insertion, hlast, rfl⟩ := h.stored key decision hfound
      simp only [hfound] at hread
      split_ifs at hread with hlive
      exact ⟨insertion, hlast, Option.some.inj hread, Insertion.isLive_entry.mp hlive⟩
  · rintro ⟨insertion, hlast, rfl, hlasts⟩
    rw [h.kept key insertion hlast hlasts]
    exact if_pos (Insertion.isLive_entry.mpr hlasts)

/-- The entries may be thinned out, as long as the live ones stay. -/
theorem thin {thinned : Cache} (h : Agrees cache last clock) (hdistinct : thinned.Distinct)
    (hfrom : ∀ key decision, thinned.find? key = some decision → cache.find? key = some decision)
    (hlive : ∀ key decision, cache.find? key = some decision → decision.isLive clock = true →
      thinned.find? key = some decision) : Agrees thinned last clock where
  distinct := hdistinct
  stored key decision hfound := h.stored key decision (hfrom key decision hfound)
  kept key insertion hlast hlasts :=
    hlive key _ (h.kept key insertion hlast hlasts) (Insertion.isLive_entry.mpr hlasts)

/-- Dropping by the clock of an earlier reading. -/
theorem dropStale {reading : Timestamp} (h : Agrees cache last clock)
    (hreading : reading.nanos ≤ clock.nanos) : Agrees (cache.dropStale key reading) last clock :=
  h.thin h.distinct.dropStale (fun _ _ hfound => find?_of_dropStale hfound)
    fun _ _ hfound hlive => find?_dropStale_of_isLive hfound hreading hlive

theorem purge (h : Agrees cache last clock) : Agrees (cache.purge clock).2 last clock := by
  refine h.thin h.distinct.purge ?_ ?_
  · intro key decision hfound
    rw [h.distinct.find?_purge] at hfound
    exact (Option.filter_eq_some_iff.mp hfound).1
  · intro key decision hfound hlive
    rw [h.distinct.find?_purge, hfound]
    exact Option.filter_eq_some_iff.mpr ⟨rfl, hlive⟩

/-- An insertion takes the place of the last one, unless it is to last for no time. -/
theorem set (h : Agrees cache last clock) (key : String) (allowed : Bool) (lifetime : Duration) :
    Agrees (cache.set key allowed lifetime clock)
      (fun other => if other = key ∧ lifetime.nanos ≠ 0 then some ⟨allowed, lifetime, clock⟩
        else last other) clock where
  distinct := h.distinct.set
  stored other decision hfound := by
    rw [find?_set] at hfound
    split_ifs at hfound ⊢
    · exact ⟨_, rfl, Option.some.inj hfound⟩
    · exact h.stored other decision hfound
  kept other insertion hlast hlasts := by
    rw [find?_set]
    split_ifs at hlast ⊢
    · rw [← Option.some.inj hlast]
      rfl
    · exact h.kept other insertion hlast hlasts

end Agrees

end Cache

end Identity.Check

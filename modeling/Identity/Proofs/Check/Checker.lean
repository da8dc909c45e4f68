/-
Identity/Proofs/Check/Checker.lean

What a checker answers, told from what the remote service has answered.

A run is a list of checks, one after the other, over a cache that was empty at
first.  The service may answer anew each time, and the clock never goes back.
A check is answered by the service, or by the last answer that the service gave
to the very same request, as long as that lasts (`LiveAnswer`); so no answer
reaches another request, and none is served when it is stale.

The cache knows requests by their keys.  Its invariant is therefore about keys
(`Cache.Agrees`), and requests come in because those that are sent are always
separable.

Main result: `consult_exact`.
-/
import Identity.Proofs.Check.Cache
import Identity.Proofs.Check.Key

namespace Identity.Check

/-! ### One check -/

variable {lifetime : Duration} {cache : Cache} {request : Request} {encounter : Encounter}

theorem consult_of_not_separable (h : ¬ request.Separable) :
    consult lifetime cache request encounter =
      ⟨.error (.invalidPermission "principal and resource must not contain ':'"), none, cache⟩ :=
  if_pos (Bool.not_eq_false _ ▸ mt Request.isAmbiguous_eq_false.mp h)

theorem consult_of_read {allowed : Bool} (h : request.Separable)
    (hread : cache.read request.key encounter.readAt = some allowed) :
    consult lifetime cache request encounter =
      ⟨.ok allowed, none, cache.dropStale request.key encounter.readAt⟩ := by
  simp [consult, Request.isAmbiguous_eq_false.mpr h, DecisionCache.get, hread]

theorem consult_of_error {e : Error} (h : request.Separable)
    (hread : cache.read request.key encounter.readAt = none)
    (hservice : encounter.service request = .error e) :
    consult lifetime cache request encounter =
      ⟨.error e, some request, cache.dropStale request.key encounter.readAt⟩ := by
  simp [consult, Request.isAmbiguous_eq_false.mpr h, DecisionCache.get, hread, hservice]

theorem consult_of_ok {allowed : Bool} (h : request.Separable)
    (hread : cache.read request.key encounter.readAt = none)
    (hservice : encounter.service request = .ok allowed) :
    consult lifetime cache request encounter =
      ⟨.ok allowed, some request,
        (cache.dropStale request.key encounter.readAt).set request.key allowed lifetime
          encounter.storedAt⟩ := by
  simp [consult, Request.isAmbiguous_eq_false.mpr h, DecisionCache.get, DecisionCache.set, hread,
    hservice, Except.map]

/-- **What a check does**: it is refused, it recalls what the cache remembers, or it asks the
service, which fails or answers. -/
inductive Consulted (lifetime : Duration) (cache : Cache) (request : Request)
    (encounter : Encounter) : Verdict Cache → Prop
  | refused (h : ¬ request.Separable) : Consulted lifetime cache request encounter
      ⟨.error (.invalidPermission "principal and resource must not contain ':'"), none, cache⟩
  | recalled {allowed : Bool} (h : request.Separable)
      (hread : cache.read request.key encounter.readAt = some allowed) :
      Consulted lifetime cache request encounter
        ⟨.ok allowed, none, cache.dropStale request.key encounter.readAt⟩
  | failed {e : Error} (h : request.Separable)
      (hread : cache.read request.key encounter.readAt = none)
      (hservice : encounter.service request = .error e) :
      Consulted lifetime cache request encounter
        ⟨.error e, some request, cache.dropStale request.key encounter.readAt⟩
  | answered {allowed : Bool} (h : request.Separable)
      (hread : cache.read request.key encounter.readAt = none)
      (hservice : encounter.service request = .ok allowed) :
      Consulted lifetime cache request encounter
        ⟨.ok allowed, some request,
          (cache.dropStale request.key encounter.readAt).set request.key allowed lifetime
            encounter.storedAt⟩

theorem consulted (lifetime : Duration) (cache : Cache) (request : Request)
    (encounter : Encounter) : Consulted lifetime cache request encounter
      (consult lifetime cache request encounter) := by
  by_cases hrequest : request.Separable
  · cases hread : cache.read request.key encounter.readAt with
    | some allowed =>
      rw [consult_of_read hrequest hread]
      exact .recalled hrequest hread
    | none =>
      cases hservice : encounter.service request with
      | error e =>
        rw [consult_of_error hrequest hread hservice]
        exact .failed hrequest hread hservice
      | ok allowed =>
        rw [consult_of_ok hrequest hread hservice]
        exact .answered hrequest hread hservice
  · rw [consult_of_not_separable hrequest]
    exact .refused hrequest

namespace Consulted

variable {verdict : Verdict Cache} {allowed : Bool}

/-- The service is sent nothing but the request, and what it answers is passed on. -/
theorem relays (h : Consulted lifetime cache request encounter verdict) {sent : Request}
    (hsent : verdict.sent = some sent) :
    sent = request ∧ verdict.outcome = encounter.service request := by
  cases h with
  | refused | recalled => cases hsent
  | failed _ _ hservice | answered _ _ hservice =>
    cases hsent
    exact ⟨rfl, hservice.symm⟩

/-- An answer for which the service was not asked stands in the cache. -/
theorem recalls (h : Consulted lifetime cache request encounter verdict)
    (hsent : verdict.sent = none) (hok : verdict.outcome = .ok allowed) :
    request.Separable ∧ cache.read request.key encounter.readAt = some allowed := by
  cases h with
  | refused => cases hok
  | recalled hrequest hread =>
    cases hok
    exact ⟨hrequest, hread⟩
  | failed | answered => cases hsent

/-- The service is asked when the cache does not know. -/
theorem asks (h : Consulted lifetime cache request encounter verdict)
    (hrequest : request.Separable)
    (hread : cache.read request.key encounter.readAt = none) : verdict.sent = some request := by
  cases h with
  | refused hnot => exact absurd hrequest hnot
  | recalled _ hknown => cases hread.symm.trans hknown
  | failed | answered => rfl

/-- A check that fails makes no entry. -/
theorem forgets (h : Consulted lifetime cache request encounter verdict)
    (hfails : ∀ allowed, verdict.outcome ≠ .ok allowed) {key : String} {decision : Decision}
    (hfound : verdict.cache.find? key = some decision) : cache.find? key = some decision := by
  cases h with
  | refused => exact hfound
  | failed => exact Cache.find?_of_dropStale hfound
  | recalled | answered => exact absurd rfl (hfails _)

end Consulted

/-! ### Runs -/

/-- A check that has been made: what was asked and met, how it ended, and the request
that the service was sent. -/
structure Visit where
  request : Request
  encounter : Encounter
  outcome : Outcome Bool
  sent : Option Request

/-- The visit that a check becomes. -/
def Visit.ofVerdict (request : Request) (encounter : Encounter) (verdict : Verdict Cache) :
    Visit :=
  ⟨request, encounter, verdict.outcome, verdict.sent⟩

/-- **Runs of a checker** that remembers answers for a lifetime: the checks so far, the
last one first, the cache, and the time of the last reading of the clock. -/
inductive Run (lifetime : Duration) : List Visit → Cache → Timestamp → Prop
  | start (clock : Timestamp) : Run lifetime [] .empty clock
  | check {visits : List Visit} {cache : Cache} {clock : Timestamp} (request : Request)
      (encounter : Encounter) (h : Run lifetime visits cache clock)
      (hread : clock.nanos ≤ encounter.readAt.nanos)
      (hstored : encounter.readAt.nanos ≤ encounter.storedAt.nanos) :
      Run lifetime
        (.ofVerdict request encounter (consult lifetime cache request encounter) :: visits)
        (consult lifetime cache request encounter).cache encounter.storedAt

/-! ### Answers of the service -/

/-- An answer of the service, and when it was stored. -/
structure Answer where
  allowed : Bool
  storedAt : Timestamp

/-- The answer to a request that the service gave in a visit. -/
def Visit.answer? (request : Request) (visit : Visit) : Option Answer :=
  if visit.sent = some request then
    match visit.encounter.service request with
    | .ok allowed => some ⟨allowed, visit.encounter.storedAt⟩
    | .error _ => none
  else none

/-- The most recent answer of the service to a request. -/
def lastAnswer? (visits : List Visit) (request : Request) : Option Answer :=
  visits.findSome? (Visit.answer? request)

/-- The most recent answer of the service to a request, while it lasts. -/
def LiveAnswer (lifetime : Duration) (visits : List Visit) (request : Request)
    (now : Timestamp) (allowed : Bool) : Prop :=
  ∃ storedAt, lastAnswer? visits request = some ⟨allowed, storedAt⟩ ∧
    now.nanos < storedAt.nanos + (min lifetime.nanos maxLifetime.nanos : Nat)

/-! ### Answers in the cache -/

open Cache (Agrees Insertion)

/-- The insertion under a key that a visit makes. -/
def Visit.insertion? (lifetime : Duration) (key : String) (visit : Visit) : Option Insertion :=
  match visit.sent with
  | none => none
  | some request =>
    if key = request.key ∧ lifetime.nanos ≠ 0 then
      (visit.answer? request).map fun answer => ⟨answer.allowed, lifetime, answer.storedAt⟩
    else none

/-- The last insertion under a key. -/
def lastInsertion? (lifetime : Duration) (visits : List Visit) (key : String) :
    Option Insertion :=
  visits.findSome? (Visit.insertion? lifetime key)

theorem lastInsertion?_cons (visit : Visit) (visits : List Visit) (key : String) :
    lastInsertion? lifetime (visit :: visits) key =
      (visit.insertion? lifetime key).or (lastInsertion? lifetime visits key) := by
  unfold lastInsertion?
  rw [List.findSome?_cons]
  cases visit.insertion? lifetime key <;> rfl

/-- A visit whose request did not reach the service, or got no answer, inserts nothing. -/
theorem lastInsertion?_cons_of_none {visit : Visit} {visits : List Visit}
    (h : ∀ key, visit.insertion? lifetime key = none) :
    lastInsertion? lifetime (visit :: visits) = lastInsertion? lifetime visits := by
  funext key
  rw [lastInsertion?_cons, h, Option.none_or]

/-- A visit with an answer inserts it under the key of its request. -/
theorem lastInsertion?_cons_of_ok {visit : Visit} {visits : List Visit} {allowed : Bool}
    (hsent : visit.sent = some request)
    (hservice : visit.encounter.service request = .ok allowed) :
    lastInsertion? lifetime (visit :: visits) = fun key =>
      if key = request.key ∧ lifetime.nanos ≠ 0 then
        some ⟨allowed, lifetime, visit.encounter.storedAt⟩
      else lastInsertion? lifetime visits key := by
  funext key
  rw [lastInsertion?_cons]
  simp only [Visit.insertion?, hsent, Visit.answer?, hservice, if_true]
  split_ifs <;> rfl

variable {visits : List Visit} {clock : Timestamp}

/-- The cache remembers the answers of the service, which has been sent only separable
requests and has answered in the past. -/
structure Remembers (lifetime : Duration) (visits : List Visit) (cache : Cache)
    (clock : Timestamp) : Prop where
  agrees : Agrees cache (lastInsertion? lifetime visits) clock
  sent : ∀ visit ∈ visits, ∀ request ∈ visit.sent, request.Separable
  past : ∀ visit ∈ visits, visit.encounter.storedAt.nanos ≤ clock.nanos

/-- Under the key of a separable request, only answers to it are inserted. -/
theorem Visit.insertion?_key {visit : Visit} (hrequest : request.Separable)
    (hlifetime : lifetime.nanos ≠ 0)
    (hsent : ∀ request ∈ visit.sent, request.Separable) :
    visit.insertion? lifetime request.key =
      (visit.answer? request).map fun answer =>
        ⟨answer.allowed, lifetime, answer.storedAt⟩ := by
  unfold Visit.insertion?
  cases hs : visit.sent with
  | none => simp [Visit.answer?, hs]
  | some other =>
    by_cases hother : other = request
    · rw [hother]
      exact if_pos ⟨rfl, hlifetime⟩
    · have hkey : request.key ≠ other.key := fun h =>
        hother (Request.eq_of_key_eq (hsent other hs) hrequest h.symm)
      simp [Visit.answer?, hs, hkey, hother]

theorem lastInsertion?_key (hrequest : request.Separable)
    (hlifetime : lifetime.nanos ≠ 0)
    (hsent : ∀ visit ∈ visits, ∀ request ∈ visit.sent, request.Separable) :
    lastInsertion? lifetime visits request.key =
      (lastAnswer? visits request).map fun answer =>
        ⟨answer.allowed, lifetime, answer.storedAt⟩ := by
  unfold lastAnswer?
  rw [List.map_findSome?]
  induction visits with
  | nil => rfl
  | cons visit visits ih =>
    rw [List.forall_mem_cons] at hsent
    rw [lastInsertion?_cons, Visit.insertion?_key hrequest hlifetime hsent.1, ih hsent.2,
      List.findSome?_cons, Function.comp_apply]
    cases visit.answer? request <;> rfl

/-- The last answer was given in one of the visits. -/
theorem exists_of_lastAnswer? {answer : Answer} (h : lastAnswer? visits request = some answer) :
    ∃ visit ∈ visits, visit.encounter.storedAt = answer.storedAt := by
  obtain ⟨visit, hvisit, hanswer⟩ := List.exists_of_findSome?_eq_some h
  refine ⟨visit, hvisit, ?_⟩
  unfold Visit.answer? at hanswer
  split_ifs at hanswer
  split at hanswer
  · exact congrArg Answer.storedAt (Option.some.inj hanswer)
  · cases hanswer

/-- Without a lifetime no answer is live. -/
theorem Remembers.not_liveAnswer (h : Remembers lifetime visits cache clock)
    (hlifetime : lifetime.nanos = 0) {now : Timestamp} (hnow : clock.nanos ≤ now.nanos)
    {allowed : Bool} : ¬ LiveAnswer lifetime visits request now allowed := by
  rintro ⟨storedAt, hlast, hlasts⟩
  obtain ⟨visit, hvisit, rfl⟩ := exists_of_lastAnswer? hlast
  have hpast := h.past visit hvisit
  simp only [hlifetime, Nat.zero_min, Int.natCast_zero] at hlasts
  omega

/-- What is remembered of a separable request is its live answer. -/
theorem Remembers.read_eq_some {now : Timestamp} {allowed : Bool}
    (h : Remembers lifetime visits cache clock) (hnow : clock.nanos ≤ now.nanos)
    (hrequest : request.Separable) :
    cache.read request.key now = some allowed ↔
      LiveAnswer lifetime visits request now allowed := by
  rw [(h.agrees.after hnow).read_eq_some]
  unfold LiveAnswer
  by_cases hlifetime : lifetime.nanos = 0
  -- without a lifetime nothing is inserted, and every answer is over when it is stored
  · have hnone : lastInsertion? lifetime visits request.key = none := by
      unfold lastInsertion?
      rw [List.findSome?_eq_none_iff]
      intro visit _
      unfold Visit.insertion?
      cases visit.sent <;> simp [hlifetime]
    exact iff_of_false (by simp [hnone]) (h.not_liveAnswer hlifetime hnow)
  · rw [lastInsertion?_key hrequest hlifetime h.sent]
    constructor
    · rintro ⟨insertion, hlast, rfl, hlasts⟩
      obtain ⟨answer, hanswer, rfl⟩ := Option.map_eq_some_iff.mp hlast
      exact ⟨answer.storedAt, hanswer, hlasts⟩
    · rintro ⟨storedAt, hlast, hlasts⟩
      exact ⟨⟨allowed, lifetime, storedAt⟩, by rw [hlast]; rfl, rfl, hlasts⟩

/-! ### Steps and runs -/

/-- One more visit, after which the cache agrees again. -/
theorem Remembers.cons {visit : Visit} {after : Cache}
    (h : Remembers lifetime visits cache clock)
    (hclock : clock.nanos ≤ visit.encounter.storedAt.nanos)
    (hsent : ∀ request ∈ visit.sent, request.Separable)
    (hagrees : Agrees after (lastInsertion? lifetime (visit :: visits))
      visit.encounter.storedAt) :
    Remembers lifetime (visit :: visits) after visit.encounter.storedAt where
  agrees := hagrees
  sent := List.forall_mem_cons.mpr ⟨hsent, h.sent⟩
  past := List.forall_mem_cons.mpr
    ⟨Int.le_refl _, fun visit hvisit => Int.le_trans (h.past visit hvisit) hclock⟩

/-- **One check**, with a clock that does not go back. -/
theorem Remembers.check (h : Remembers lifetime visits cache clock)
    (hread : clock.nanos ≤ encounter.readAt.nanos)
    (hstored : encounter.readAt.nanos ≤ encounter.storedAt.nanos) :
    Remembers lifetime
      (.ofVerdict request encounter (consult lifetime cache request encounter) :: visits)
      (consult lifetime cache request encounter).cache encounter.storedAt := by
  have hclock : clock.nanos ≤ encounter.storedAt.nanos := Int.le_trans hread hstored
  have hdropped : Agrees (cache.dropStale request.key encounter.readAt)
      (lastInsertion? lifetime visits) encounter.storedAt :=
    ((h.agrees.after hread).dropStale (Int.le_refl _)).after hstored
  by_cases hrequest : request.Separable
  · cases hcached : cache.read request.key encounter.readAt with
    | some allowed =>
      rw [consult_of_read hrequest hcached]
      refine h.cons hclock (by simp [Visit.ofVerdict]) ?_
      rw [lastInsertion?_cons_of_none fun _ => rfl]
      exact hdropped
    | none =>
      cases hservice : encounter.service request with
      | error e =>
        rw [consult_of_error hrequest hcached hservice]
        refine h.cons hclock (by simpa [Visit.ofVerdict] using hrequest) ?_
        -- the request was sent, but there is no answer to insert
        rw [lastInsertion?_cons_of_none fun key => by
          simp [Visit.insertion?, Visit.ofVerdict, Visit.answer?, hservice]]
        exact hdropped
      | ok allowed =>
        rw [consult_of_ok hrequest hcached hservice]
        refine h.cons hclock (by simpa [Visit.ofVerdict] using hrequest) ?_
        rw [lastInsertion?_cons_of_ok rfl hservice]
        exact hdropped.set request.key allowed lifetime
  · rw [consult_of_not_separable hrequest]
    refine h.cons hclock (by simp [Visit.ofVerdict]) ?_
    rw [lastInsertion?_cons_of_none fun _ => rfl]
    exact h.agrees.after hclock

/-- **Runs**: the cache remembers what the service has answered. -/
theorem Run.remembers (h : Run lifetime visits cache clock) :
    Remembers lifetime visits cache clock := by
  induction h with
  | start clock => exact ⟨Agrees.empty clock, by simp, by simp⟩
  | check request encounter _ hread hstored ih => exact ih.check hread hstored

/-! ### What checks answer -/

/-- What a check answers and asks, told from the checks before it. -/
structure ConsultExact (lifetime : Duration) (visits : List Visit) (cache : Cache)
    (request : Request) (encounter : Encounter) (verdict : Verdict Cache) : Prop where
  refuses : ¬ request.Separable → verdict =
    ⟨.error (.invalidPermission "principal and resource must not contain ':'"), none, cache⟩
  asks : request.Separable → (verdict.sent = some request ↔
    ∀ allowed, ¬ LiveAnswer lifetime visits request encounter.readAt allowed)
  relays : ∀ sent, verdict.sent = some sent →
    sent = request ∧ verdict.outcome = encounter.service request
  recalls : request.Separable → ∀ allowed,
    LiveAnswer lifetime visits request encounter.readAt allowed → verdict.outcome = .ok allowed
  answers : ∀ allowed, verdict.outcome = .ok allowed →
    (verdict.sent = some request ∧ encounter.service request = .ok allowed) ∨
      (verdict.sent = none ∧ LiveAnswer lifetime visits request encounter.readAt allowed)
  fails : ∀ e, verdict.sent = some request → encounter.service request = .error e →
    verdict.outcome = .error e ∧ ∀ key now allowed,
      verdict.cache.read key now = some allowed → cache.read key now = some allowed
  unlasting : lifetime.nanos = 0 → request.Separable → verdict.sent = some request

/-- Dropping a stale entry makes nothing live. -/
theorem read_of_dropStale {key other : String} {reading now : Timestamp} {allowed : Bool}
    (h : (cache.dropStale key reading).read other now = some allowed) :
    cache.read other now = some allowed := by
  unfold Cache.read at h ⊢
  cases hfound : (cache.dropStale key reading).find? other with
  | none =>
    rw [hfound] at h
    cases h
  | some decision =>
    rw [Cache.find?_of_dropStale hfound, ← hfound]
    exact h

/-- **A checker relays or recalls**: in each run, a check that returns an answer has
it from the service, which was sent this very request, or recalls the last answer
that the service gave to this very request, while it lasts.  The service is asked
exactly when there is no such answer; a request that cannot be told from others is
refused before that, and a failure of the service is returned and not remembered. -/
theorem consult_exact (h : Run lifetime visits cache clock)
    (hread : clock.nanos ≤ encounter.readAt.nanos) :
    ConsultExact lifetime visits cache request encounter
      (consult lifetime cache request encounter) := by
  have hremembers := h.remembers
  by_cases hrequest : request.Separable
  · have hlive : ∀ allowed, cache.read request.key encounter.readAt = some allowed ↔
        LiveAnswer lifetime visits request encounter.readAt allowed := fun allowed =>
      hremembers.read_eq_some hread hrequest
    cases hcached : cache.read request.key encounter.readAt with
    -- the answer is recalled
    | some cached =>
      have hanswer := (hlive cached).mp hcached
      rw [consult_of_read hrequest hcached]
      exact {
        refuses := fun hnot => absurd hrequest hnot
        asks := fun _ => iff_of_false (by simp) fun hnone => hnone cached hanswer
        relays := by simp
        recalls := by
          intro _ allowed hother
          have heq := (hlive allowed).mpr hother
          rw [hcached] at heq
          rw [Option.some.inj heq]
        answers := by
          rintro allowed ⟨⟩
          exact .inr ⟨rfl, hanswer⟩
        fails := by simp
        unlasting := fun hlifetime _ =>
          absurd hanswer (hremembers.not_liveAnswer hlifetime hread) }
    | none =>
      have hnone : ∀ allowed, ¬ LiveAnswer lifetime visits request encounter.readAt allowed := by
        intro allowed hanswer
        rw [(hlive allowed).mpr hanswer] at hcached
        cases hcached
      cases hservice : encounter.service request with
      -- the service is asked, and fails
      | error e =>
        rw [consult_of_error hrequest hcached hservice]
        exact {
          refuses := fun hnot => absurd hrequest hnot
          asks := fun _ => iff_of_true rfl hnone
          relays := by
            rintro sent ⟨⟩
            exact ⟨rfl, hservice.symm⟩
          recalls := fun _ allowed hanswer => absurd hanswer (hnone allowed)
          answers := by nofun
          fails := by
            intro other _ hother
            rw [hservice] at hother
            cases hother
            exact ⟨rfl, fun _ _ _ => read_of_dropStale⟩
          unlasting := fun _ _ => rfl }
      -- the service is asked, and answers
      | ok allowed =>
        rw [consult_of_ok hrequest hcached hservice]
        exact {
          refuses := fun hnot => absurd hrequest hnot
          asks := fun _ => iff_of_true rfl hnone
          relays := by
            rintro sent ⟨⟩
            exact ⟨rfl, hservice.symm⟩
          recalls := fun _ other hanswer => absurd hanswer (hnone other)
          answers := by
            rintro other ⟨⟩
            exact .inl ⟨rfl, hservice⟩
          fails := by
            intro e _ hother
            rw [hservice] at hother
            cases hother
          unlasting := fun _ _ => rfl }
  -- nothing is looked up
  · rw [consult_of_not_separable hrequest]
    exact {
      refuses := fun _ => rfl
      asks := fun hyes => absurd hyes hrequest
      relays := by simp
      recalls := fun hyes => absurd hyes hrequest
      answers := by nofun
      fails := by simp
      unlasting := fun _ hyes => absurd hyes hrequest }

/-- A request whose permission contains the separator. -/
def aliceReads : Request := ⟨"alice", "content:read", ""⟩

/-- A quarter of a second after the epoch, just before its end, the service is down. -/
def outage : Encounter :=
  ⟨.ofMillis 249, fun _ => .error (.transport "down"), .ofMillis 249⟩

/-- What the service has answered at the epoch is recalled while it is down. -/
theorem consult_exact_outage :
    ∃ visits cache clock, Run (.ofMillis 250) visits cache clock ∧
      clock.nanos ≤ outage.readAt.nanos ∧
      ConsultExact (.ofMillis 250) visits cache aliceReads outage
        (consult (.ofMillis 250) cache aliceReads outage) ∧
      (consult (.ofMillis 250) cache aliceReads outage).outcome = .ok true := by
  have hstart : Run (.ofMillis 250) [] .empty .epoch := .start .epoch
  have hrun := hstart.check aliceReads ⟨.epoch, fun _ => .ok true, .epoch⟩ (by decide) (by decide)
  exact ⟨_, _, _, hrun, by decide, consult_exact hrun (by decide), by decide +kernel⟩

end Identity.Check

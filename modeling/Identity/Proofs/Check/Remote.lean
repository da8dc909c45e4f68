/-
Identity/Proofs/Check/Remote.lean

A checker over HTTP fails closed.

Only a response that `Affirms` a truth value is an answer: its status reports
success and its content is a JSON document that says the truth value.  All others
end in a transport error (`answer_eq_ok`, `answer_eq_error`).  The content is made of
any bytes.  A document with a name of a member that is no text cannot be read; what
else it says may be no text.

Behind a cache an answer may be recalled later.  The cache is therefore compared
with the last contact for each request, whatever the clock says in between: what it
holds under the key of a request was affirmed in the last contact for this very
request (`Backed`).  A contact that ends in an error leaves nothing under the key,
because the service is only asked when nothing there can be recalled, and what
cannot be recalled is dropped first.

Main result: `fails_closed`.
-/
import Identity.Check.Remote
import Identity.Proofs.Check.Checker
import Identity.Proofs.Json.Members
import Identity.Proofs.Outcome

namespace Identity.Check.Remote

open Json

variable {base : String} {url : Url} {response : Response} {b : Bool} {e : Error}

/-! ### Contents -/

/-- The value says whether something is allowed: it is an object whose names are texts,
with exactly one member `allowed` that has this truth value, or it is an array of the
truth value alone. -/
inductive Says : Value → Bool → Prop
  | object {members : List (String × Value)} {b : Bool}
      (once : members.filter (·.1 == "allowed") = [("allowed", .bool b)]) :
      Says (.object (members.map fun m => (some m.1, m.2))) b
  | array (b : Bool) : Says (.array [.bool b]) b

theorem ofValue?_eq_some {value : Value} : ofValue? value = some b ↔ Says value b := by
  constructor
  · intro h
    unfold ofValue? at h
    split at h
    · obtain rfl := bool?_eq_some.mp h
      exact .array b
    · simp only [Option.bind_eq_bind, Option.bind_eq_some_iff] at h
      obtain ⟨members, hmembers, found, hfound, allowed, rfl, hb⟩ := h
      obtain rfl := bool?_eq_some.mp hb
      rw [members?_eq_some.mp hmembers]
      exact .object (single?_eq_some.mp hfound)
  · rintro (@⟨members, b, once⟩ | ⟨⟩)
    · have hmembers := members?_eq_some.mpr
        (rfl : Value.object (members.map fun m => (some m.1, m.2)) = _)
      simp only [ofValue?, hmembers, Option.bind_eq_bind, Option.bind_some,
        single?_eq_some.mpr once]
      rfl
    · rfl

/-- **Answers of a service**: the status is from 200 to 299, and the content is a JSON document
that says the truth value.  The content is bytes: what the document says besides need not be
UTF-8. -/
inductive Affirms : Response → Bool → Prop
  | intro {status : Nat} {body : Bytes} {value : Value} {b : Bool}
      (success : 200 ≤ status ∧ status ≤ 299)
      (isJson : Json.ofBytes? (content status body) = some value) (allowed : Says value b) :
      Affirms (.received status body) b

theorem decode?_eq_some {bytes : Bytes} :
    decode? bytes = some b ↔ ∃ value, Json.ofBytes? bytes = some value ∧ Says value b := by
  simp only [decode?, Option.bind_eq_bind, Option.bind_eq_some_iff, ofValue?_eq_some]

/-- A byte that is no text, in a name. -/
example : decode? (Bytes.ofText "\x7b\"allowed\":true,\"" ++ 0xff :: Bytes.ofText "\":0\x7d") =
    none := by decide +kernel

/-! ### Responses -/

theorem isSuccess_eq_true {status : Nat} : isSuccess status = true ↔ 200 ≤ status ∧ status ≤ 299 := by
  simp [isSuccess]

theorem isFinal_of_isSuccess {status : Nat} (h : isSuccess status = true) :
    isFinal status = true := by
  have hrange := isSuccess_eq_true.mp h
  simp only [isFinal, Bool.or_eq_true, Bool.and_eq_true, decide_eq_true_eq]
  omega

theorem interpret_received_eq_ok {status : Nat} {body : Bytes} :
    interpret url (.received status body) = .ok b ↔
      isSuccess status = true ∧ decode? (content status body) = some b := by
  unfold interpret
  dsimp only
  split_ifs with hfinal hsuccess
  -- a status that is not final reports no success
  · refine iff_of_false nofun fun h => ?_
    rw [isFinal_of_isSuccess h.1] at hfinal
    cases hfinal
  · refine iff_of_false nofun fun h => ?_
    rw [h.1] at hsuccess
    cases hsuccess
  · rw [and_iff_right (by simpa using hsuccess)]
    cases decode? (content status body) with
    | none => exact iff_of_false nofun nofun
    | some allowed => rw [Except.ok.injEq, Option.some.injEq]

/-- What is answered is what the response affirms. -/
theorem interpret_eq_ok : interpret url response = .ok b ↔ Affirms response b := by
  cases response with
  | closed => exact iff_of_false nofun nofun
  | received status body =>
    rw [interpret_received_eq_ok, isSuccess_eq_true, decode?_eq_some]
    constructor
    · rintro ⟨hsuccess, value, isJson, allowed⟩
      exact .intro hsuccess isJson allowed
    · rintro ⟨hsuccess, isJson, allowed⟩
      exact ⟨hsuccess, _, isJson, allowed⟩

/-- What affirms nothing is a transport error. -/
theorem interpret_eq_error (h : interpret url response = .error e) : ∃ detail, e = .transport detail := by
  unfold interpret at h
  split at h
  · cases h
    exact ⟨_, rfl⟩
  · split_ifs at h
    · cases h
      exact ⟨_, rfl⟩
    · cases h
      exact ⟨_, rfl⟩
    · split at h
      · cases h
      · cases h
        exact ⟨_, rfl⟩

/-- So is every request to an address that is none. -/
theorem address_eq_error (h : address base = .error e) : ∃ detail, e = .transport detail := by
  unfold address at h
  split at h
  · cases h
    exact ⟨_, rfl⟩
  · dsimp only at h
    split_ifs at h
    cases h
    exact ⟨_, rfl⟩

theorem answer_eq_ok :
    answer base response = .ok b ↔ (∃ url, address base = .ok url) ∧ Affirms response b := by
  unfold answer
  simp only [Outcome.bind_eq_ok, interpret_eq_ok]
  exact exists_and_right

theorem answer_eq_error (h : answer base response = .error e) : ∃ detail, e = .transport detail := by
  rcases Outcome.bind_eq_error.mp h with h | ⟨url, -, h⟩
  · exact address_eq_error h
  · exact interpret_eq_error h

/-! ### Checks over HTTP -/

/-- A check over HTTP: what is asked, what comes back if the service is contacted, and what
the clock says before and after. -/
structure Poll where
  request : Request
  response : Response
  readAt : Timestamp
  storedAt : Timestamp

/-- What a check over HTTP meets. -/
def Poll.encounter (base : String) (poll : Poll) : Encounter :=
  ⟨poll.readAt, fun _ => answer base poll.response, poll.storedAt⟩

/-- What a check over HTTP leads to. -/
def Poll.verdict (base : String) (lifetime : Duration) (cache : Cache) (poll : Poll) :
    Verdict Cache :=
  consult lifetime cache poll.request (poll.encounter base)

theorem Poll.consulted (base : String) (lifetime : Duration) (cache : Cache) (poll : Poll) :
    Consulted lifetime cache poll.request (poll.encounter base)
      (poll.verdict base lifetime cache) :=
  Check.consulted lifetime cache poll.request (poll.encounter base)

/-- **Runs of a checker over HTTP** whose cache was empty at first: the checks so far with
what they led to, the last one first, and the cache.  The clock may say anything. -/
inductive Polled (base : String) (lifetime : Duration) : List (Poll × Verdict Cache) → Cache → Prop
  | start : Polled base lifetime [] .empty
  | check {log : List (Poll × Verdict Cache)} {cache : Cache} (h : Polled base lifetime log cache)
      (poll : Poll) : Polled base lifetime ((poll, poll.verdict base lifetime cache) :: log)
        (poll.verdict base lifetime cache).cache

variable {lifetime : Duration} {cache : Cache} {log : List (Poll × Verdict Cache)} {poll : Poll}
variable {verdict : Verdict Cache} {request : Request}

/-- The last check for which the service was contacted about a request. -/
def lastContact? (log : List (Poll × Verdict Cache)) (request : Request) :
    Option (Poll × Verdict Cache) :=
  log.find? fun entry => decide (entry.2.sent = some request)

theorem lastContact?_cons_of_sent (h : verdict.sent = some request) :
    lastContact? ((poll, verdict) :: log) request = some (poll, verdict) :=
  List.find?_cons_of_pos (decide_eq_true h)

theorem lastContact?_cons_of_ne (h : verdict.sent ≠ some request) :
    lastContact? ((poll, verdict) :: log) request = lastContact? log request :=
  List.find?_cons_of_neg (by simpa using h)

/-- What the cache holds for a request is what was answered in the last contact about it. -/
def Backed (base : String) (log : List (Poll × Verdict Cache)) (cache : Cache) : Prop :=
  ∀ request : Request, request.Separable → ∀ decision, cache.find? request.key = some decision →
    ∃ entry, lastContact? log request = some entry ∧
      answer base entry.1.response = .ok decision.allowed

/-- A check without contact makes no entry. -/
theorem Backed.recall {after : Cache} (h : Backed base log cache) (hsent : verdict.sent = none)
    (hfound : ∀ key decision, after.find? key = some decision → cache.find? key = some decision) :
    Backed base ((poll, verdict) :: log) after := by
  intro request hrequest decision hdecision
  rw [lastContact?_cons_of_ne (by rw [hsent]; nofun)]
  exact h request hrequest decision (hfound _ _ hdecision)

/-- A contact leaves the entries of all other requests. -/
theorem Backed.contact {after : Cache} (h : Backed base log cache) (hrequest : request.Separable)
    (hsent : verdict.sent = some request)
    (hown : ∀ decision, after.find? request.key = some decision →
      answer base poll.response = .ok decision.allowed)
    (hothers : ∀ key, key ≠ request.key → ∀ decision, after.find? key = some decision →
      cache.find? key = some decision) :
    Backed base ((poll, verdict) :: log) after := by
  intro other hother decision hdecision
  by_cases hsame : other = request
  · subst hsame
    exact ⟨_, lastContact?_cons_of_sent hsent, hown decision hdecision⟩
  · have hkey : other.key ≠ request.key := fun hkey =>
      hsame (Request.eq_of_key_eq hother hrequest hkey)
    rw [lastContact?_cons_of_ne (by rw [hsent]; exact fun h => hsame (Option.some.inj h).symm)]
    exact h other hother decision (hothers _ hkey _ hdecision)

/-- **One check** over HTTP. -/
theorem Backed.step (h : Backed base log cache) (lifetime : Duration) (poll : Poll) :
    Backed base ((poll, poll.verdict base lifetime cache) :: log)
      (poll.verdict base lifetime cache).cache := by
  have hdropped : ∀ key decision,
      (cache.dropStale poll.request.key poll.readAt).find? key = some decision →
        cache.find? key = some decision :=
    fun _ _ => Cache.find?_of_dropStale
  have hconsulted := poll.consulted base lifetime cache
  generalize poll.verdict base lifetime cache = verdict at hconsulted ⊢
  cases hconsulted with
  | refused hrequest => exact h.recall rfl fun _ _ => id
  | recalled hrequest hread => exact h.recall rfl hdropped
  | failed hrequest hread hservice =>
    refine h.contact hrequest rfl (fun decision hdecision => ?_) fun key _ => hdropped key
    have hnone := Cache.find?_dropStale_of_read hread
    cases hnone.symm.trans hdecision
  | @answered allowed hrequest hread hservice =>
    refine h.contact hrequest rfl (fun decision hdecision => ?_) fun key hkey decision hdecision => ?_
    · rw [Cache.find?_set] at hdecision
      split_ifs at hdecision
      · obtain rfl := Option.some.inj hdecision
        exact hservice
      · have hnone := Cache.find?_dropStale_of_read hread
        cases hnone.symm.trans hdecision
    · rw [Cache.find?_set, if_neg fun h => hkey h.1] at hdecision
      exact hdropped key decision hdecision

theorem Polled.backed (h : Polled base lifetime log cache) : Backed base log cache := by
  induction h with
  | start => exact fun _ _ _ hdecision => nomatch hdecision
  | check _ poll ih => exact ih.step lifetime poll

/-! ### Failing closed -/

/-- What a client answers, whatever comes back: a truth value that the response affirms, and a
transport error in all other cases. -/
structure ClientExact (base : String) : Prop where
  answers : ∀ response b,
    answer base response = .ok b ↔ (∃ url, address base = .ok url) ∧ Affirms response b
  fails : ∀ response, (∀ b, answer base response ≠ .ok b) →
    ∃ detail, answer base response = .error (.transport detail)

theorem client_exact (base : String) : ClientExact base where
  answers _ _ := answer_eq_ok
  fails response h := by
    cases hanswer : answer base response with
    | ok b => exact absurd hanswer (h b)
    | error e =>
      obtain ⟨detail, rfl⟩ := answer_eq_error hanswer
      exact ⟨detail, rfl⟩

/-- What a check over HTTP answers after some others.  A truth value was affirmed by a
response in this check or an earlier one, in which the service was contacted about this very
request; an answer without contact is the one of the last contact.  When that contact was an
error, or there was none, the service is contacted.  An error leaves no decision behind. -/
structure FailsClosed (base : String) (log : List (Poll × Verdict Cache)) (cache : Cache)
    (poll : Poll) (verdict : Verdict Cache) : Prop where
  client : ClientExact base
  relays : ∀ request, verdict.sent = some request →
    request = poll.request ∧ verdict.outcome = answer base poll.response
  affirmed : ∀ b, verdict.outcome = .ok b → ∃ entry ∈ (poll, verdict) :: log,
    entry.2.sent = some poll.request ∧ Affirms entry.1.response b
  recalls : ∀ b, verdict.sent = none → verdict.outcome = .ok b →
    ∃ entry, lastContact? log poll.request = some entry ∧ Affirms entry.1.response b
  retries : poll.request.Separable →
    (∀ entry, lastContact? log poll.request = some entry →
      ∀ b, answer base entry.1.response ≠ .ok b) →
      verdict.sent = some poll.request
  forgets : (∀ b, verdict.outcome ≠ .ok b) → ∀ key decision,
    verdict.cache.find? key = some decision → cache.find? key = some decision

/-- The last contact about a request was one about it. -/
theorem mem_of_lastContact? {entry : Poll × Verdict Cache}
    (h : lastContact? log request = some entry) :
    entry ∈ log ∧ entry.2.sent = some request :=
  ⟨List.mem_of_find?_eq_some h, by simpa using List.find?_some h⟩

/-- What can be read now is what was answered in the last contact. -/
theorem Backed.exists_lastContact? (h : Backed base log cache) (hrequest : request.Separable)
    {now : Timestamp} (hread : cache.read request.key now = some b) :
    ∃ entry, lastContact? log request = some entry ∧ answer base entry.1.response = .ok b := by
  obtain ⟨decision, hdecision, rfl⟩ := Cache.exists_find?_of_read hread
  exact h request hrequest decision hdecision

/-- **A checker over HTTP fails closed**, in every run and whatever comes back. -/
theorem fails_closed (h : Polled base lifetime log cache) (poll : Poll) :
    FailsClosed base log cache poll (poll.verdict base lifetime cache) := by
  have hconsulted := poll.consulted base lifetime cache
  generalize poll.verdict base lifetime cache = verdict at hconsulted ⊢
  have hrecalls : ∀ b, verdict.sent = none → verdict.outcome = .ok b →
      ∃ entry, lastContact? log poll.request = some entry ∧ Affirms entry.1.response b := by
    intro b hsent hok
    obtain ⟨hrequest, hread⟩ := hconsulted.recalls hsent hok
    obtain ⟨entry, hlast, hanswer⟩ := h.backed.exists_lastContact? hrequest hread
    exact ⟨entry, hlast, (answer_eq_ok.mp hanswer).2⟩
  exact {
    client := client_exact base
    relays := fun _ => hconsulted.relays
    affirmed := by
      intro b hok
      cases hsent : verdict.sent with
      -- affirmed in the last contact, which was an earlier one
      | none =>
        obtain ⟨entry, hlast, haffirms⟩ := hrecalls b hsent hok
        obtain ⟨hmem, hcontact⟩ := mem_of_lastContact? hlast
        exact ⟨entry, List.mem_cons_of_mem _ hmem, hcontact, haffirms⟩
      -- affirmed just now
      | some request =>
        obtain ⟨rfl, hrelayed⟩ := hconsulted.relays hsent
        have hanswer : answer base poll.response = .ok b := hrelayed.symm.trans hok
        exact ⟨_, List.mem_cons_self, hsent, (answer_eq_ok.mp hanswer).2⟩
    recalls := hrecalls
    retries := by
      intro hrequest hnone
      refine hconsulted.asks hrequest (Option.eq_none_iff_forall_ne_some.mpr fun b hread => ?_)
      obtain ⟨entry, hlast, hanswer⟩ := h.backed.exists_lastContact? hrequest hread
      exact hnone entry hlast b hanswer
    forgets := fun hfails _ _ => hconsulted.forgets hfails }

/-- Whether Alice may read the content is asked at the epoch. -/
def ask (response : Response) : Poll := ⟨aliceReads, response, .epoch, .epoch⟩

/-- A response that affirms, with a member besides whose string is no UTF-8. -/
def grant : Response :=
  .received 200 (Bytes.ofText "\x7b\"allowed\":true,\"by\":\"" ++ 0xff :: Bytes.ofText "\"\x7d")

/-- A service that is out of order is asked again, and what it then affirms is recalled when
no response arrives any more. -/
theorem fails_closed_outage :
    ∃ log cache, Polled "http://[::1]" (.ofSeconds 60) log cache ∧
      log.map (fun entry => entry.2.outcome) =
        [.ok true, .error (.transport "authz check returned status 503")] ∧
      ((ask .closed).verdict "http://[::1]" (.ofSeconds 60) cache).sent = none ∧
      ∃ entry, lastContact? log aliceReads = some entry ∧ Affirms entry.1.response true := by
  have hstart : Polled "http://[::1]" (.ofSeconds 60) [] .empty := .start
  have hrun := (hstart.check (ask (.received 503 []))).check (ask grant)
  obtain ⟨log, cache, hrun, hlog, hsent, hok⟩ :
      ∃ log cache, Polled "http://[::1]" (.ofSeconds 60) log cache ∧
        log.map (fun entry => entry.2.outcome) =
          [.ok true, .error (.transport "authz check returned status 503")] ∧
        ((ask .closed).verdict "http://[::1]" (.ofSeconds 60) cache).sent = none ∧
        ((ask .closed).verdict "http://[::1]" (.ofSeconds 60) cache).outcome = .ok true :=
    ⟨_, _, hrun, by decide +kernel⟩
  exact ⟨log, cache, hrun, hlog, hsent, (fails_closed hrun (ask .closed)).recalls true hsent hok⟩

end Identity.Check.Remote

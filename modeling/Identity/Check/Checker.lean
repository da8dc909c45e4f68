/-
Identity/Check/Checker.lean

Asking a remote service, with a cache in front of it.

A check first looks into the cache and asks the remote service only when
nothing is remembered; only an answer that the service gave is remembered.
The key joins principal, permission and resource with colons.  Permissions
may contain colons themselves; because principals and resources may not, no
two questions share a key.
-/
import Identity.Check.Cache
import Identity.Check.Request

namespace Identity.Check

/-- The time for which a decision is remembered unless another is given. -/
def defaultLifetime : Duration := .ofSeconds 60

namespace Request

/-- The character between the parts of a key. -/
def keySeparator : Char := ':'

/-- The key under which the answer to a request is remembered. -/
def key (request : Request) : String :=
  String.ofList <|
    request.principal.toList ++ keySeparator :: request.permission.toList ++
      keySeparator :: request.resource.toList

/-- The key stands for other requests too. -/
def isAmbiguous (request : Request) : Bool :=
  request.principal.toList.contains keySeparator || request.resource.toList.contains keySeparator

end Request

/-! ### Caches that may fail -/

/-- What a checker needs of a cache. -/
class DecisionCache (κ : Type) where
  get : κ → (key : String) → (now : Timestamp) → Outcome (Option Bool) × κ
  set : κ → (key : String) → (allowed : Bool) → (lifetime : Duration) → (now : Timestamp) →
    Outcome Unit × κ

/-- The cache in memory never fails. -/
instance : DecisionCache Cache where
  get cache key now := (.ok (cache.read key now), cache.dropStale key now)
  set cache key allowed lifetime now := (.ok (), cache.set key allowed lifetime now)

/-- A cache in memory whose next look-up and next insertion may be told to fail. -/
structure FaultyCache where
  cache : Cache
  getFault : Option Error
  setFault : Option Error

namespace FaultyCache

/-- A cache that is empty and does not fail. -/
def empty : FaultyCache := ⟨.empty, none, none⟩

/-- Looks up a decision, or fails as told. -/
def get (faulty : FaultyCache) (key : String) (now : Timestamp) :
    Outcome (Option Bool) × FaultyCache :=
  match faulty.getFault with
  | some e => (.error e, { faulty with getFault := none })
  | none =>
    let (answer, cache) := faulty.cache.get key now
    (.ok answer, { faulty with cache := cache })

/-- Remembers a decision, or fails as told. -/
def set (faulty : FaultyCache) (key : String) (allowed : Bool) (lifetime : Duration)
    (now : Timestamp) : Outcome Unit × FaultyCache :=
  match faulty.setFault with
  | some e => (.error e, { faulty with setFault := none })
  | none => (.ok (), { faulty with cache := faulty.cache.set key allowed lifetime now })

instance : DecisionCache FaultyCache where
  get := get
  set := set

end FaultyCache

/-! ### Checks -/

/-- What a check meets: the clock when it looks up, what the remote service
answers to each request, and the clock when an answer is remembered. -/
structure Encounter where
  readAt : Timestamp
  service : Request → Outcome Bool
  storedAt : Timestamp

/-- What a check leads to: its outcome, the request that the service was sent, if
it was sent one, and the cache afterwards. -/
structure Verdict (κ : Type) where
  outcome : Outcome Bool
  sent : Option Request
  cache : κ

/-- The remote service was asked. -/
def Verdict.asked {κ : Type} (verdict : Verdict κ) : Bool := verdict.sent.isSome

/-- Answers a request from the cache or from the remote service. -/
def consult {κ : Type} [DecisionCache κ] (lifetime : Duration) (cache : κ) (request : Request)
    (encounter : Encounter) : Verdict κ :=
  if request.isAmbiguous then
    ⟨.error (.invalidPermission "principal and resource must not contain ':'"), none, cache⟩
  else
    match DecisionCache.get cache request.key encounter.readAt with
    | (.error e, cache) => ⟨.error e, none, cache⟩
    | (.ok (some allowed), cache) => ⟨.ok allowed, none, cache⟩
    | (.ok none, cache) =>
      match encounter.service request with
      | .error e => ⟨.error e, some request, cache⟩
      | .ok allowed =>
        let (stored, cache) :=
          DecisionCache.set cache request.key allowed lifetime encounter.storedAt
        ⟨stored.map fun _ => allowed, some request, cache⟩

/-- What a check meets when the remote service has one answer for every request. -/
structure Occasion where
  readAt : Timestamp
  remote : Outcome Bool
  storedAt : Timestamp

/-- Answers a request from the cache, or with the one answer of the service. -/
def check {κ : Type} [DecisionCache κ] (lifetime : Duration) (cache : κ) (request : Request)
    (occasion : Occasion) : Verdict κ :=
  consult lifetime cache request
    ⟨occasion.readAt, fun _ => occasion.remote, occasion.storedAt⟩

end Identity.Check

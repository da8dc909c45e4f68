/-
Identity/Proofs/Authentication/Race.lean

Requests to the authentication service that are performed at the same time.

A *race* is a complete interleaving of some requests, call by call: all of them
have been answered in the end.  Each has its own clock and its own random bytes.

Requests that only add users share a store on simple terms (`growth`): the table
of users grows at its end and nothing else changes.  On such terms a search that
comes before an insertion proves nothing about the insertion, which may still be
refused, for a reason that is true of the store from then on (`Conflict`).
-/
import Identity.Proofs.Authentication.Request
import Identity.Proofs.Authentication.SignUp
import Identity.Proofs.Interleaving

namespace Identity

/-- A call that changes nothing. -/
def Reads (c : Call) : Prop := ∀ store : Store, (store.respond c).2 = store

/-- The store has answered some calls since it was empty. -/
def Store.Reached (store : Store) : Prop := ∃ calls, store = Store.empty.answered calls

theorem Store.Reached.sound {store : Store} (h : store.Reached) : store.Sound := by
  obtain ⟨calls, rfl⟩ := h
  exact Store.sound_empty.answered calls

theorem Store.reached_empty : Store.empty.Reached := ⟨[], rfl⟩

theorem Store.Reached.respond {store : Store} (h : store.Reached) (c : Call) :
    (store.respond c).2.Reached := by
  obtain ⟨calls, rfl⟩ := h
  exact ⟨calls ++ [c], by rw [Store.answered, Store.answered, List.foldl_append]; rfl⟩

theorem Store.Reached.run {β : Type} {store : Store} (h : store.Reached) (op : Operation β)
    (entropy : Entropy) : (op.run entropy store).2.2.Reached := by
  show ((op entropy).run store).2.Reached
  induction op entropy generalizing store with
  | done b => exact h
  | call c next ih => exact ih _ (h.respond c)

namespace Authentication

open Operation

variable {store later : Store} {entropy : Entropy} {α β : Type}

/-! ### Races -/

/-- A request with the time at which it is performed and the random bytes that it can draw. -/
structure Submission where
  request : Request
  now : Timestamp
  entropy : Entropy

/-- The calls that a submission makes. -/
def Submission.program (service : Settings.Accepted) (submission : Submission) :
    Program (Outcome submission.request.Answer × Entropy) :=
  submission.request.perform service submission.now submission.entropy

section Races

variable {ι : Type} [DecidableEq ι] {service : Settings.Accepted} {submissions : ι → Submission}
variable {before after : Store} {log : List (ι × Exchange)}
variable {outcome : ∀ i, Outcome (submissions i).request.Answer}

/-- **Races** of submissions: the calls in the order in which they were answered, the last
one first, the outcome of each submission, and the store in the end. -/
def Race (service : Settings.Accepted) (submissions : ι → Submission) (before : Store)
    (log : List (ι × Exchange)) (outcome : ∀ i, Outcome (submissions i).request.Answer)
    (after : Store) : Prop :=
  ∃ rest : ι → Entropy, Interleaving ⟨fun i => (submissions i).program service, before⟩ log
    ⟨fun i => .done (outcome i, rest i), after⟩

/-- An interleaving is a race when all programs have ended. -/
theorem race_of_interleaving
    {pool : Pool ι fun i => Outcome (submissions i).request.Answer × Entropy}
    (rest : ι → Entropy)
    (h : Interleaving ⟨fun i => (submissions i).program service, before⟩ log pool)
    (hdone : ∀ i, pool.programs i = .done (outcome i, rest i)) :
    Race service submissions before log outcome pool.store := by
  obtain ⟨programs, store⟩ := pool
  obtain rfl : programs = fun i => .done (outcome i, rest i) := funext hdone
  exact ⟨rest, h⟩

theorem Race.sound (h : Race service submissions before log outcome after)
    (hbefore : before.Sound) : after.Sound := by
  obtain ⟨rest, h⟩ := h
  exact h.sound hbefore

/-- Finitely many submissions can always be raced. -/
theorem exists_race [Fintype ι] (service : Settings.Accepted) (submissions : ι → Submission)
    (before : Store) : ∃ log outcome after,
      Race service submissions before log outcome after := by
  have hstart : Interleaving ⟨fun i => (submissions i).program service, before⟩ []
    ⟨fun i => (submissions i).program service, before⟩ := .start
  obtain ⟨log, results, after, h⟩ := hstart.exists_done
  exact ⟨log, fun i => (results i).1, after, fun i => (results i).2, h⟩

end Races

/-! ### Growing tables -/

/-- Users have been added, all of an allowed kind. -/
def Grows (allowed : User → Prop) (store later : Store) : Prop :=
  ∃ added, later = { store with users := store.users ++ added } ∧ ∀ user ∈ added, allowed user

section Grows

variable {allowed allowed' : User → Prop} {P : User → Prop} {user : User}

theorem Grows.refl (allowed : User → Prop) (store : Store) : Grows allowed store store :=
  ⟨[], by rw [List.append_nil], nofun⟩

theorem Grows.trans {a b c : Store} (hab : Grows allowed a b) (hbc : Grows allowed b c) :
    Grows allowed a c := by
  obtain ⟨first, rfl, hfirst⟩ := hab
  obtain ⟨second, rfl, hsecond⟩ := hbc
  refine ⟨first ++ second, by rw [List.append_assoc], ?_⟩
  rw [List.forall_mem_append]
  exact ⟨hfirst, hsecond⟩

theorem Grows.mono (h : Grows allowed store later) (himp : ∀ user, allowed user → allowed' user) :
    Grows allowed' store later := by
  obtain ⟨added, hlater, hadded⟩ := h
  exact ⟨added, hlater, fun user hu => himp user (hadded user hu)⟩

theorem Grows.insert (h : allowed user) :
    Grows allowed store { store with users := store.users ++ [user] } :=
  ⟨[user], rfl, by simpa using h⟩

theorem Grows.mem (h : Grows allowed store later) (hu : user ∈ store.users) :
    user ∈ later.users := by
  obtain ⟨added, rfl, -⟩ := h
  exact List.mem_append_left added hu

/-- What is true of all stored users and of the added ones is true of all later ones. -/
theorem Grows.forall_mem (h : Grows allowed store later) (hstore : ∀ user ∈ store.users, P user)
    (hallowed : ∀ user, allowed user → P user) : ∀ user ∈ later.users, P user := by
  obtain ⟨added, rfl, hadded⟩ := h
  rw [List.forall_mem_append]
  exact ⟨hstore, fun user hu => hallowed user (hadded user hu)⟩

end Grows

/-- The terms of those who only add users: of one kind the others, and of another kind the
program itself. -/
def growth (others own : User → Prop) : Terms where
  others := Grows others
  own := Grows own
  refl := Grows.refl others
  trans := Grows.trans

/-! ### Candidates and conflicts -/

/-- A record that may be added for an address and a username, in any spelling, under the
identifier that is drawn for it. -/
structure Candidate (s : Settings) (email username : String) (id : UserId) (user : User) :
    Prop where
  id : user.id = id
  email : user.email.lookup = lookup s (Email.normalize email)
  username : user.username = Username.normalize username

/-- Why a user with an email lookup and a username cannot be added: somebody who is stored
has one of them. -/
inductive Conflict (store : Store) (lookup : Bytes) (username : String) : Error → Prop
  | email {user : User} (stored : user ∈ store.users) (same : user.email.lookup = lookup) :
      Conflict store lookup username .userAlreadyExists
  | username {user : User} (stored : user ∈ store.users) (same : user.username = username) :
      Conflict store lookup username .usernameExists

theorem Conflict.grows {allowed : User → Prop} {lookup : Bytes} {username : String} {e : Error}
    (h : Conflict store lookup username e) (hgrows : Grows allowed store later) :
    Conflict later lookup username e := by
  cases h with
  | email stored same => exact .email (hgrows.mem stored) same
  | username stored same => exact .username (hgrows.mem stored) same

theorem conflict_of_email {digest : Bytes} {username : String} {user : User}
    (h : (store.respond (.findUserByEmail digest)).1 = .ok user) :
    Conflict store digest username .userAlreadyExists := by
  have hfound : store.findUser (·.email.lookup == digest) = .ok user := h
  exact .email (mem_of_findUser hfound) (beq_iff_eq.mp (wanted_of_findUser hfound))

theorem conflict_of_username {digest : Bytes} {username : String} {user : User}
    (h : (store.respond (.findUserByUsername username)).1 = .ok user) :
    Conflict store digest username .usernameExists := by
  have hfound : store.findUser (·.username == username) = .ok user := h
  exact .username (mem_of_findUser hfound) (beq_iff_eq.mp (wanted_of_findUser hfound))

/-- A user without a PIN whose identifier is new is added, or refused for a conflict. -/
theorem respond_createUser {user : User} (hpin : user.pin = none)
    (hid : ∀ stored ∈ store.users, stored.id ≠ user.id) :
    store.respond (.createUser user) =
        (.ok user, { store with users := store.users ++ [user] }) ∨
      ∃ e, store.respond (.createUser user) = (.error e, store) ∧
        Conflict store user.email.lookup user.username e := by
  have hnew : ¬ (store.user? user.id).isSome = true := by
    rw [Store.user?_eq_none.mpr hid]
    nofun
  have hcreate : store.createUser user =
      store.ensureUnique user >>= fun _ =>
        .ok (user, { store with users := store.users ++ [user] }) := if_neg hnew
  have hpins : ¬ (user.pin.any fun pin =>
      store.otherUser user (Store.hasPinLookup pin.lookup)) = true := by
    rw [hpin]
    nofun
  rw [Store.respond, hcreate, Store.ensureUnique]
  split_ifs with hemail husername
  · obtain ⟨stored, hs, -, hsame⟩ := Store.otherUser_eq_true.mp hemail
    exact .inr ⟨_, rfl, .email hs (beq_iff_eq.mp hsame)⟩
  · obtain ⟨stored, hs, -, hsame⟩ := Store.otherUser_eq_true.mp husername
    exact .inr ⟨_, rfl, .username hs (beq_iff_eq.mp hsame)⟩
  · exact .inl rfl

/-! ### Operations on shared stores -/

section Meets

variable {others own : User → Prop} {result : Outcome β → Store → Prop} {user : User}

/-- A search for an address, and what comes after it. -/
theorem findUser?_meets {digest : Bytes} {f : Option User → Operation β}
    (h : ∀ later, Grows others store later →
      (f (later.users.find? (·.email.lookup == digest))).Meets (growth others own) result entropy
        later) :
    (findUser? digest >>= f).Meets (growth others own) result entropy store := by
  rw [findUser?, bind_assoc]
  refine .attempt_bind fun later hlater => ⟨.refl own later, ?_⟩
  refine .ofOutcome_bind (fun e he => ?_) fun found hfound => ?_
  · cases (found?_findUser _).symm.trans he
  · obtain rfl := Except.ok.inj ((found?_findUser _).symm.trans hfound)
    exact h later hlater

/-- A call that searches: it changes nothing, and fails at nothing but the search. -/
structure Searches (c : Call) : Prop where
  reads : Reads c
  misses : ∀ (store : Store) {e : Error}, (store.respond c).1 = .error e → e = .userNotFound

theorem eq_userNotFound_of_findUser {wanted : User → Bool} {e : Error}
    (h : store.findUser wanted = .error e) : e = .userNotFound := by
  unfold Store.findUser at h
  cases hf : store.users.find? wanted with
  | none =>
    rw [hf] at h
    exact (Except.error.inj h).symm
  | some user =>
    rw [hf] at h
    cases h

theorem searches_email (digest : Bytes) : Searches (.findUserByEmail digest) :=
  ⟨fun _ => rfl, fun _ _ h => eq_userNotFound_of_findUser h⟩

theorem searches_username (username : String) : Searches (.findUserByUsername username) :=
  ⟨fun _ => rfl, fun _ _ h => eq_userNotFound_of_findUser h⟩

/-- A check that somebody is absent, and what comes after it.  That nobody was found is not
passed on, because it may not be true any more. -/
theorem ensureAbsent_meets {c : Call} {conflict : Error} {f : Unit → Operation β}
    (hc : Searches c)
    (hfound : ∀ later a, Grows others store later → (later.respond c).1 = .ok a →
      ∀ final, Grows others later final → result (.error conflict) final)
    (habsent : (f ()).Meets (growth others own) result entropy store) :
    (ensureAbsent c conflict >>= f).Meets (growth others own) result entropy store := by
  rw [ensureAbsent, bind_assoc]
  refine .attempt_bind fun later hlater => ?_
  rw [hc.reads later]
  refine ⟨.refl own later, ?_⟩
  cases hr : (later.respond c).1 with
  | ok a => exact ⟨.done fun final hfinal => hfound later a hlater hr final hfinal⟩
  | error e =>
    obtain rfl := hc.misses later hr
    exact ⟨(habsent.stable hlater).program⟩

/-- An attempt to add a user, and what comes after it. -/
theorem createUser_meets {f : Outcome User → Operation β} (hpin : user.pin = none)
    (hid : ∀ stored ∈ store.users, stored.id ≠ user.id)
    (hothers : ∀ other, others other → other.id ≠ user.id) (hown : own user)
    (hinserted : ∀ later, Grows others store later →
      (f (.ok user)).Meets (growth others own) result entropy
        { later with users := later.users ++ [user] })
    (hrefused : ∀ later e, Grows others store later →
      Conflict later user.email.lookup user.username e →
        (f (.error e)).Meets (growth others own) result entropy later) :
    ((Operation.call (.createUser user)).attempt >>= f).Meets (growth others own) result entropy
      store := by
  refine .attempt_bind fun later hlater => ?_
  rcases respond_createUser hpin (hlater.forall_mem hid hothers) with hr | ⟨e, hr, hconflict⟩
  · rw [hr]
    exact ⟨.insert hown, hinserted later hlater⟩
  · rw [hr]
    exact ⟨.refl own later, hrefused later e hlater hconflict⟩

end Meets

end Authentication

end Identity

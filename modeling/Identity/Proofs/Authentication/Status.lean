/-
Identity/Proofs/Authentication/Status.lean

Which status the operations of the service write into a user's record.

Every change of a user reads the record and writes it back whole, with the
status that it had when it was read.  So a change of credentials comes in two
phases: it waits to read the record (`Waits`), and from then on it carries the
status that it has read (`Carries`).  A suspension may read the record too, but
what it writes, as its last call, is its own status (`Blocks`).
-/
import Identity.Proofs.Authentication.Race

namespace Identity

/-! ### Calls that write a status -/

/-- A call that, when it succeeds, leaves a user in a state. -/
inductive Writes (id : UserId) : UserStatus → Call → Prop
  | update (user : User) (hid : user.id = id) : Writes id user.status (.updateUser user)
  | delete (actor : String) (now : Timestamp) : Writes id .deleted (.deleteUser id actor now)

/-- A stored user is in a state. -/
def HasStatus (store : Store) (id : UserId) (status : UserStatus) : Prop :=
  ∃ user, store.user? id = some user ∧ user.status = status

variable {store after : Store} {id : UserId} {status : UserStatus} {c : Call}

theorem Writes.hasStatus (h : Writes id status c) (hsound : store.Sound) {a : c.Reply}
    (hr : store.respond c = (.ok a, after)) : HasStatus after id status := by
  have hafter : after.Sound := by
    have hrespond := hsound.respond c
    rw [hr] at hrespond
    exact hrespond
  cases h with
  | update user hid =>
    obtain ⟨⟨old, hold⟩, -, -, rfl⟩ := Store.updateUser_eq_ok.mp (Store.changed_eq_ok hr)
    have hreplaced : Authentication.Replaced store old user _ := ⟨hold, rfl⟩
    exact ⟨user, hafter.user?_eq_some.mpr ⟨(hreplaced.holds user).mpr (.inl rfl), hid⟩, rfl⟩
  | delete actor now =>
    obtain ⟨old, hold, rfl⟩ := Store.deleteUser_eq_ok.mp (Store.changed_eq_ok hr)
    have hid : old.id = id := Authentication.id_of_user? hold
    have hreplaced : Authentication.Replaced store old (Store.markDeleted old actor now) _ :=
      ⟨hid.symm ▸ hold, rfl⟩
    exact ⟨_, hafter.user?_eq_some.mpr ⟨(hreplaced.holds _).mpr (.inl rfl), hid⟩, rfl⟩

/-- A call that writes the status which a user has, or nothing, leaves it. -/
theorem HasStatus.respond (h : HasStatus store id status) (hsound : store.Sound)
    (hc : Reads c ∨ Writes id status c) : HasStatus (store.respond c).2 id status := by
  rcases hc with hreads | hwrites
  · rw [hreads store]
    exact h
  · rcases hr : store.respond c with ⟨e | a, after⟩
    · rw [Operation.respond_error hr]
      exact h
    · exact hwrites.hasStatus hsound hr

/-! ### Programs that carry a status -/

namespace Program

variable {β γ : Type}

/-- All that the program ever writes is a record of the user in this state. -/
inductive Carries (id : UserId) (status : UserStatus) : Program β → Prop
  | done (b : β) : Carries id status (done b)
  | call {c : Call} {next : Outcome c.Reply → Program β} (hc : Reads c ∨ Writes id status c)
      (hnext : ∀ reply, Carries id status (next reply)) : Carries id status (call c next)

theorem Carries.bind {p : Program β} {f : β → Program γ} (hp : p.Carries id status)
    (hf : ∀ b, (f b).Carries id status) : (p.bind f).Carries id status := by
  induction hp with
  | done b => exact hf b
  | call hc _ ih => exact .call hc ih

/-- The program has not read the record yet, and carries the status that it will read. -/
inductive Waits (id : UserId) : Program β → Prop
  | done (b : β) : Waits id (done b)
  | read {next : Outcome User → Program β}
      (h : ∀ user, user.id = id → (next (.ok user)).Carries id user.status) :
      Waits id (Program.call (.getUser id) next)

/-- The program is about to write the status, as its last call, unless the user has it. -/
inductive Blocks (id : UserId) (status : UserStatus) : Program (Outcome β × Entropy) → Prop
  | write {c : Call} {next : Outcome c.Reply → Program (Outcome β × Entropy)}
      (hc : Writes id status c)
      (hnext : ∀ reply, ∃ outcome rest, next reply = .done (outcome, rest) ∧
        ∀ e, reply = .error e → ∃ e', outcome = .error e') :
      Blocks id status (Program.call c next)
  | read {next : Outcome User → Program (Outcome β × Entropy)}
      (h : ∀ user, user.id = id → user.status ≠ status → Blocks id status (next (.ok user))) :
      Blocks id status (Program.call (.getUser id) next)

theorem Carries.answer {next : Outcome c.Reply → Program β}
    (h : (Program.call c next).Carries id status) :
    (Reads c ∨ Writes id status c) ∧ ∀ reply, (next reply).Carries id status := by
  cases h with
  | call hc hnext => exact ⟨hc, hnext⟩

/-- The first call reads the record, and the program carries what it has read. -/
theorem Waits.answer {next : Outcome c.Reply → Program β}
    (h : (Program.call c next).Waits id) (hstatus : HasStatus store id status) :
    c = .getUser id ∧ (store.respond c).2 = store ∧
      (next (store.respond c).1).Carries id status := by
  cases h with
  | read h =>
    obtain ⟨user, huser, rfl⟩ := hstatus
    refine ⟨rfl, rfl, ?_⟩
    rw [Store.respond_getUser huser]
    exact h user (Authentication.id_of_user? huser)

/-- The next call reads the record, or is the last one and writes it. -/
theorem Blocks.answer {next : Outcome c.Reply → Program (Outcome β × Entropy)}
    {old : UserStatus} (h : (Program.call c next).Blocks id status)
    (hstatus : HasStatus store id old) (hne : old ≠ status) :
    ((store.respond c).2 = store ∧ (next (store.respond c).1).Blocks id status) ∨
      Writes id status c ∧ ∃ outcome rest, next (store.respond c).1 = .done (outcome, rest) ∧
        ∀ e, (store.respond c).1 = .error e → ∃ e', outcome = .error e' := by
  cases h with
  | write hc hnext => exact .inr ⟨hc, hnext _⟩
  | read h =>
    obtain ⟨user, huser, rfl⟩ := hstatus
    refine .inl ⟨rfl, ?_⟩
    rw [Store.respond_getUser huser]
    exact h user (Authentication.id_of_user? huser) hne

end Program

/-! ### Operations that carry a status -/

namespace Operation

variable {β γ : Type} {x : Operation γ} {f : γ → Operation β}

/-- Whatever is drawn, the operation writes records of the user in this state only. -/
structure Carries (id : UserId) (status : UserStatus) (op : Operation β) : Prop where
  program : ∀ entropy, (op entropy).Carries id status

theorem Carries.pure (b : β) : (Pure.pure b : Operation β).Carries id status :=
  ⟨fun _ => .done _⟩

theorem Carries.throw (e : Error) : (MonadExcept.throw e : Operation β).Carries id status :=
  ⟨fun _ => .done _⟩

theorem Carries.ofOutcome (outcome : Outcome β) : (ofOutcome outcome).Carries id status :=
  ⟨fun _ => .done _⟩

theorem Carries.draw (error : Crypto.Fault → Error) (d : Draw β) :
    (draw error d).Carries id status := by
  refine ⟨fun entropy => ?_⟩
  unfold Operation.draw
  split
  · exact .done _
  · exact .done _

theorem Carries.bind (hx : x.Carries id status) (hf : ∀ a, (f a).Carries id status) :
    (x >>= f).Carries id status := by
  refine ⟨fun entropy => (hx.program entropy).bind ?_⟩
  rintro ⟨e | a, rest⟩
  · exact .done _
  · exact (hf a).program rest

theorem Carries.attempt {op : Operation β} (h : op.Carries id status) :
    op.attempt.Carries id status :=
  ⟨fun entropy => (h.program entropy).bind fun _ => .done _⟩

theorem Carries.call (hc : Reads c ∨ Writes id status c) : (call c).Carries id status :=
  ⟨fun _ => .call hc fun _ => .done _⟩

theorem Carries.unless {p : Prop} [Decidable p] {e : Error} {rest : Operation β}
    (h : rest.Carries id status) :
    (if p then MonadExcept.throw e >>= f else rest).Carries id status := by
  split_ifs
  · exact ⟨fun _ => .done _⟩
  · exact h

/-- Whatever is drawn, the operation first reads the record and then carries its status. -/
structure Waits (id : UserId) (op : Operation β) : Prop where
  program : ∀ entropy, (op entropy).Waits id

theorem Waits.getUser_bind {f : User → Operation β}
    (h : ∀ user, user.id = id → (f user).Carries id user.status) :
    ((Operation.call (.getUser id) : Operation User) >>= f).Waits id :=
  ⟨fun entropy => .read fun user hid => (h user hid).program entropy⟩

theorem Waits.ofOutcome_bind {outcome : Outcome γ} (h : ∀ a, (f a).Waits id) :
    (Operation.ofOutcome outcome >>= f).Waits id := by
  refine ⟨fun entropy => ?_⟩
  cases outcome with
  | error e => exact .done _
  | ok a => exact (h a).program entropy

end Operation

namespace Authentication

open Operation

/-! ### Changes of credentials -/

theorem sealValue_carries (s : Settings) (text : String) :
    (sealValue s text).Carries id status :=
  .bind (.draw _ _) fun _ => .pure _

theorem hashPassword_carries (s : Settings) (password : String) :
    (hashPassword s password).Carries id status :=
  .bind (.draw _ _) fun _ => .ofOutcome _

theorem ensureAbsent_carries {conflict : Error} (hc : Reads c) :
    (ensureAbsent c conflict).Carries id status := by
  refine .bind (Carries.attempt (.call (.inl hc))) fun outcome => ?_
  split
  · exact .throw _
  · exact .pure _
  · exact .throw _

/-- A record that is written back with the status that it had. -/
theorem writeBack_carries {user edited : User} (hid : user.id = id) (hsame : edited.id = user.id)
    (hstatus : edited.status = user.status) (actor : String) (now : Timestamp) :
    (Operation.call (.updateUser (edited.updated actor now))).Carries id user.status := by
  have hwrites : Writes id (edited.updated actor now).status _ :=
    .update (edited.updated actor now) (by rw [User.updated_id, hsame, hid])
  rw [User.updated_status, hstatus] at hwrites
  exact .call (.inr hwrites)

theorem storePin_carries (s : Settings) {user : User} (hid : user.id = id) (pin : String)
    (now : Timestamp) : (storePin s user pin now).Carries id user.status :=
  .bind (sealValue_carries s pin) fun _ => writeBack_carries hid (by rfl) (by rfl) _ now

theorem storeFreshPin_carries (s : Settings) {user : User} (hid : user.id = id) (now : Timestamp)
    (attempts : Nat) : (storeFreshPin s user now attempts).Carries id user.status := by
  induction attempts with
  | zero => exact .throw _
  | succ attempts ih =>
    unfold storeFreshPin
    refine .bind (.draw _ _) fun pin => ?_
    refine .bind (storePin_carries s hid pin now).attempt fun outcome => ?_
    split
    · exact .pure _
    · exact ih
    · exact .throw _

theorem changePassword_waits (service : Settings.Accepted) (id : UserId) (current new : String)
    (now : Timestamp) : (changePassword service id current new now).Waits id := by
  refine .getUser_bind fun user hid => .unless ?_
  refine .bind (.ofOutcome _) fun _ => .bind (hashPassword_carries _ _) fun _ => ?_
  exact writeBack_carries hid (by rfl) (by rfl) _ now

theorem updateEmail_waits (service : Settings.Accepted) (id : UserId) (email actor : String)
    (now : Timestamp) : (updateEmail service id email actor now).Waits id := by
  refine .ofOutcome_bind fun _ => .getUser_bind fun user hid => ?_
  split_ifs
  · exact .pure _
  · refine .bind (ensureAbsent_carries fun _ => rfl) fun _ => ?_
    refine .bind (sealValue_carries _ _) fun _ => ?_
    exact writeBack_carries hid (by rfl) (by rfl) actor now

theorem setPin_waits (service : Settings.Accepted) (id : UserId) (pin : String)
    (now : Timestamp) : (setPin service id pin now).Waits id := by
  refine .ofOutcome_bind fun _ => .getUser_bind fun user hid => ?_
  exact .bind (.ofOutcome _) fun _ => storePin_carries _ hid pin now

theorem generatePin_waits (service : Settings.Accepted) (id : UserId) (now : Timestamp) :
    (generatePin service id now).Waits id := by
  refine .getUser_bind fun user hid => ?_
  exact .bind (.ofOutcome _) fun _ => storeFreshPin_carries _ hid now pinAttempts

theorem clearPin_waits (id : UserId) (now : Timestamp) : (clearPin id now).Waits id :=
  .getUser_bind fun _ hid => writeBack_carries hid (by rfl) (by rfl) _ now

/-- The request changes the credentials of a user. -/
inductive Request.ChangesCredentials (id : UserId) : Request → Prop
  | changePassword (current new : String) : ChangesCredentials id (.changePassword id current new)
  | updateEmail (email actor : String) : ChangesCredentials id (.updateEmail id email actor)
  | setPin (pin : String) : ChangesCredentials id (.setPin id pin)
  | generatePin : ChangesCredentials id (.generatePin id)
  | clearPin : ChangesCredentials id (.clearPin id)

/-- The request suspends or deletes a user. -/
inductive Request.Blocks (id : UserId) : UserStatus → Request → Prop
  | suspend (actor : String) : Blocks id .suspended (.setUserStatus id .suspended actor)
  | delete (actor : String) : Blocks id .deleted (.deleteUser id actor)

theorem Request.Blocks.ne_active {request : Request} (h : request.Blocks id status) :
    status ≠ .active := by
  cases h with
  | suspend => nofun
  | delete => nofun

variable {service : Settings.Accepted} {submission : Submission}

theorem program_waits (h : submission.request.ChangesCredentials id) :
    (submission.program service).Waits id := by
  obtain ⟨request, now, entropy⟩ := submission
  cases h with
  | changePassword current new => exact (changePassword_waits service id current new now).program _
  | updateEmail email actor => exact (updateEmail_waits service id email actor now).program _
  | setPin pin => exact (setPin_waits service id pin now).program _
  | generatePin => exact (generatePin_waits service id now).program _
  | clearPin => exact (clearPin_waits id now).program _

/-- A failed call fails the operation that it is the last call of. -/
theorem exists_error {β : Type} {entropy : Entropy} (reply : Outcome β) :
    ∃ outcome rest, Program.done (reply, entropy) = .done (outcome, rest) ∧
      ∀ e, reply = .error e → ∃ e', outcome = .error e' :=
  ⟨reply, entropy, rfl, fun e he => ⟨e, he⟩⟩

theorem program_blocks (h : submission.request.Blocks id status) :
    (submission.program service).Blocks id status := by
  obtain ⟨request, now, entropy⟩ := submission
  cases h with
  | delete actor => exact .write (.delete actor now) exists_error
  | suspend actor =>
    refine .read fun user hid hstatus => ?_
    have hwrites : Writes id .suspended
        (.updateUser ({ user with status := .suspended }.updated actor now)) :=
      .update ({ user with status := .suspended }.updated actor now) hid
    show Program.Blocks id .suspended ((if user.status = .suspended then pure user
      else call (.updateUser ({ user with status := .suspended }.updated actor now)) :
        Operation User) entropy)
    rw [if_neg hstatus]
    exact .write hwrites exists_error

end Authentication

end Identity

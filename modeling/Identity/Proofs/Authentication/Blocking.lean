/-
Identity/Proofs/Authentication/Blocking.lean

Suspending or deleting a user whose credentials are changed at the same time.

The store does not notice that another record has been written since a record
was read, so a change that has read an active user can make the user active
again after a suspension.  This is a race that can happen
(`not_blocksPersist`).

It is the only way in which a suspension or a deletion is lost
(`blocked_unless_overtaken`).  In every interleaving the status is the old one
up to the write of the block (`Stage.pending`).  From then on it is the new one
(`Stage.blocked`): whoever reads the record carries the new status along, and
only those who have read before carry the old one.
-/
import Identity.Proofs.Authentication.Status

namespace Identity

variable {store after : Store} {id : UserId} {status : UserStatus} {c : Call}

/-! ### Histories -/

section Histories

variable {ι : Type} {i b : ι} {log : List (ι × Exchange)} {entry : ι × Exchange}

/-- The call has written the record of a user. -/
def Exchange.Wrote (id : UserId) (e : Exchange) : Prop :=
  (∃ status, Writes id status e.call) ∧ ∃ a, e.reply = .ok a

/-- The call has read the record of a user. -/
def Exchange.Read (id : UserId) (e : Exchange) : Prop := e.call = .getUser id

/-- One has read the record before the other has written it. -/
def ReadBefore (id : UserId) (log : List (ι × Exchange)) (i b : ι) : Prop :=
  ∃ write read : Exchange, write.Wrote id ∧ read.Read id ∧
    [(b, write), (i, read)].Sublist log

/-- Somebody has read the record before `b` has written it, and has written it afterwards. -/
def Overtaken (id : UserId) (log : List (ι × Exchange)) (b : ι) : Prop :=
  ∃ i ≠ b, ∃ late write read : Exchange, late.Wrote id ∧ write.Wrote id ∧ read.Read id ∧
    [(i, late), (b, write), (i, read)].Sublist log

theorem ReadBefore.cons (h : ReadBefore id log i b) : ReadBefore id (entry :: log) i b := by
  obtain ⟨write, read, hwrite, hread, hlog⟩ := h
  exact ⟨write, read, hwrite, hread, hlog.cons entry⟩

theorem Overtaken.cons (h : Overtaken id log b) : Overtaken id (entry :: log) b := by
  obtain ⟨i, hne, late, write, read, hlate, hwrite, hread, hlog⟩ := h
  exact ⟨i, hne, late, write, read, hlate, hwrite, hread, hlog.cons entry⟩

/-- Whoever has read before and writes now overtakes. -/
theorem ReadBefore.overtaken (h : ReadBefore id log i b) (hne : i ≠ b) {e : Exchange}
    (he : e.Wrote id) : Overtaken id ((i, e) :: log) b := by
  obtain ⟨write, read, hwrite, hread, hlog⟩ := h
  exact ⟨i, hne, e, write, read, he, hwrite, hread, hlog.cons_cons (i, e)⟩

end Histories

/-! ### Stages of a block -/

section Stages

variable {ι : Type} {A : ι → Type} {log : List (ι × Exchange)} {i b : ι} {β : Type}
variable {p : Program β} {entry : ι × Exchange}

/-- What somebody else has in hand while the user is still active. -/
def BeforeBlock (id : UserId) (log : List (ι × Exchange)) (i : ι) (p : Program β) : Prop :=
  p.Waits id ∨ (∃ read : Exchange, read.Read id ∧ (i, read) ∈ log) ∧ p.Carries id .active

/-- What somebody else has in hand when the user has been blocked. -/
def AfterBlock (id : UserId) (status : UserStatus) (b : ι) (log : List (ι × Exchange)) (i : ι)
    (p : Program β) : Prop :=
  p.Waits id ∨ p.Carries id status ∨ ReadBefore id log i b ∧ p.Carries id .active

theorem BeforeBlock.cons (h : BeforeBlock id log i p) : BeforeBlock id (entry :: log) i p :=
  h.imp_right fun ⟨⟨read, hread, hmem⟩, hcarries⟩ =>
    ⟨⟨read, hread, List.mem_cons_of_mem entry hmem⟩, hcarries⟩

theorem AfterBlock.cons (h : AfterBlock id status b log i p) :
    AfterBlock id status b (entry :: log) i p :=
  h.imp_right fun h => h.imp_right fun ⟨hbefore, hcarries⟩ => ⟨hbefore.cons, hcarries⟩

/-- Whoever has read an active user has done so before the write that comes now. -/
theorem BeforeBlock.written (h : BeforeBlock id log i p) {e : Exchange} (he : e.Wrote id) :
    AfterBlock id status b ((b, e) :: log) i p :=
  h.imp_right fun ⟨⟨read, hread, hmem⟩, hcarries⟩ =>
    .inr ⟨⟨e, read, he, hread, (List.singleton_sublist.mpr hmem).cons_cons (b, e)⟩, hcarries⟩

variable [DecidableEq ι] {pool : Pool ι fun i => Outcome (A i) × Entropy}

/-- How far a block has come in an interleaving. -/
inductive Stage (id : UserId) (status : UserStatus) (b : ι) (log : List (ι × Exchange))
    (pool : Pool ι fun i => Outcome (A i) × Entropy) : Prop
  | pending (stored : HasStatus pool.store id .active)
      (blocker : (pool.programs b).Blocks id status)
      (others : ∀ i ≠ b, BeforeBlock id log i (pool.programs i))
  | blocked (stored : HasStatus pool.store id status) (blocker : ∃ r, pool.programs b = .done r)
      (others : ∀ i ≠ b, AfterBlock id status b log i (pool.programs i))
  | overtaken (h : Overtaken id log b)
  | failed (h : ∃ e rest, pool.programs b = .done (.error e, rest))

/-- The blocker makes a call. -/
theorem Stage.step_blocker {next : Outcome c.Reply → Program (Outcome (A b) × Entropy)}
    (hstatus : status ≠ .active) (hsound : pool.store.Sound)
    (h : Stage id status b log pool) (hnext : pool.programs b = .call c next) :
    Stage id status b ((b, ⟨c, (pool.store.respond c).1⟩) :: log) (pool.answer b c next) := by
  cases h with
  | overtaken h => exact .overtaken h.cons
  | failed h =>
    obtain ⟨e, rest, h⟩ := h
    cases h.symm.trans hnext
  | blocked _ blocker _ =>
    obtain ⟨r, h⟩ := blocker
    cases h.symm.trans hnext
  | pending stored blocker others =>
    rw [hnext] at blocker
    rcases blocker.answer stored hstatus.symm with
      ⟨hread, hblocks⟩ | ⟨hwrites, outcome, rest, hdone, herror⟩
    · refine .pending ?_ ?_ fun i hne => ?_
      · rw [Pool.answer_store, hread]
        exact stored
      · rw [Pool.answer_self]
        exact hblocks
      · rw [Pool.answer_of_ne _ _ hne]
        exact (others i hne).cons
    · cases hr : (pool.store.respond c).1 with
      | error e =>
        obtain ⟨e', rfl⟩ := herror e hr
        exact .failed ⟨e', rest, by rw [Pool.answer_self, hdone]⟩
      | ok a =>
        refine .blocked ?_ ⟨_, by rw [Pool.answer_self, hdone]⟩ fun i hne => ?_
        · exact hwrites.hasStatus hsound (Prod.ext hr rfl)
        · rw [Pool.answer_of_ne _ _ hne]
          exact (others i hne).written ⟨⟨status, hwrites⟩, a, rfl⟩

/-- What is true of all others stays true when it is true of the one who makes a call. -/
theorem others_answer {next : Outcome c.Reply → Program (Outcome (A i) × Entropy)}
    {P Q : ∀ i, Program (Outcome (A i) × Entropy) → Prop}
    (others : ∀ j ≠ b, P j (pool.programs j)) (himp : ∀ j p, P j p → Q j p)
    (hself : Q i (next (pool.store.respond c).1)) :
    ∀ j ≠ b, Q j ((pool.answer i c next).programs j) := by
  intro j hne
  by_cases hji : j = i
  · subst hji
    rw [Pool.answer_self]
    exact hself
  · rw [Pool.answer_of_ne _ _ hji]
    exact himp j _ (others j hne)

/-- Somebody else makes a call. -/
theorem Stage.step_other {next : Outcome c.Reply → Program (Outcome (A i) × Entropy)}
    (hsound : pool.store.Sound) (hne : i ≠ b) (h : Stage id status b log pool)
    (hnext : pool.programs i = .call c next) :
    Stage id status b ((i, ⟨c, (pool.store.respond c).1⟩) :: log) (pool.answer i c next) := by
  have hblocker : (pool.answer i c next).programs b = pool.programs b :=
    pool.answer_of_ne c hne.symm next
  cases h with
  | overtaken h => exact .overtaken h.cons
  | failed h => exact .failed (hblocker ▸ h)
  | pending stored blocker others =>
    have hself := others i hne
    rw [hnext] at hself
    rcases hself with hwaits | ⟨⟨read, hread, hmem⟩, hcarries⟩
    · obtain ⟨hread, hsame, hcarries⟩ := hwaits.answer stored
      refine .pending (by rw [Pool.answer_store, hsame]; exact stored) (hblocker ▸ blocker) ?_
      exact others_answer others (fun _ _ => .cons)
        (.inr ⟨⟨⟨c, _⟩, hread, List.mem_cons_self⟩, hcarries⟩)
    · obtain ⟨hc, hrest⟩ := hcarries.answer
      refine .pending (stored.respond hsound hc) (hblocker ▸ blocker) ?_
      exact others_answer others (fun _ _ => .cons)
        (.inr ⟨⟨read, hread, List.mem_cons_of_mem _ hmem⟩, hrest _⟩)
  | blocked stored blocker others =>
    have hself := others i hne
    rw [hnext] at hself
    rcases hself with hwaits | hcarries | ⟨hbefore, hcarries⟩
    · obtain ⟨-, hsame, hcarries⟩ := hwaits.answer stored
      refine .blocked (by rw [Pool.answer_store, hsame]; exact stored) (hblocker ▸ blocker) ?_
      exact others_answer others (fun _ _ => .cons) (.inr (.inl hcarries))
    · obtain ⟨hc, hrest⟩ := hcarries.answer
      refine .blocked (stored.respond hsound hc) (hblocker ▸ blocker) ?_
      exact others_answer others (fun _ _ => .cons) (.inr (.inl (hrest _)))
    -- the old status is in hand: a write of it that succeeds overtakes the block
    · obtain ⟨hc, hrest⟩ := hcarries.answer
      have hafter : ∀ j ≠ b, AfterBlock id status b ((i, ⟨c, (pool.store.respond c).1⟩) :: log) j
          ((pool.answer i c next).programs j) :=
        others_answer others (fun _ _ => .cons) (.inr (.inr ⟨hbefore.cons, hrest _⟩))
      rcases hc with hreads | hwrites
      · refine .blocked ?_ (hblocker ▸ blocker) hafter
        rw [Pool.answer_store, hreads pool.store]
        exact stored
      · cases hr : (pool.store.respond c).1 with
        | error e =>
          rw [hr] at hafter
          refine .blocked ?_ (hblocker ▸ blocker) hafter
          have hsame : (pool.store.respond c).2 = pool.store :=
            Operation.respond_error (Prod.ext hr rfl)
          rw [Pool.answer_store, hsame]
          exact stored
        | ok a => exact .overtaken (hbefore.overtaken hne ⟨⟨_, hwrites⟩, a, rfl⟩)

theorem Stage.of_interleaving {start : Pool ι fun i => Outcome (A i) × Entropy}
    (hstatus : status ≠ .active) (hsound : start.store.Sound)
    (hstart : Stage id status b [] start) (h : Interleaving start log pool) :
    Stage id status b log pool := by
  induction h with
  | start => exact hstart
  | @step log pool i c next h hnext ih =>
    by_cases hib : i = b
    · subst hib
      exact ih.step_blocker hstatus (h.sound hsound) hnext
    · exact ih.step_other (h.sound hsound) hib hnext

end Stages

namespace Authentication

/-! ### Races -/

section Races

variable {ι : Type} [DecidableEq ι] {service : Settings.Accepted} {submissions : ι → Submission}
variable {b : ι} {before : Store} {log : List (ι × Exchange)}
variable {outcome : ∀ i, Outcome (submissions i).request.Answer}

/-- A block of an active user that succeeds, in a race with changes of the credentials of
this user. -/
structure BlockRace (service : Settings.Accepted) (submissions : ι → Submission) (b : ι)
    (id : UserId) (status : UserStatus) (before : Store) (log : List (ι × Exchange))
    (outcome : ∀ i, Outcome (submissions i).request.Answer) (after : Store) : Prop where
  reached : before.Reached
  stored : HasStatus before id .active
  block : (submissions b).request.Blocks id status
  others : ∀ i ≠ b, (submissions i).request.ChangesCredentials id
  race : Race service submissions before log outcome after
  succeeded : ∃ answer, outcome b = .ok answer

/-- Whoever is suspended or deleted stays so, whatever the order of the calls. -/
def BlocksPersist : Prop :=
  ∀ (ι : Type) [DecidableEq ι] (service : Settings.Accepted) (submissions : ι → Submission)
    (b : ι) (id : UserId) (status : UserStatus) (before : Store) (log : List (ι × Exchange))
    (outcome : ∀ i, Outcome (submissions i).request.Answer) (after : Store),
    BlockRace service submissions b id status before log outcome after →
      HasStatus after id status

/-- **A block stays unless it is overtaken**: unless somebody has read the record before the
block was written, and writes it afterwards. -/
theorem blocked_unless_overtaken
    (h : BlockRace service submissions b id status before log outcome after)
    (hnot : ¬ Overtaken id log b) : HasStatus after id status := by
  obtain ⟨rest, hrace⟩ := h.race
  have hstart : Stage id status b [] ⟨fun i => (submissions i).program service, before⟩ :=
    .pending h.stored (program_blocks h.block) fun i hne => .inl (program_waits (h.others i hne))
  cases Stage.of_interleaving h.block.ne_active h.reached.sound hstart hrace with
  | pending _ blocker _ => cases blocker
  | blocked stored _ _ => exact stored
  | overtaken hovertaken => exact absurd hovertaken hnot
  | failed hfailed =>
    obtain ⟨e, rest', hfailed⟩ := hfailed
    obtain ⟨answer, hok⟩ := h.succeeded
    cases hok.symm.trans (congrArg Prod.fst (Program.done.inj hfailed))

end Races

/-! ### A suspension and a change -/

/-- The suspension of a user, and the removal of the PIN. -/
def suspendAndClear (id : UserId) : Bool → Submission
  | true => ⟨.setUserStatus id .suspended "root", .epoch, ⟨[]⟩⟩
  | false => ⟨.clearPin id, .epoch, ⟨[]⟩⟩

/-- The record that the suspension writes. -/
def suspendedRecord (user : User) : User :=
  { user with status := .suspended }.updated "root" .epoch

/-- The record that the removal of the PIN writes. -/
def clearedRecord (user : User) : User :=
  { user with pin := none }.updated user.username .epoch

theorem respond_updateUser_alone {old new : User} (hstore : store.users = [old])
    (hid : new.id = old.id) : store.respond (.updateUser new) =
      (.ok new, { store with users := [new] }) := by
  have hfound : store.user? new.id = some old := by
    rw [Store.user?, hstore, List.find?_singleton, if_pos (by simp [hid])]
  have hupdate : store.respond (.updateUser new) =
      (.ok new, { store with users := Store.replaceUser store.users new }) := by
    refine Store.respond_updateUser_of_apart hfound fun stored hs hne => ?_
    rw [hstore, List.mem_singleton] at hs
    exact absurd (hs ▸ hid.symm) hne
  rw [hupdate, hstore, Store.replaceUser, List.map_singleton, if_pos hid.symm]

theorem user?_alone {user : User} (hstore : store.users = [user]) :
    store.user? user.id = some user := by
  rw [Store.user?, hstore, List.find?_singleton, if_pos (beq_self_eq_true user.id)]

/-- What the suspension and the removal of the PIN answer. -/
def answers (id : UserId) (suspended cleared : User) :
    ∀ i, Outcome (suspendAndClear id i).request.Answer
  | true => .ok suspended
  | false => .ok cleared

variable {user : User} {log : List (Bool × Exchange)}

theorem blockRace_suspendAndClear {service : Settings.Accepted} {suspended cleared : User}
    (hreached : store.Reached) (hstore : store.users = [user]) (hactive : user.status = .active)
    (hrace : Race service (suspendAndClear user.id) store log
      (answers user.id suspended cleared) after) :
    BlockRace service (suspendAndClear user.id) true user.id .suspended store log
      (answers user.id suspended cleared) after where
  reached := hreached
  stored := ⟨user, user?_alone hstore, hactive⟩
  block := .suspend "root"
  others := fun
    | true, hne => absurd rfl hne
    | false, _ => .clearPin
  race := hrace
  succeeded := ⟨suspended, rfl⟩

/-- What the two have still to do when both have read the record. -/
def writing (user : User) :
    ∀ i, Program (Outcome (suspendAndClear user.id i).request.Answer × Entropy)
  | true => .call (.updateUser (suspendedRecord user)) fun reply => .done (reply, ⟨[]⟩)
  | false => .call (.updateUser (clearedRecord user)) fun reply => .done (reply, ⟨[]⟩)

theorem interleaving_writing (service : Settings.Accepted) (hstore : store.users = [user])
    (hactive : user.status = .active) :
    Interleaving ⟨fun i => (suspendAndClear user.id i).program service, store⟩
      [(false, ⟨.getUser user.id, .ok user⟩), (true, ⟨.getUser user.id, .ok user⟩)]
      ⟨writing user, store⟩ := by
  obtain ⟨id, username, name, email, password, pin, status, createdAt, createdBy, updatedAt,
    updatedBy⟩ := user
  obtain rfl : status = .active := hactive
  have hget := Store.respond_getUser (user?_alone hstore)
  have h : Interleaving ⟨fun i => (suspendAndClear id i).program service, store⟩ []
    ⟨fun i => (suspendAndClear id i).program service, store⟩ := .start
  convert (h.step_of (i := true) (c := .getUser id) rfl hget).step_of (i := false)
    (c := .getUser id) rfl hget using 2
  funext i
  cases i with
  | true => rfl
  | false => rfl

/-- Between reading the record and writing it back, the removal of the PIN misses the
suspension. -/
theorem exists_race_overtaken (service : Settings.Accepted) (hstore : store.users = [user])
    (hactive : user.status = .active) : ∃ log after,
      Race service (suspendAndClear user.id) store log
        (answers user.id (suspendedRecord user) (clearedRecord user)) after ∧
      after.users = [clearedRecord user] := by
  have hsuspended := (interleaving_writing service hstore hactive).step_of (i := true) rfl
    (respond_updateUser_alone hstore rfl)
  have hcleared := hsuspended.step_of (i := false) rfl (respond_updateUser_alone rfl rfl)
  refine ⟨_, _, race_of_interleaving (fun _ => ⟨[]⟩) hcleared ?_, rfl⟩
  intro i
  cases i with
  | true => rfl
  | false => rfl

/-- The removal of the PIN misses the suspension, but is over before the suspension writes. -/
theorem exists_race_in_time (service : Settings.Accepted) (hstore : store.users = [user])
    (hactive : user.status = .active) : ∃ log after,
      Race service (suspendAndClear user.id) store log
        (answers user.id (suspendedRecord user) (clearedRecord user)) after ∧
      log.map Prod.fst = [true, false, false, true] := by
  have hcleared := (interleaving_writing service hstore hactive).step_of (i := false) rfl
    (respond_updateUser_alone hstore rfl)
  have hsuspended := hcleared.step_of (i := true) rfl (respond_updateUser_alone rfl rfl)
  refine ⟨_, _, race_of_interleaving (fun _ => ⟨[]⟩) hsuspended ?_, rfl⟩
  intro i
  cases i with
  | true => rfl
  | false => rfl

/-- A store with an active user and nobody else. -/
theorem exists_alone : ∃ store user, Store.Reached store ∧ store.users = [user] ∧
    user.status = .active := by
  obtain ⟨user, rest, store, hrun, husers, hfresh⟩ := signUp_alice
  have hreached := Store.reached_empty.run (signUp plainService alice .epoch) plainEntropy
  rw [hrun] at hreached
  exact ⟨store, user, hreached, husers, hfresh.status⟩

/-- **Blocks do not persist**: a change that has read the active user makes the user active
again. -/
theorem not_blocksPersist : ¬ BlocksPersist := by
  intro h
  obtain ⟨store, user, hreached, hstore, hactive⟩ := exists_alone
  obtain ⟨log, after, hrace, hafter⟩ := exists_race_overtaken plainService hstore hactive
  obtain ⟨stored, hfound, hsuspended⟩ := h Bool _ _ _ _ _ _ _ _ _
    (blockRace_suspendAndClear hreached hstore hactive hrace)
  have hcleared : after.user? user.id = some (clearedRecord user) := user?_alone hafter
  cases hfound.symm.trans hcleared
  cases hsuspended.symm.trans hactive

/-- A suspension is not lost when the other one is over before it writes. -/
theorem blocked_unless_overtaken_alice : ∃ (user : User) (before : Store)
    (log : List (Bool × Exchange))
    (outcome : ∀ i, Outcome (suspendAndClear user.id i).request.Answer) (after : Store),
    BlockRace plainService (suspendAndClear user.id) true user.id .suspended before log outcome
      after ∧ ¬ Overtaken user.id log true ∧ HasStatus after user.id .suspended := by
  obtain ⟨store, user, hreached, hstore, hactive⟩ := exists_alone
  obtain ⟨log, after, hrace, hlog⟩ := exists_race_in_time plainService hstore hactive
  have hblock := blockRace_suspendAndClear hreached hstore hactive hrace
  have hnot : ¬ Overtaken user.id log true := by
    rintro ⟨i, hne, late, write, read, -, -, -, hsublist⟩
    have horder : [i, true, i].Sublist [true, false, false, true] :=
      hlog ▸ hsublist.map Prod.fst
    cases i with
    | true => exact hne rfl
    | false => exact absurd horder (by decide)
  exact ⟨user, store, log, _, after, hblock, hnot, blocked_unless_overtaken hblock hnot⟩

end Authentication

end Identity

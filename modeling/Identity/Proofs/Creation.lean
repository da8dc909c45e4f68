/-
Identity/Proofs/Creation.lean

When a stored record was created, and by whom.

Users and roles are the *subjects* that have a creation.  The services note it in
the record when they store it for the first time, and carry it over whenever they
edit a record that they have read.  But a record can also be handed in as an
update, and the store that keeps everything in memory puts it in the place of the
old one as it is, with whatever creation it comes with.  So a command that
succeeds either keeps all creations or stores the one that it hands in
(`Effect`), and from this follows

    Kept store after  ↔  the command fails, or hands in what is stored

and, along a run, that creations are kept as long as callers hand in the records
with the creation that they have.

The statements of the database do not name the two columns, so there nothing can
be handed in: what is left is the new record with the creation of the old one.

Main result: `creation_kept`.
-/
import Identity.Proofs.Atomicity
import Identity.Proofs.Authentication.Effects
import Identity.Proofs.Authorization.Assignments
import Identity.Proofs.Database.Updates
import Identity.Proofs.Seed.Plans

namespace Identity

/-- When a record was created, and by whom. -/
structure Creation where
  createdAt : Timestamp
  createdBy : String
  deriving DecidableEq

/-- The creation of a user. -/
def User.creation (user : User) : Creation := ⟨user.createdAt, user.createdBy⟩

/-- The creation of a role. -/
def Role.creation (role : Role) : Creation := ⟨role.createdAt, role.createdBy⟩

@[simp] theorem User.creation_updated (user : User) (actor : String) (now : Timestamp) :
    (user.updated actor now).creation = user.creation := by
  unfold creation
  rw [updated_createdAt, updated_createdBy]

@[simp] theorem Role.creation_updated (role : Role) (actor : String) (now : Timestamp) :
    (role.updated actor now).creation = role.creation := rfl

namespace Creation

open Operation Authentication Authorization

/-- What is stored with its creation. -/
inductive Subject where
  | user (id : UserId)
  | role (id : RoleId)
  deriving DecidableEq

/-- The creation of a subject, if it is stored. -/
def of? (store : Store) : Subject → Option Creation
  | .user id => (store.user? id).map User.creation
  | .role id => (store.role? id).map Role.creation

variable {store after : Store} {subject : Subject} {c c' : Creation}

/-! ### Stores that keep creations -/

/-- What is stored before and after has the same creation. -/
def Kept (store after : Store) : Prop :=
  ∀ subject c c', of? store subject = some c → of? after subject = some c' → c' = c

/-- A subject has been stored with this creation, and nothing else has changed about creations. -/
structure Handed (subject : Subject) (c : Creation) (store after : Store) : Prop where
  stored : of? after subject = some c
  others : ∀ other ≠ subject, of? after other = of? store other

theorem Kept.refl (store : Store) : Kept store store := by
  intro subject c c' h h'
  exact Option.some.inj (h'.symm.trans h)

/-- All creations are kept when the one that is handed in is the one that is stored, if any. -/
theorem Handed.kept_iff (h : Handed subject c store after) :
    Kept store after ↔ ∀ c', of? store subject = some c' → c = c' := by
  constructor
  · intro hkept c' hc'
    exact hkept subject c' c hc' h.stored
  · intro hsame other d d' hd hd'
    by_cases hother : other = subject
    · subst hother
      rw [← hsame d hd]
      exact Option.some.inj (hd'.symm.trans h.stored)
    · rw [h.others other hother] at hd'
      exact Kept.refl store other d d' hd hd'

theorem Handed.kept (h : Handed subject c store after) (hsame : of? store subject = some c) :
    Kept store after :=
  h.kept_iff.mpr fun _ hc' => Option.some.inj (hsame.symm.trans hc')

/-- Additional records do not change what is found. -/
theorem Kept.of_extends (h : store.Extends after) : Kept store after := by
  rintro (id | id) c c' hc hc'
  · obtain ⟨user, huser, rfl⟩ := Option.map_eq_some_iff.mp hc
    have hfound : after.user? id = some user := h.users.find?_eq_some huser
    rw [of?, hfound] at hc'
    exact (Option.some.inj hc').symm
  · obtain ⟨role, hrole, rfl⟩ := Option.map_eq_some_iff.mp hc
    have hfound : after.role? id = some role := h.roles.find?_eq_some hrole
    rw [of?, hfound] at hc'
    exact (Option.some.inj hc').symm

theorem Kept.of_inserted {user : User} (h : Inserted store user after) : Kept store after := by
  rw [h.after]
  exact .of_extends (.add_user store user)

theorem Kept.of_roleInserted {role : Role} (h : RoleInserted store role after) :
    Kept store after := by
  rw [h.after]
  exact .of_extends (.add_role store role)

/-- Grants have no part in it. -/
theorem Kept.of_grants (grants : List Grant) : Kept store { store with grants := grants } := by
  rintro (id | id)
  · exact Kept.refl store (.user id)
  · exact Kept.refl store (.role id)

/-- A role that is removed is not stored any more, and the others are found as before. -/
theorem Kept.of_withoutRole (id : RoleId) : Kept store (withoutRole store id) := by
  rintro (other | other) c c' hc hc'
  · exact Kept.refl store (.user other) c c' hc hc'
  · by_cases hother : other = id
    · obtain ⟨role, hrole, -⟩ := Option.map_eq_some_iff.mp hc'
      have hne : (role.id != id) = true := (List.mem_filter.mp (mem_of_role? hrole)).2
      rw [id_of_role? hrole, hother, bne_self_eq_false] at hne
      cases hne
    · rw [of?, role?_withoutRole hother] at hc'
      exact Kept.refl store (.role other) c c' hc hc'

/-- The record of a user that is replaced brings its creation with it. -/
theorem Handed.of_replaced {old new : User} (h : Replaced store old new after) :
    Handed (.user new.id) new.creation store after := by
  rw [h.after]
  constructor
  · exact congrArg (Option.map User.creation) (Store.find?_replace_self User.id h.stored)
  · rintro (id | id) hother
    · have hne : id ≠ new.id := ne_of_apply_ne Subject.user hother
      exact congrArg (Option.map User.creation) (Store.find?_replace_of_ne User.id hne)
    · rfl

/-- The record of a role that is replaced brings its creation with it. -/
theorem Handed.of_roleReplaced {old new : Role} (h : RoleReplaced store old new after) :
    Handed (.role new.id) new.creation store after := by
  rw [h.after]
  constructor
  · exact congrArg (Option.map Role.creation) (Store.find?_replace_self Role.id h.stored)
  · rintro (id | id) hother
    · rfl
    · have hne : id ≠ new.id := ne_of_apply_ne Subject.role hother
      exact congrArg (Option.map Role.creation) (Store.find?_replace_of_ne Role.id hne)

/-- A record that is replaced by one with the same creation. -/
theorem Kept.of_replaced {old new : User} (h : Replaced store old new after)
    (hsame : new.creation = old.creation) : Kept store after := by
  refine (Handed.of_replaced h).kept ?_
  rw [of?, h.stored, Option.map_some, hsame]

theorem Kept.of_roleReplaced {old new : Role} (h : RoleReplaced store old new after)
    (hsame : new.creation = old.creation) : Kept store after := by
  refine (Handed.of_roleReplaced h).kept ?_
  rw [of?, h.stored, Option.map_some, hsame]

/-! ### Commands -/

/-- What can be done to a store: a call, or something that is asked of one of the services. -/
inductive Command where
  | call (c : Call)
  | act (action : Action) (now : Timestamp)
  | ask (name : String) (query : Query)
  | seed (plan : Seed.Plan) (actor : String) (now : Timestamp)

namespace Command

/-- What a command answers when it does not fail. -/
abbrev Answer : Command → Type
  | call c => c.Reply
  | act action _ => action.Answer
  | ask _ query => query.Answer
  | seed .. => Seed.Report

/-- Carries out a command. -/
def perform (service : Settings.Accepted) : (command : Command) → Operation command.Answer
  | call c => Operation.call c
  | act action now => action.perform service now
  | ask name query => query.ask name
  | seed plan actor now => Seed.run service plan actor now

/-- The record that is handed in as an update: what it is of, and its creation. -/
def handed? : Command → Option (Subject × Creation)
  | call (.updateUser user) | act (.account (.updateUser user _)) _ =>
    some (.user user.id, user.creation)
  | call (.updateRole role) | act (.access (.updateRole role _ _)) _ =>
    some (.role role.id, role.creation)
  | _ => none

/-- A record is handed in with the creation that is stored. -/
def Faithful (store : Store) (command : Command) : Prop :=
  ∀ subject c c', command.handed? = some (subject, c) → of? store subject = some c' → c = c'

end Command

/-! ### What commands do -/

/-- What a command that succeeds has done to the creations. -/
def Effect : Option (Subject × Creation) → Store → Store → Prop
  | none, store, after => Kept store after
  | some (subject, c), store, after => Handed subject c store after

theorem call_yields (c : Call) (store : Store) :
    (Operation.call c).Yields store fun _ => Effect (Command.call c).handed? store := by
  cases c with
  | createUser user =>
    exact (createUser_yields user).mono fun _ _ h => .of_inserted h.2
  | updateUser user =>
    refine .call fun _ after h => ?_
    obtain ⟨⟨old, hold⟩, -, -, hafter⟩ := Store.updateUser_eq_ok.mp (Store.changed_eq_ok h)
    exact Handed.of_replaced ⟨hold, hafter⟩
  | deleteUser id actor now =>
    refine (deleteUser_yields id actor now).mono ?_
    rintro _ after ⟨old, -, hreplaced⟩
    exact Kept.of_replaced hreplaced rfl
  | createRole role =>
    refine .call fun _ after h => ?_
    obtain ⟨hapart, -, hafter⟩ := Store.createRole_eq_ok.mp (Store.changed_eq_ok h)
    exact Kept.of_roleInserted ⟨hapart, hafter⟩
  | updateRole role =>
    refine .call fun _ after h => ?_
    obtain ⟨⟨old, hold⟩, -, -, hafter⟩ := Store.updateRole_eq_ok.mp (Store.changed_eq_ok h)
    exact Handed.of_roleReplaced ⟨hold, hafter⟩
  | deleteRole id =>
    refine (deleteRole_yields id).mono ?_
    rintro _ after rfl
    exact Kept.of_withoutRole id
  | createGrant grant =>
    refine .call fun _ after h => ?_
    obtain ⟨-, -, -, rfl⟩ := Store.createGrant_eq_ok.mp (Store.changed_eq_ok h)
    exact Kept.of_grants _
  | deleteGrant username roleId =>
    refine .call fun _ after h => ?_
    obtain ⟨-, rfl⟩ := Store.deleteGrant_eq_ok.mp (Store.changed_eq_ok h)
    exact Kept.of_grants _
  | _ =>
    refine .call fun _ after h => ?_
    obtain rfl := congrArg Prod.snd h
    exact Kept.refl _

/-- Only an update hands in a record; all others have the effects that requests have. -/
theorem request_yields (service : Settings.Accepted) (now : Timestamp) (request : Request)
    (store : Store) :
    (request.perform service now).Yields store fun _ =>
      Effect (Command.act (.account request) now).handed? store := by
  by_cases hasked : ∃ user actor, request = .updateUser user actor
  · obtain ⟨user, actor, rfl⟩ := hasked
    refine (updateUser_yields user actor now).mono ?_
    rintro _ after ⟨rfl, -, old, hreplaced⟩
    have hhanded := Handed.of_replaced hreplaced
    rw [User.updated_id, User.creation_updated] at hhanded
    exact hhanded
  -- nothing is handed in, so the service stores what it has read or made itself
  · have hnothing : (Command.act (.account request) now).handed? = none := by
      cases request with
      | updateUser user actor => exact absurd ⟨user, actor, rfl⟩ hasked
      | _ => rfl
    rw [hnothing]
    refine (Authentication.perform_yields service now request store).mono ?_
    rintro answer after (_ | hinserted | ⟨hreplaced, hrewrites⟩ | hupdate)
    · exact Kept.refl store
    · exact Kept.of_inserted hinserted
    · exact Kept.of_replaced hreplaced (congrArg₂ mk hrewrites.createdAt hrewrites.createdBy)
    · exact absurd ⟨_, _, hupdate⟩ hasked

theorem setRoleStatus_keeps (id : RoleId) (status : RoleStatus) (actor : String)
    (now : Timestamp) :
    (setRoleStatus id status actor now).Yields store fun _ => Kept store := by
  refine (setRoleStatus_yields id status actor now).mono ?_
  rintro _ after (⟨rfl, -⟩ | ⟨old, hreplaced, rfl⟩)
  · exact Kept.refl after
  · exact Kept.of_roleReplaced hreplaced rfl

theorem change_yields (change : Change) (now : Timestamp) (store : Store) :
    change.perform.Yields store fun _ =>
      Effect (Command.act (.access change) now).handed? store := by
  cases change with
  | createRole draft actor now =>
    exact (createRole_yields draft actor now).mono fun _ _ h => Kept.of_roleInserted h.2
  | updateRole role actor now =>
    refine (updateRole_yields role actor now).mono ?_
    rintro _ after ⟨rfl, -, old, hreplaced⟩
    have hhanded := Handed.of_roleReplaced hreplaced
    rw [Role.creation_updated] at hhanded
    exact hhanded
  | activateRole id actor now => exact setRoleStatus_keeps id .active actor now
  | deactivateRole id actor now => exact setRoleStatus_keeps id .inactive actor now
  | deleteRole id => exact call_yields (.deleteRole id) store
  | assignRole name roleId actor now =>
    refine (assignRole_yields name roleId actor now).mono ?_
    rintro grant after ⟨-, -, hinserted⟩
    rw [hinserted.after]
    exact Kept.of_grants _
  | revokeRole name roleId =>
    refine (revokeRole_yields name roleId).mono ?_
    rintro _ after rfl
    exact Kept.of_grants _

/-! ### Steps -/

section Steps

variable {α : Type} {handed : Option (Subject × Creation)} {entropy rest : Entropy}
  {outcome : Outcome α}

/-- What a command has done to the creations, whether it has succeeded or failed. -/
def Leaves (handed : Option (Subject × Creation)) (store : Store) : Outcome α → Store → Prop
  | .ok _, after => Effect handed store after
  | .error _, after => Kept store after

theorem Leaves.of_yields {op : Operation α} (h : op.Yields store fun _ => Effect handed store)
    (hr : op.run entropy store = (outcome, rest, after)) : Leaves handed store outcome after := by
  cases outcome with
  | ok a => exact h.of_ok hr
  | error e =>
    obtain rfl := h.of_error hr
    exact Kept.refl after

/-- A plan writes more than once, so it can fail and still have added records. -/
theorem Leaves.of_kept (h : Kept store after) : Leaves none store outcome after := by
  cases outcome with
  | ok a => exact h
  | error e => exact h

end Steps

/-- **Every command** keeps the creations, or succeeds and stores the one that it hands in. -/
theorem perform_leaves (service : Settings.Accepted) (command : Command) (hsound : store.Sound)
    {entropy rest : Entropy} {outcome : Outcome command.Answer}
    (hr : (command.perform service).run entropy store = (outcome, rest, after)) :
    Leaves command.handed? store outcome after := by
  cases command with
  | call c => exact .of_yields (call_yields c store) hr
  | act action now =>
    cases action with
    | account request => exact .of_yields (request_yields service now request store) hr
    | access change => exact .of_yields (change_yields change now store) hr
  | ask name query =>
    cases hr.symm.trans (Query.run_ask query name entropy store)
    exact .of_kept (Kept.refl _)
  | seed plan actor now =>
    obtain ⟨-, hextends, -⟩ := (Seed.run_adds hsound service plan actor now).run hr
    exact .of_kept (.of_extends hextends)

/-- The creations are kept exactly when the command fails, or hands in what is stored. -/
theorem Leaves.kept_iff {command : Command} {outcome : Outcome command.Answer}
    (h : Leaves command.handed? store outcome after) :
    Kept store after ↔ ((∃ a, outcome = .ok a) → command.Faithful store) := by
  rcases outcome with e | a
  · exact iff_of_true h fun ⟨_, hok⟩ => nomatch hok
  · have heffect : Effect command.handed? store after := h
    rw [forall_prop_of_true ⟨a, rfl⟩, Command.Faithful]
    generalize command.handed? = handed at heffect
    rcases handed with _ | ⟨subject, c⟩
    · exact iff_of_true heffect nofun
    · refine (Handed.kept_iff heffect).trans ⟨?_, fun hfaithful c' => hfaithful subject c c' rfl⟩
      rintro hsame _ _ c' ⟨⟩
      exact hsame c'

/-! ### Runs -/

/-- A command that callers are allowed leads from one store to the next. -/
def Step (service : Settings.Accepted) (allowed : Store → Command → Prop) (store after : Store) :
    Prop :=
  ∃ command entropy, allowed store command ∧
    ((command.perform service).run entropy store).2.2 = after

/-- Some commands, whatever they hand in, lead from the empty store to this one. -/
def Reached (service : Settings.Accepted) (store : Store) : Prop :=
  Relation.ReflTransGen (Step service fun _ _ => True) Store.empty store

/-- Commands that callers are allowed lead from one store to another, and the subject is stored
all the while. -/
def Lasting (service : Settings.Accepted) (allowed : Store → Command → Prop) (subject : Subject) :
    Store → Store → Prop :=
  Relation.ReflTransGen fun store after =>
    Step service allowed store after ∧ (of? after subject).isSome

/-- Once a subject has been created its creation never changes as long as it is stored. -/
def Immutable (service : Settings.Accepted) (allowed : Store → Command → Prop) : Prop :=
  ∀ {store after : Store} {subject : Subject} {c : Creation}, Reached service store →
    of? store subject = some c → Lasting service allowed subject store after →
      of? after subject = some c

variable {service : Settings.Accepted} {allowed : Store → Command → Prop}

theorem Step.sound (hstep : Step service allowed store after) (hsound : store.Sound) :
    after.Sound := by
  obtain ⟨command, entropy, -, rfl⟩ := hstep
  exact hsound.run (command.perform service entropy)

theorem Reached.sound (h : Reached service store) : store.Sound := by
  induction h with
  | refl => exact Store.sound_empty
  | tail _ hstep ih => exact hstep.sound ih

/-- What is handed in faithfully changes no creation. -/
theorem Step.kept (hstep : Step service (fun store command => command.Faithful store) store after)
    (hsound : store.Sound) : Kept store after := by
  obtain ⟨command, entropy, hfaithful, rfl⟩ := hstep
  rcases hr : (command.perform service).run entropy store with ⟨outcome, rest, after⟩
  exact (perform_leaves service command hsound hr).kept_iff.mpr fun _ => hfaithful

/-- Along a run, by induction on it: the store before the last step is sound and has the creation,
and the step keeps it. -/
theorem immutable_of_faithful (service : Settings.Accepted) :
    Immutable service fun store command => command.Faithful store := by
  intro store after subject c hreached hc hlasting
  have hrun : after.Sound ∧ of? after subject = some c := by
    induction hlasting with
    | refl => exact ⟨hreached.sound, hc⟩
    | tail _ hlast ih =>
      obtain ⟨hsound, hbefore⟩ := ih
      obtain ⟨hstep, hstored⟩ := hlast
      obtain ⟨c', hc'⟩ := Option.isSome_iff_exists.mp hstored
      refine ⟨hstep.sound hsound, ?_⟩
      rw [hc', hstep.kept hsound subject c c' hbefore hc']
  exact hrun.2

/-! ### The two stores -/

/-- What becomes of creations: the store that keeps everything in memory changes one exactly when
an update succeeds that hands in another, so all last when callers hand in what is stored; the
database puts the creation of the old record into the new one itself. -/
structure CreationKept (service : Settings.Accepted) : Prop where
  step : ∀ {store after : Store} {command : Command} {entropy rest : Entropy}
    {outcome : Outcome command.Answer}, Reached service store →
    (command.perform service).run entropy store = (outcome, rest, after) →
      (Kept store after ↔ ((∃ a, outcome = .ok a) → command.Faithful store))
  run : Immutable service fun store command => command.Faithful store
  databaseUsers : ∀ (table : List User) (new : User),
    (Database.updateUser new).updateTable? (table.map Database.userRecord) =
      some ((table.map fun old => if old.id = new.id then new.createdAs old else old).map
        Database.userRecord)
  databaseRoles : ∀ (table : List Role) (new : Role),
    (Database.updateRole new).updateTable? (table.map Database.roleRecord) =
      some ((table.map fun old => if old.id = new.id then new.createdAs old else old).map
        Database.roleRecord)

/-- **Creations are kept** by every command but an update that hands in another one. -/
theorem creation_kept (service : Settings.Accepted) : CreationKept service where
  step hreached hr := (perform_leaves service _ hreached.sound hr).kept_iff
  run := immutable_of_faithful service
  databaseUsers := Database.updateTable?_users
  databaseRoles := Database.updateTable?_roles

/-- A user who has registered herself. -/
def alice : User :=
  { neighbour 1 "alice" none with createdAt := ⟨1000000000⟩, createdBy := "alice" }

/-- The only user is Alice. -/
def aliceStore : Store := Store.empty.answered [.createUser alice]

theorem reached_aliceStore : Reached plainService aliceStore :=
  .single ⟨.call (.createUser alice), ⟨[]⟩, trivial, rfl⟩

/-- Suspended by somebody else, Alice has still registered herself. -/
theorem creation_kept_suspended : ∃ after,
    Step plainService (fun store command => command.Faithful store) aliceStore after ∧
      (after.user? alice.id).map User.status = some .suspended ∧
        of? after (.user alice.id) = some ⟨⟨1000000000⟩, "alice"⟩ := by
  have hstep : Step plainService (fun store command => command.Faithful store) aliceStore _ :=
    ⟨.act (.account (.setUserStatus alice.id .suspended "root")) .epoch, ⟨[]⟩, nofun, rfl⟩
  refine ⟨_, hstep, by decide +kernel, ?_⟩
  exact (creation_kept plainService).run reached_aliceStore (by decide +kernel)
    (.single ⟨hstep, by decide +kernel⟩)

/-- Alice, as somebody else says that he has created her, a second later. -/
def forgedAlice : User := { alice with createdAt := ⟨2000000000⟩, createdBy := "mallory" }

/-- When callers may hand in any record, creations do change: an update of Alice is all it takes. -/
theorem creation_overwritten : ¬ Immutable plainService fun _ _ => True := by
  intro h
  have hstep : Step plainService (fun _ _ => True) aliceStore _ :=
    ⟨.call (.updateUser forgedAlice), ⟨[]⟩, trivial, rfl⟩
  have hkept : of? _ (.user alice.id) = some alice.creation :=
    h reached_aliceStore (by decide +kernel) (.single ⟨hstep, by decide +kernel⟩)
  exact absurd hkept (by decide +kernel)

end Creation

end Identity

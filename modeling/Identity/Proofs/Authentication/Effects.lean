/-
Identity/Proofs/Authentication/Effects.lean

What one step of a run can do to a store.

A request that succeeds has one of four effects: it reads, it adds a new user,
it rewrites the record of a user in a way of its own, or it stores a record
that its caller has edited.  An invariant of runs has to be checked for these
four, not for each request.
-/
import Identity.Proofs.Authentication.Request
import Identity.Proofs.Authentication.Specifications

namespace Identity.Authentication

variable {s : Settings} {store after : Store}

/-! ### Effects -/

/-- How the service rewrites a record: its creation stays, what else is not carried
over is well formed, and a password changes only as the answer says. -/
structure Rewrite (s : Settings) (old new : User) (notice : Request.Notice) : Prop where
  createdAt : new.createdAt = old.createdAt
  createdBy : new.createdBy = old.createdBy
  names : Named old → Named new
  email : new.email = old.email ∨ SealsEmail s new.email
  pin : new.pin = old.pin ∨ ∀ v ∈ new.pin, SealsPin s v
  password : (notice = .nothing ∧ new.password = old.password) ∨
    ∃ password, notice = .changed new.id password ∧ HashOf s password new.password

/-- What a request that succeeds has done to a store. -/
inductive Effect (s : Settings) (store : Store) (request : Request) (answer : request.Answer) :
    Store → Prop
  | read (records : ∀ user ∈ request.records answer, user ∈ store.users)
      (notice : request.notice answer = .nothing) :
      Effect s store request answer store
  | insert {user : User} {email password : String} {after : Store}
      (inserted : Inserted store user after) (fresh : Fresh s email password user)
      (records : ∀ shown ∈ request.records answer, shown = user)
      (notice : request.notice answer = .created user.id password) :
      Effect s store request answer after
  | rewrite {old new : User} {after : Store} (replaced : Replaced store old new after)
      (rewrites : Rewrite s old new (request.notice answer))
      (records : ∀ shown ∈ request.records answer, shown = new) :
      Effect s store request answer after
  | update {user old : User} {actor : String} {now : Timestamp} {after : Store}
      (asked : request = .updateUser user actor) (names : Named (user.updated actor now))
      (replaced : Replaced store old (user.updated actor now) after)
      (records : ∀ shown ∈ request.records answer, shown = user.updated actor now)
      (notice : request.notice answer = .nothing) :
      Effect s store request answer after

/-! ### Rewritten records -/

/-- Names that are well formed stay so when they are normalized again. -/
theorem Named.again {old new : User} (h : Named old)
    (husername : new.username = Username.normalize old.username)
    (hname : new.name = DisplayName.normalize old.name) : Named new := by
  rw [h.username] at husername
  rw [h.name] at hname
  exact {
    username := by rw [husername, h.username]
    validUsername := by rw [husername, h.validUsername]
    name := by rw [hname, h.name]
    validName := by rw [hname, h.validName] }

/-- An edited record that is stored again. -/
theorem rewrite_updated {old edited : User} {notice : Request.Notice} (actor : String)
    (now : Timestamp) (createdAt : edited.createdAt = old.createdAt)
    (createdBy : edited.createdBy = old.createdBy) (husername : edited.username = old.username)
    (hname : edited.name = old.name)
    (email : edited.email = old.email ∨ SealsEmail s edited.email)
    (pin : edited.pin = old.pin ∨ ∀ v ∈ edited.pin, SealsPin s v)
    (password : (notice = .nothing ∧ edited.password = old.password) ∨
      ∃ password, notice = .changed edited.id password ∧ HashOf s password edited.password) :
    Rewrite s old (edited.updated actor now) notice where
  createdAt := by simpa using createdAt
  createdBy := by simpa using createdBy
  names h := h.again (by simp [husername]) (by simp [hname])
  email := by simpa using email
  pin := by simpa using pin
  password := by simpa using password

/-- Rewriting a PIN carries everything else over. -/
theorem rewrite_pin {old : User} {pin : Option SealedValue} (hpin : ∀ v ∈ pin, SealsPin s v)
    (actor : String) (now : Timestamp) :
    Rewrite s old ({ old with pin := pin }.updated actor now) .nothing :=
  rewrite_updated actor now rfl rfl rfl rfl (.inl rfl) (.inr hpin) (.inl ⟨rfl, rfl⟩)

theorem pin_of_some {v : SealedValue} (h : SealsPin s v) : ∀ w ∈ some v, SealsPin s w := by
  rintro _ ⟨⟩
  exact h

/-! ### Steps -/

/-- The effect of a request that answers one of the stored records. -/
theorem Effect.of_record {request : Request} {answer : request.Answer} {user : User}
    (hrecords : request.records answer = [user]) (hnotice : request.notice answer = .nothing)
    (h : after = store ∧ user ∈ store.users) : Effect s store request answer after := by
  obtain ⟨rfl, hmem⟩ := h
  refine .read ?_ hnotice
  intro shown hshown
  rw [hrecords, List.mem_singleton] at hshown
  exact hshown ▸ hmem

/-- **Every request has one of the effects**, or fails and changes nothing. -/
theorem perform_yields (service : Settings.Accepted) (now : Timestamp) (request : Request)
    (store : Store) :
    (request.perform service now).Yields store (Effect service.settings store request) := by
  cases request with
  | signUp r =>
    refine (signUp_yields service r now).mono ?_
    rintro user after ⟨-, hinserted, hfresh⟩
    exact .insert hinserted hfresh (fun _ => List.mem_singleton.mp) rfl
  | bootstrap =>
    refine (bootstrap_yields service now).mono ?_
    rintro ⟨user, password⟩ after (⟨rfl, h⟩ | ⟨password, rfl, hinserted, hfresh⟩)
    · exact .of_record rfl rfl h
    · exact .insert hinserted hfresh (fun _ => List.mem_singleton.mp) rfl
  | signIn email password =>
    exact (signIn_yields service email password now).mono fun _ _ => .of_record rfl rfl
  | signInByPin pin =>
    exact (signInByPin_yields service pin).mono fun _ _ => .of_record rfl rfl
  | changePassword id current new =>
    refine (changePassword_yields service id current new now).mono ?_
    rintro _ after ⟨old, password, hold, hhash, rfl, hreplaced⟩
    refine .rewrite hreplaced ?_ fun _ => List.mem_singleton.mp
    -- the notice names the identifier that was asked for, which the record has
    obtain rfl := id_of_user? hold
    exact rewrite_updated _ now rfl rfl rfl rfl (.inl rfl) (.inl rfl) (.inr ⟨new, rfl, hhash⟩)
  | updateEmail id email actor =>
    refine (updateEmail_yields service id email actor now).mono ?_
    rintro user after (h | ⟨old, v, hold, hseals, rfl, hreplaced⟩)
    · exact .of_record rfl rfl h
    · refine .rewrite hreplaced ?_ fun _ => List.mem_singleton.mp
      exact rewrite_updated _ now rfl rfl rfl rfl (.inr hseals) (.inl rfl) (.inl ⟨rfl, rfl⟩)
  | setPin id pin =>
    refine (setPin_yields service id pin now).mono ?_
    rintro _ after ⟨old, v, hold, hseals, rfl, hreplaced⟩
    exact .rewrite hreplaced (rewrite_pin (pin_of_some hseals) _ now) fun _ =>
      List.mem_singleton.mp
  | generatePin id =>
    refine (generatePin_yields service id now).mono ?_
    rintro _ after ⟨old, v, hold, hseals, hreplaced⟩
    exact .rewrite hreplaced (rewrite_pin (pin_of_some hseals) _ now) (by nofun)
  | clearPin id =>
    refine (clearPin_yields id now).mono ?_
    rintro _ after ⟨old, hold, rfl, hreplaced⟩
    exact .rewrite hreplaced (rewrite_pin (by nofun) _ now) fun _ => List.mem_singleton.mp
  | getUser id =>
    refine (getUser_yields id).mono ?_
    rintro user after ⟨hafter, hold⟩
    exact .of_record rfl rfl ⟨hafter, mem_of_user? hold⟩
  | getUserByUsername username =>
    refine (getUserByUsername_yields username).mono ?_
    rintro user after ⟨hsame, hu, -⟩
    exact .of_record rfl rfl ⟨hsame, hu⟩
  | getUserByEmail email =>
    refine (getUserByEmail_yields service email).mono ?_
    rintro user after ⟨hsame, hu, -⟩
    exact .of_record rfl rfl ⟨hsame, hu⟩
  | listUsers =>
    refine listUsers_yields.mono ?_
    rintro users after ⟨rfl, hall⟩
    exact .read hall rfl
  | listUsersByStatus status =>
    refine (listUsersByStatus_yields status).mono ?_
    rintro users after ⟨rfl, hall⟩
    exact .read hall rfl
  | updateUser user actor =>
    refine (updateUser_yields user actor now).mono ?_
    rintro _ after ⟨rfl, hnames, old, hreplaced⟩
    exact .update rfl hnames hreplaced (fun _ => List.mem_singleton.mp) rfl
  | deleteUser id actor =>
    refine (deleteUser_yields id actor now).mono ?_
    rintro _ after ⟨old, hold, hreplaced⟩
    -- the deleted record is stored as it is, without normalizing its names again
    refine .rewrite hreplaced ?_ (by nofun)
    exact ⟨rfl, rfl, fun h => ⟨h.username, h.validUsername, h.name, h.validName⟩, .inl rfl,
      .inl rfl, .inl ⟨rfl, rfl⟩⟩
  | setUserStatus id status actor =>
    refine (setUserStatus_yields id status actor now).mono ?_
    rintro user after (h | ⟨old, hold, rfl, hreplaced⟩)
    · exact .of_record rfl rfl h
    · refine .rewrite hreplaced ?_ fun _ => List.mem_singleton.mp
      exact rewrite_updated actor now rfl rfl rfl rfl (.inl rfl) (.inl rfl) (.inl ⟨rfl, rfl⟩)

/-- A step of a run has an effect, or fails and changes nothing. -/
theorem step_cases (service : Settings.Accepted) (now : Timestamp) (request : Request)
    (entropy : Entropy) (store : Store) :
    (∃ answer, ((request.perform service now).run entropy store).1 = .ok answer ∧
      Effect service.settings store request answer
        ((request.perform service now).run entropy store).2.2) ∨
    ∃ e, ((request.perform service now).run entropy store).1 = .error e ∧
      ((request.perform service now).run entropy store).2.2 = store := by
  have h := perform_yields service now request store
  rcases hr : (request.perform service now).run entropy store with ⟨e | answer, rest, after⟩
  · exact .inr ⟨e, rfl, h.of_error hr⟩
  · exact .inl ⟨answer, rfl, h.of_ok hr⟩

theorem Effect.keeps {request : Request} {answer : request.Answer} {user : User}
    (h : Effect s store request answer after) (hu : user ∈ store.users) :
    ∃ kept ∈ after.users, kept.id = user.id := by
  have hwrite : ∀ {new : User} {after : Store}, Holds after new store →
      ∃ kept ∈ after.users, kept.id = user.id := by
    intro new after hholds
    by_cases hid : user.id = new.id
    · exact ⟨new, (hholds new).mpr (.inl rfl), hid.symm⟩
    · exact ⟨user, (hholds user).mpr (.inr ⟨hu, hid⟩), rfl⟩
  cases h with
  | read _ _ => exact ⟨user, hu, rfl⟩
  | insert inserted _ _ _ => exact hwrite inserted.holds
  | rewrite replaced _ _ => exact hwrite replaced.holds
  | update _ _ replaced _ _ => exact hwrite replaced.holds

/-- Users are never forgotten: a step leaves a record of each of them. -/
theorem step_keeps (service : Settings.Accepted) (now : Timestamp) (request : Request)
    (entropy : Entropy) {user : User} (hu : user ∈ store.users) :
    ∃ kept ∈ ((request.perform service now).run entropy store).2.2.users, kept.id = user.id := by
  rcases step_cases service now request entropy store with ⟨answer, -, heffect⟩ | ⟨e, -, hsame⟩
  · exact heffect.keeps hu
  · rw [hsame]
    exact ⟨user, hu, rfl⟩

/-- The store stays sound, whatever callers request. -/
theorem Run.sound {service : Settings.Accepted} {allowed : Discipline} {events : List Event}
    (h : Run service allowed events store) : store.Sound := by
  induction h with
  | start => exact Store.sound_empty
  | step request now entropy _ _ ih => exact ih.run (request.perform service now entropy)

end Identity.Authentication

/-
Identity/Proofs/Authentication/Pins.lean

Who signs in with a PIN, and which PIN a user is given.

A PIN alone says who signs in.  The record is found by the lookup digest of the
PIN and then opened, so that two PINs with one digest are told apart; and
because no two users have one digest, whatever the state of their accounts,
there is nobody else to be found (`find?_pin`).

A fresh PIN is drawn again as long as the store refuses it.  It is refused
exactly when another user has its digest (`Taken`), since everything else in
the record that is written back is the user's own already.

Main result: `pins_exact`.
-/
import Identity.Proofs.Authentication.Passwords
import Identity.Proofs.Authentication.Records

namespace Identity

/-! ### A record that clashes in its PIN only -/

namespace Store

variable {store : Store} {candidate : User}

/-- No other user has the address or the username of the record. -/
def NamesFree (store : Store) (candidate : User) : Prop :=
  ∀ other ∈ store.users, other.id ≠ candidate.id →
    other.email.lookup ≠ candidate.email.lookup ∧ other.username ≠ candidate.username

theorem ensureUnique_of_pin (hnames : store.NamesFree candidate) {other : User}
    {p q : SealedValue} (hother : other ∈ store.users) (hid : other.id ≠ candidate.id)
    (hp : p ∈ other.pin) (hq : q ∈ candidate.pin) (hsame : p.lookup = q.lookup) :
    store.ensureUnique candidate = .error .pinAlreadyInUse := by
  have hemail : ¬ store.otherUser candidate (·.email.lookup == candidate.email.lookup) = true := by
    intro h
    obtain ⟨user, hu, hne, he⟩ := otherUser_eq_true.mp h
    exact (hnames user hu hne).1 (by simpa using he)
  have husername : ¬ store.otherUser candidate (·.username == candidate.username) = true := by
    intro h
    obtain ⟨user, hu, hne, he⟩ := otherUser_eq_true.mp h
    exact (hnames user hu hne).2 (by simpa using he)
  have hpin : (candidate.pin.any fun pin =>
      store.otherUser candidate (hasPinLookup pin.lookup)) = true := by
    refine (Option.any_eq_true _ _).mpr ⟨q, hq, otherUser_eq_true.mpr ⟨other, hother, hid, ?_⟩⟩
    exact (Option.any_eq_true _ _).mpr ⟨p, hp, by simp [hsame]⟩
  rw [ensureUnique, if_neg hemail, if_neg husername, if_pos hpin]

end Store

namespace Authentication

open Crypto Operation

variable {s : Settings} {service : Settings.Accepted} {store after : Store}
variable {entropy between rest : Entropy} {user : User} {pin : String} {now : Timestamp}

/-! ### Whose PIN it is -/

/-- The user has a PIN, and it opens to this text. -/
def HasPin (s : Settings) (user : User) (pin : String) : Prop :=
  ∃ v ∈ user.pin, reveal s v = .ok pin

theorem pinMatches_eq_true : pinMatches s user pin = true ↔ HasPin s user pin := by
  unfold pinMatches HasPin
  cases user.pin with
  | none => simp
  | some v =>
    cases hv : reveal s v with
    | error e => simp [hv]
    | ok stored => simp [hv]

/-- The PIN of an intact record is well formed, and the record is found by it. -/
theorem HasPin.opens (h : HasPin s user pin) (hintact : Intact s user) :
    Pin.validate pin = .ok () ∧ ∃ v ∈ user.pin, Opens s v pin := by
  obtain ⟨v, hv, hreveal⟩ := h
  obtain ⟨stored, hvalid, hopens⟩ := hintact.pin v hv
  have hsame : stored = pin := Except.ok.inj (hopens.reveal.symm.trans hreveal)
  rw [hsame] at hvalid hopens
  exact ⟨hvalid, v, hv, hopens⟩

/-- Users who have PINs with one lookup digest are one user. -/
theorem eq_of_pinLookup (hsound : store.Sound) {u v : User} (hu : u ∈ store.users)
    (hv : v ∈ store.users) {p q : SealedValue} (hp : p ∈ u.pin) (hq : q ∈ v.pin)
    (hsame : p.lookup = q.lookup) : u = v := by
  by_contra hne
  exact (hsound.usersApart hu hv hne).pin p hp q hq hsame

theorem eq_of_hasPin (hsound : store.Sound) (hintact : ∀ user ∈ store.users, Intact s user)
    {u v : User} (hu : u ∈ store.users) (hv : v ∈ store.users) (hupin : HasPin s u pin)
    (hvpin : HasPin s v pin) : u = v := by
  obtain ⟨-, p, hp, hpopens⟩ := hupin.opens (hintact u hu)
  obtain ⟨-, q, hq, hqopens⟩ := hvpin.opens (hintact v hv)
  exact eq_of_pinLookup hsound hu hv hp hq (hpopens.lookup.trans hqopens.lookup.symm)

/-- In a sound store a lookup digest stands for one user. -/
theorem find?_pin (hsound : store.Sound) {digest : Bytes} :
    store.users.find? (Store.hasPinLookup digest) = some user ↔
      user ∈ store.users ∧ ∃ v ∈ user.pin, v.lookup = digest := by
  have hwanted : ∀ u : User,
      Store.hasPinLookup digest u = true ↔ ∃ v ∈ u.pin, v.lookup = digest := by
    intro u
    simp [Store.hasPinLookup, Option.any_eq_true]
  constructor
  · intro h
    exact ⟨List.mem_of_find?_eq_some h, (hwanted user).mp (List.find?_some h)⟩
  · rintro ⟨hu, v, hv, hlookup⟩
    cases hfound : store.users.find? (Store.hasPinLookup digest) with
    | none =>
      have hnot := List.find?_eq_none.mp hfound user hu
      exact absurd ((hwanted user).mpr ⟨v, hv, hlookup⟩) hnot
    | some found =>
      obtain ⟨w, hw, hwlookup⟩ := (hwanted found).mp (List.find?_some hfound)
      have hmem := List.mem_of_find?_eq_some hfound
      rw [eq_of_pinLookup hsound hmem hu hw hv (hwlookup.trans hlookup.symm)]

/-! ### Signing in -/

theorem run_signInByPin (service : Settings.Accepted) (pin : String) (entropy : Entropy)
    (store : Store) :
    (signInByPin service pin).run entropy store =
      if Pin.validate pin = .ok () then
        match store.users.find? (Store.hasPinLookup (lookup service.settings pin)) with
        | none => (.error .invalidCredentials, entropy, store)
        | some user =>
          if pinMatches service.settings user pin = true ∧ user.isActive = true then
            (.ok user, entropy, store)
          else (.error .invalidCredentials, entropy, store)
      else (.error .invalidCredentials, entropy, store) := by
  have hfound : ∀ digest, found? ((call (.findUserByPin digest)).run entropy store).1 =
      .ok (store.users.find? (Store.hasPinLookup digest)) := fun _ => found?_findUser _
  have hreads : ∀ digest, ((call (.findUserByPin digest)).run entropy store).2 =
      (entropy, store) := fun _ => rfl
  unfold signInByPin
  cases hvalid : Pin.validate pin with
  | error e => rfl
  | ok _ =>
    simp only [Except.isOk, Except.toBool, Bool.not_true, Bool.false_eq_true, if_false, run_bind,
      run_attempt, hfound, hreads, if_true]
    cases store.users.find? (Store.hasPinLookup (lookup service.settings pin)) with
    | none => rfl
    -- a PIN of somebody else and an inactive account end in the error of an unknown PIN
    | some user =>
      cases hmatches : pinMatches service.settings user pin with
      | false => simp [hmatches]
      | true =>
        cases hactive : user.isActive with
        | false => simp [hmatches, hactive]
        | true => simp [hmatches, hactive]

/-- Whose PIN it is, and has an active account, is signed in. -/
theorem run_signInByPin_of_hasPin (hsound : store.Sound) (hintact : Intact service.settings user)
    (hu : user ∈ store.users) (hstatus : user.status = .active)
    (hpin : HasPin service.settings user pin) (entropy : Entropy) :
    (signInByPin service pin).run entropy store = (.ok user, entropy, store) := by
  obtain ⟨hvalid, v, hv, hopens⟩ := hpin.opens hintact
  have hfound : store.users.find? (Store.hasPinLookup (lookup service.settings pin)) = some user :=
    (find?_pin hsound).mpr ⟨hu, v, hv, hopens.lookup⟩
  rw [run_signInByPin, if_pos hvalid, hfound]
  exact if_pos ⟨pinMatches_eq_true.mpr hpin, isActive_eq_true.mpr hstatus⟩

/-- An attempt to sign in ends with a user of the PIN, or in one and the same error. -/
theorem signInByPin_cases (service : Settings.Accepted) (pin : String) (entropy : Entropy)
    (store : Store) :
    (∃ user ∈ store.users, user.status = .active ∧ HasPin service.settings user pin ∧
      (signInByPin service pin).run entropy store = (.ok user, entropy, store)) ∨
      (signInByPin service pin).run entropy store =
        (.error .invalidCredentials, entropy, store) := by
  rw [run_signInByPin]
  split_ifs with hvalid
  · split
    · exact .inr rfl
    · rename_i user hfound
      split_ifs with hpasses
      · obtain ⟨hmatches, hactive⟩ := hpasses
        exact .inl ⟨user, List.mem_of_find?_eq_some hfound, isActive_eq_true.mp hactive,
          pinMatches_eq_true.mp hmatches, rfl⟩
      · exact .inr rfl
  · exact .inr rfl

/-! ### Drawing a PIN -/

/-- What is drawn in one attempt at a fresh PIN: the PIN, and then the nonce under which it is
sealed. -/
def drawnPin (s : Settings) : Draw String := do
  let pin ← Generated.pin s.pinLength
  let _ ← Draw.bytes Gcm.nonceLength
  return pin

theorem exists_of_drawnPin (h : drawnPin s entropy = .ok (pin, rest)) :
    ∃ between, Generated.pin s.pinLength entropy = .ok (pin, between) ∧
      Gcm.nonceLength ≤ between.tape.length ∧ rest = ⟨between.tape.drop Gcm.nonceLength⟩ := by
  obtain ⟨drawn, between, hpin, h⟩ := Draw.bind_eq_ok.mp h
  obtain ⟨nonce, final, hnonce, h⟩ := Draw.bind_eq_ok.mp h
  cases h
  exact ⟨between, hpin, Draw.le_length_of_bytes hnonce⟩

/-- A drawn PIN has the configured length and is well formed. -/
theorem validate_of_gives_drawnPin (service : Settings.Accepted)
    (h : (drawnPin service.settings).Gives pin) :
    pin.length = service.settings.pinLength ∧ Pin.validate pin = .ok () := by
  obtain ⟨drawn, hpin, h⟩ := Draw.gives_bind h
  obtain ⟨_, -, h⟩ := Draw.gives_bind h
  obtain rfl := Draw.gives_pure h
  obtain ⟨hmin, hmax⟩ := service.pinLength
  refine ⟨?_, Generated.validate_of_gives_pin hmin hmax hpin⟩
  obtain ⟨digits, hdigits, rfl⟩ := Draw.gives_map hpin
  rw [String.length_ofList]
  exact (Draw.gives_replicate hdigits).1

/-! ### Storing a PIN -/

/-- Another user has a PIN with the lookup digest of this one; the state of the account does
not matter. -/
def Taken (s : Settings) (store : Store) (user : User) (pin : String) : Prop :=
  ∃ other ∈ store.users, other.id ≠ user.id ∧ ∃ v ∈ other.pin, v.lookup = lookup s pin

/-- The record of a user with another PIN. -/
def withPin (user : User) (v : SealedValue) (now : Timestamp) : User :=
  { user with pin := some v, updatedAt := now, updatedBy := user.username }

theorem updated_eq_withPin (hnames : Named user) (v : SealedValue) (now : Timestamp) :
    { user with pin := some v }.updated user.username now = withPin user v now := by
  have hkept : Named { user with pin := some v } := { hnames with }
  exact hkept.updated_eq user.username now

/-- The store with the record of a user replaced by the one with another PIN. -/
def renewed (store : Store) (user : User) (v : SealedValue) (now : Timestamp) : Store :=
  { store with users := Store.replaceUser store.users (withPin user v now) }

/-- A PIN that another user has is refused. -/
theorem respond_withPin_of_taken (hsound : store.Sound) (hu : user ∈ store.users)
    {v : SealedValue} (hlookup : v.lookup = lookup s pin) (htaken : Taken s store user pin)
    (now : Timestamp) :
    store.respond (.updateUser (withPin user v now)) = (.error .pinAlreadyInUse, store) := by
  obtain ⟨other, hother, hne, p, hp, hsame⟩ := htaken
  have hnames : store.NamesFree (withPin user v now) := by
    intro stored hstored hid
    have hapart := hsound.apart_of_id hstored hu hid
    exact ⟨hapart.email, hapart.username⟩
  have hclash : store.ensureUnique (withPin user v now) = .error .pinAlreadyInUse :=
    Store.ensureUnique_of_pin hnames hother hne hp (Option.mem_def.mpr rfl)
      (hsame.trans hlookup.symm)
  have hstored : store.user? (withPin user v now).id = some user :=
    hsound.user?_eq_some.mpr ⟨hu, rfl⟩
  have hknown : ¬ (store.user? (withPin user v now).id).isNone = true := by
    rw [hstored]
    nofun
  rw [Store.respond, Store.updateUser, if_neg hknown, hclash]
  rfl

/-- Any other PIN is stored. -/
theorem respond_withPin_of_free (hsound : store.Sound) (hu : user ∈ store.users)
    {v : SealedValue} (hlookup : v.lookup = lookup s pin) (hfree : ¬ Taken s store user pin)
    (now : Timestamp) :
    store.respond (.updateUser (withPin user v now)) =
      (.ok (withPin user v now), renewed store user v now) := by
  have hstored : store.user? user.id = some user := hsound.user?_eq_some.mpr ⟨hu, rfl⟩
  refine Store.respond_updateUser_of_apart hstored fun other hother hne => ?_
  have hapart := hsound.apart_of_id hother hu hne
  refine ⟨hapart.id, hapart.email, hapart.username, ?_⟩
  -- only the PIN of the record is not the user's own
  rintro p hp q ⟨⟩ hsame
  exact hfree ⟨other, hother, hne, p, hp, hsame.trans hlookup⟩

theorem run_storePin (hnames : Named user) (h : Gcm.nonceLength ≤ entropy.tape.length)
    (store : Store) (pin : String) (now : Timestamp) :
    ∃ v, Opens s v pin ∧ (storePin s user pin now).run entropy store =
      ((store.respond (.updateUser (withPin user v now))).1,
        ⟨entropy.tape.drop Gcm.nonceLength⟩,
        (store.respond (.updateUser (withPin user v now))).2) := by
  have hyields : (sealValue s pin).Yields store fun v after => after = store ∧ Opens s v pin :=
    sealValue_yields s pin
  obtain ⟨v, rest, hr, ⟨⟨-, rfl⟩, hopens⟩⟩ := (sealValue_draws pin h).and_yields hyields
  refine ⟨v, hopens, ?_⟩
  rw [storePin, run, bind_apply hr, updated_eq_withPin hnames]
  rfl

/-! ### Attempts at a fresh PIN -/

section Attempts

variable (now) (attempts : Nat)

theorem run_drawPin (hpin : Generated.pin s.pinLength entropy = .ok (pin, rest)) (store : Store) :
    (drawPin s).run entropy store = (.ok pin, rest, store) :=
  run_draw_of_ok hpin

/-- An attempt at a PIN that another user has changes nothing, and the next one follows. -/
theorem run_storeFreshPin_of_taken (hsound : store.Sound) (hu : user ∈ store.users)
    (hnames : Named user) (hdrawn : drawnPin s entropy = .ok (pin, rest))
    (htaken : Taken s store user pin) :
    (storeFreshPin s user now (attempts + 1)).run entropy store =
      (storeFreshPin s user now attempts).run rest store := by
  obtain ⟨between, hpin, hlength, rfl⟩ := exists_of_drawnPin hdrawn
  obtain ⟨v, hopens, hrun⟩ := run_storePin hnames hlength store pin now
  have hrefused := respond_withPin_of_taken hsound hu hopens.lookup htaken now
  rw [hrefused] at hrun
  refine (run_bind_of_ok (run_drawPin hpin store)).trans ?_
  exact run_attempt_bind hrun

/-- An attempt at any other PIN stores it and ends the operation. -/
theorem run_storeFreshPin_of_free (hsound : store.Sound) (hu : user ∈ store.users)
    (hnames : Named user) (hdrawn : drawnPin s entropy = .ok (pin, rest))
    (hfree : ¬ Taken s store user pin) :
    ∃ v, Opens s v pin ∧ (storeFreshPin s user now (attempts + 1)).run entropy store =
      (.ok pin, rest, renewed store user v now) := by
  obtain ⟨between, hpin, hlength, rfl⟩ := exists_of_drawnPin hdrawn
  obtain ⟨v, hopens, hrun⟩ := run_storePin hnames hlength store pin now
  have haccepted := respond_withPin_of_free hsound hu hopens.lookup hfree now
  rw [haccepted] at hrun
  refine ⟨v, hopens, ?_⟩
  refine (run_bind_of_ok (run_drawPin hpin store)).trans ?_
  exact run_attempt_bind hrun

/-- Attempts at PINs that other users have change nothing, however many there are. -/
theorem run_storeFreshPin_of_allTaken (hsound : store.Sound) (hu : user ∈ store.users)
    (hnames : Named user) {pins : List String}
    (hdrawn : Draw.replicate pins.length (drawnPin s) entropy = .ok (pins, rest))
    (htaken : ∀ pin ∈ pins, Taken s store user pin) :
    (storeFreshPin s user now (pins.length + attempts)).run entropy store =
      (storeFreshPin s user now attempts).run rest store := by
  induction pins generalizing entropy with
  | nil =>
    cases hdrawn
    rw [List.length_nil, Nat.zero_add]
  | cons pin pins ih =>
    obtain ⟨between, hfirst, hothers⟩ := Draw.replicate_succ_eq_ok.mp hdrawn
    obtain ⟨hpin, hpins⟩ := List.forall_mem_cons.mp htaken
    rw [List.length_cons, Nat.add_right_comm,
      run_storeFreshPin_of_taken now _ hsound hu hnames hfirst hpin, ih hothers hpins]

theorem run_generatePin (hsound : store.Sound) (hu : user ∈ store.users)
    (hstatus : user.status = .active) (now : Timestamp) (entropy : Entropy) :
    (generatePin service user.id now).run entropy store =
      (storeFreshPin service.settings user now pinAttempts).run entropy store := by
  have hstored : store.user? user.id = some user := hsound.user?_eq_some.mpr ⟨hu, rfl⟩
  have hget := Store.respond_getUser hstored
  have hactive : ensureActive user = .ok () := if_pos (isActive_eq_true.mpr hstatus)
  refine (run_bind_of_ok (run_call_of hget)).trans ?_
  exact run_bind_of_ok (run_ofOutcome_of hactive)

end Attempts

/-! ### The life of a PIN -/

/-- A user has been given a PIN: the record opens to it, and from now on the user signs in with
it and not with an earlier one. -/
structure Renews (service : Settings.Accepted) (store : Store) (user : User) (v : SealedValue)
    (pin : String) (now : Timestamp) : Prop where
  opens : reveal service.settings v = .ok pin
  signsIn : ∀ entropy, (signInByPin service pin).run entropy (renewed store user v now) =
    (.ok (withPin user v now), entropy, renewed store user v now)
  retires : ∀ earlier, HasPin service.settings user earlier → earlier ≠ pin → ∀ entropy,
    (signInByPin service earlier).run entropy (renewed store user v now) =
      (.error .invalidCredentials, entropy, renewed store user v now)

theorem renews {v : SealedValue} (hsound : store.Sound)
    (hintact : ∀ user ∈ store.users, Intact service.settings user)
    (hsound' : (renewed store user v now).Sound)
    (hintact' : ∀ stored ∈ (renewed store user v now).users, Intact service.settings stored)
    (hu : user ∈ store.users) (hstatus : user.status = .active)
    (hopens : reveal service.settings v = .ok pin) : Renews service store user v pin now where
  opens := hopens
  signsIn := by
    have hmem : withPin user v now ∈ (renewed store user v now).users :=
      (Store.mem_replace User.id).mpr (.inl ⟨rfl, user, hu, rfl⟩)
    exact run_signInByPin_of_hasPin hsound' (hintact' _ hmem) hmem hstatus ⟨v, rfl, hopens⟩
  retires := by
    intro earlier hearlier hne entropy
    refine (signInByPin_cases service earlier entropy _).resolve_left ?_
    rintro ⟨found, hfound, -, hpin, -⟩
    rcases (Store.mem_replace User.id).mp hfound with ⟨rfl, -⟩ | ⟨hstored, hid⟩
    -- the user itself has the new PIN only
    · obtain ⟨w, ⟨⟩, hreveal⟩ := hpin
      exact hne (Except.ok.inj (hreveal.symm.trans hopens))
    -- nobody else has had the earlier one
    · have hsame : found.id = user.id :=
        congrArg User.id (eq_of_hasPin hsound hintact hstored hu hpin hearlier)
      exact hid hsame

/-- PINs sign in whom they belong to, and a fresh one is given as the draws say. -/
structure PinsExact (service : Settings.Accepted) (store : Store) : Prop where
  signsIn : ∀ pin user entropy,
    (signInByPin service pin).run entropy store = (.ok user, entropy, store) ↔
      user ∈ store.users ∧ user.status = .active ∧ HasPin service.settings user pin
  unique : ∀ pin, ∀ u ∈ store.users, ∀ v ∈ store.users, HasPin service.settings u pin →
    HasPin service.settings v pin → u = v
  rejects : ∀ pin, (∀ user ∈ store.users, user.status = .active →
      ¬ HasPin service.settings user pin) → ∀ entropy,
    (signInByPin service pin).run entropy store = (.error .invalidCredentials, entropy, store)
  wellDrawn : ∀ pin, (drawnPin service.settings).Gives pin →
    pin.length = service.settings.pinLength ∧ Pin.validate pin = .ok ()
  generates : ∀ user ∈ store.users, user.status = .active → ∀ now entropy between rest taken pin,
    taken.length < pinAttempts →
    Draw.replicate taken.length (drawnPin service.settings) entropy = .ok (taken, between) →
    (∀ earlier ∈ taken, Taken service.settings store user earlier) →
    drawnPin service.settings between = .ok (pin, rest) →
    ¬ Taken service.settings store user pin →
    ∃ v, (generatePin service user.id now).run entropy store =
        (.ok pin, rest, renewed store user v now) ∧ Renews service store user v pin now
  exhausts : ∀ user ∈ store.users, user.status = .active → ∀ now entropy rest taken,
    taken.length = pinAttempts →
    Draw.replicate taken.length (drawnPin service.settings) entropy = .ok (taken, rest) →
    (∀ pin ∈ taken, Taken service.settings store user pin) →
    (generatePin service user.id now).run entropy store = (.error .pinAlreadyInUse, rest, store)

/-- **PINs are exact**: in each run whose updates are edits of records that the service has
shown, a PIN signs in the active user whose record opens to it and nobody else, and a user who
asks for a PIN is given the first of at most five drawn ones that no other user has. -/
theorem pins_exact (service : Settings.Accepted) {events : List Event} {store : Store}
    (h : Run service EditsSeen events store) : PinsExact service store := by
  have hsound := h.sound
  have hintact := h.intact.1
  constructor
  -- `signsIn`
  · intro pin user entropy
    constructor
    · intro hrun
      rcases signInByPin_cases service pin entropy store with
        ⟨found, hfound, hstatus, hpin, hrun'⟩ | hrejected
      · cases hrun.symm.trans hrun'
        exact ⟨hfound, hstatus, hpin⟩
      · cases hrun.symm.trans hrejected
    · rintro ⟨hu, hstatus, hpin⟩
      exact run_signInByPin_of_hasPin hsound (hintact user hu) hu hstatus hpin entropy
  -- `unique`
  · intro pin u hu v hv
    exact eq_of_hasPin hsound hintact hu hv
  -- `rejects`: whoever is let through has the PIN
  · intro pin hnobody entropy
    refine (signInByPin_cases service pin entropy store).resolve_left ?_
    rintro ⟨user, hu, hstatus, hpin, -⟩
    exact hnobody user hu hstatus hpin
  -- `wellDrawn`
  · intro pin hpin
    exact validate_of_gives_drawnPin service hpin
  -- `generates`: the store afterwards is one that the run leads to
  · intro user hu hstatus now entropy between rest taken pin hlength hearlier htaken hdrawn hfree
    have hnames := (hintact user hu).names
    obtain ⟨attempts, hattempts⟩ : ∃ attempts, pinAttempts = taken.length + (attempts + 1) :=
      ⟨pinAttempts - taken.length - 1, by omega⟩
    obtain ⟨v, hopens, hrun⟩ :=
      run_storeFreshPin_of_free now attempts hsound hu hnames hdrawn hfree
    have hgenerates : (generatePin service user.id now).run entropy store =
        (.ok pin, rest, renewed store user v now) := by
      rw [run_generatePin hsound hu hstatus, hattempts,
        run_storeFreshPin_of_allTaken now _ hsound hu hnames hearlier htaken, hrun]
    have hafter : Run service EditsSeen (⟨.generatePin user.id, .ok pin⟩ :: events)
        (renewed store user v now) := h.next nofun hgenerates
    exact ⟨v, hgenerates,
      renews hsound hintact hafter.sound hafter.intact.1 hu hstatus hopens.reveal⟩
  -- `exhausts`
  · intro user hu hstatus now entropy rest taken hlength hdrawn htaken
    have hnames := (hintact user hu).names
    rw [run_generatePin hsound hu hstatus, ← hlength, ← Nat.add_zero taken.length,
      run_storeFreshPin_of_allTaken now _ hsound hu hnames hdrawn htaken]
    rfl

/-- Random bytes that give a PIN of one digit, repeated, and a nonce. -/
def digitEntropy (digit : UInt8) : Entropy :=
  ⟨(List.replicate plainService.settings.pinLength [digit, 0, 0, 0]).flatten ++
    List.replicate Gcm.nonceLength 0⟩

theorem drawnPin_digitEntropy :
    drawnPin plainService.settings (digitEntropy 0) = .ok ("000000", ⟨[]⟩) ∧
      drawnPin plainService.settings (digitEntropy 1) = .ok ("111111", ⟨[]⟩) :=
  ⟨rfl, rfl⟩

/-- After she has signed up, a user is given a first PIN and then another one: she signs in with
the second one only. -/
theorem pins_exact_alice :
    ∃ events store user, Run plainService EditsSeen events store ∧ PinsExact plainService store ∧
      (signInByPin plainService "000000").run ⟨[]⟩ store = (.ok user, ⟨[]⟩, store) ∧
      ∃ after v, (generatePin plainService user.id .epoch).run (digitEntropy 1) store =
          (.ok "111111", ⟨[]⟩, after) ∧
        (signInByPin plainService "111111").run ⟨[]⟩ after =
          (.ok (withPin user v .epoch), ⟨[]⟩, after) ∧
        (signInByPin plainService "000000").run ⟨[]⟩ after =
          (.error .invalidCredentials, ⟨[]⟩, after) := by
  obtain ⟨user, rest, store, hsignUp, husers, hfresh⟩ := signUp_alice
  have hrun : Run plainService EditsSeen [⟨.signUp alice, .ok user⟩] store :=
    Run.start.next nofun hsignUp
  have halone : ∀ pin, ¬ Taken plainService.settings store user pin := by
    rintro pin ⟨other, hother, hne, -⟩
    rw [husers] at hother
    exact hne (congrArg User.id (List.mem_singleton.mp hother))
  -- the first PIN
  obtain ⟨v, hfirst, hrenews⟩ := (pins_exact plainService hrun).generates user (by simp [husers])
    hfresh.status .epoch (digitEntropy 0) (digitEntropy 0) ⟨[]⟩ [] "000000" (by decide) rfl nofun
    drawnPin_digitEntropy.1 (halone _)
  have hrun' : Run plainService EditsSeen
      [⟨.generatePin user.id, .ok "000000"⟩, ⟨.signUp alice, .ok user⟩]
      (renewed store user v .epoch) := hrun.next nofun hfirst
  have hexact := pins_exact plainService hrun'
  obtain ⟨hmem, hstatus, hpin⟩ := (hexact.signsIn "000000" _ ⟨[]⟩).mp (hrenews.signsIn ⟨[]⟩)
  have halone' : ∀ pin, ¬ Taken plainService.settings (renewed store user v .epoch)
      (withPin user v .epoch) pin := by
    rintro pin ⟨other, hother, hne, -⟩
    rw [renewed, Store.replaceUser, husers] at hother
    have hsame : other = withPin user v .epoch := by simpa [withPin] using hother
    exact hne (congrArg User.id hsame)
  -- the second one
  obtain ⟨w, hsecond, hrenews'⟩ := hexact.generates _ hmem hstatus .epoch (digitEntropy 1)
    (digitEntropy 1) ⟨[]⟩ [] "111111" (by decide) rfl nofun drawnPin_digitEntropy.2 (halone' _)
  exact ⟨_, _, _, hrun', hexact, hrenews.signsIn ⟨[]⟩, _, w, hsecond, hrenews'.signsIn ⟨[]⟩,
    hrenews'.retires "000000" hpin (by decide) ⟨[]⟩⟩

end Authentication

end Identity

/-
Identity/Proofs/Authentication/Request.lean

Runs of the authentication service.

A *request* is an operation of the service with its arguments, as data; what
it answers depends on the request.  An *event* is a request together with its
outcome, and a *run* starts with an empty store and performs one request after
the other, each at a time and with random bytes of its own.

The service stores any record that it is given as an update, so what a run
keeps depends on the records that callers hand back.  A run is therefore
relative to a discipline of callers, `allowed`, which can depend on what has
happened so far and on the store.
-/
import Identity.Authentication.Accounts
import Identity.Authentication.Bootstrap
import Identity.Authentication.Session
import Identity.Authentication.SignUp

namespace Identity.Authentication

/-! ### Requests -/

/-- What can be asked of the service. -/
inductive Request where
  | signUp (registration : Registration)
  | bootstrap
  | signIn (email password : String)
  | signInByPin (pin : String)
  | changePassword (id : UserId) (current new : String)
  | updateEmail (id : UserId) (email actor : String)
  | setPin (id : UserId) (pin : String)
  | generatePin (id : UserId)
  | clearPin (id : UserId)
  | getUser (id : UserId)
  | getUserByUsername (username : String)
  | getUserByEmail (email : String)
  | listUsers
  | listUsersByStatus (status : UserStatus)
  | updateUser (user : User) (actor : String)
  | deleteUser (id : UserId) (actor : String)
  | setUserStatus (id : UserId) (status : UserStatus) (actor : String)

namespace Request

/-- What a request answers when it does not fail. -/
abbrev Answer : Request → Type
  | signUp .. | signInByPin .. | changePassword .. | updateEmail .. | setPin .. | clearPin .. |
    getUser .. | getUserByUsername .. | getUserByEmail .. | updateUser .. | setUserStatus .. =>
    User
  | bootstrap => Bootstrapped
  | signIn .. => Session
  | generatePin .. => String
  | listUsers | listUsersByStatus .. => List User
  | deleteUser .. => Unit

/-- Performs a request at a time. -/
def perform (service : Settings.Accepted) (now : Timestamp) :
    (request : Request) → Operation request.Answer
  | signUp registration => Authentication.signUp service registration now
  | bootstrap => Authentication.bootstrap service now
  | signIn email password => Authentication.signIn service email password now
  | signInByPin pin => Authentication.signInByPin service pin
  | changePassword id current new => Authentication.changePassword service id current new now
  | updateEmail id email actor => Authentication.updateEmail service id email actor now
  | setPin id pin => Authentication.setPin service id pin now
  | generatePin id => Authentication.generatePin service id now
  | clearPin id => Authentication.clearPin id now
  | getUser id => Authentication.getUser id
  | getUserByUsername username => Authentication.getUserByUsername username
  | getUserByEmail email => Authentication.getUserByEmail service email
  | listUsers => Authentication.listUsers
  | listUsersByStatus status => Authentication.listUsersByStatus status
  | updateUser user actor => Authentication.updateUser user actor now
  | deleteUser id actor => Authentication.deleteUser id actor now
  | setUserStatus id status actor => Authentication.setUserStatus id status actor now

/-- The records that an answer shows. -/
def records : (request : Request) → request.Answer → List User
  | signUp .., user | signInByPin .., user | changePassword .., user | updateEmail .., user |
    setPin .., user | clearPin .., user | getUser .., user | getUserByUsername .., user |
    getUserByEmail .., user | updateUser .., user | setUserStatus .., user => [user]
  | bootstrap, answer => [answer.user]
  | signIn .., session => [session.user]
  | listUsers, users | listUsersByStatus .., users => users
  | generatePin .., _ => []
  | deleteUser .., _ => []

/-- What an answer says about the password of a user. -/
inductive Notice where
  | nothing
  | created (id : UserId) (password : String)
  | changed (id : UserId) (password : String)

/-- The password that a user has from an answer on. -/
def notice : (request : Request) → request.Answer → Notice
  | signUp registration, user => .created user.id registration.password
  | bootstrap, ⟨user, some password⟩ => .created user.id password
  | changePassword id _ new, _ => .changed id new
  | _, _ => .nothing

end Request

/-! ### Runs -/

/-- A request that has been performed, with its outcome. -/
structure Event where
  request : Request
  outcome : Outcome request.Answer

namespace Event

/-- The records that the caller has seen. -/
def records (event : Event) : List User :=
  match event.outcome with
  | .ok answer => event.request.records answer
  | .error _ => []

/-- What the caller has learnt about the password of a user. -/
def notice (event : Event) : Request.Notice :=
  match event.outcome with
  | .ok answer => event.request.notice answer
  | .error _ => .nothing

end Event

/-- What callers may request, after what has happened (the last event first) and
with a store as it is. -/
abbrev Discipline := List Event → Store → Request → Prop

/-- **Runs of a service** whose callers keep to a discipline: what has happened,
the last event first, and the store at the end. -/
inductive Run (service : Settings.Accepted) (allowed : Discipline) : List Event → Store → Prop
  | start : Run service allowed [] Store.empty
  | step {events : List Event} {store : Store} (request : Request) (now : Timestamp)
      (entropy : Entropy) (h : Run service allowed events store)
      (hallowed : allowed events store request) :
      Run service allowed
        (⟨request, ((request.perform service now).run entropy store).1⟩ :: events)
        ((request.perform service now).run entropy store).2.2

/-- The next step of a run, of a request whose outcome is known. -/
theorem Run.next {service : Settings.Accepted} {allowed : Discipline} {events : List Event}
    {store after : Store} {request : Request} {now : Timestamp} {entropy rest : Entropy}
    {outcome : Outcome request.Answer} (h : Run service allowed events store)
    (hallowed : allowed events store request)
    (hr : (request.perform service now).run entropy store = (outcome, rest, after)) :
    Run service allowed (⟨request, outcome⟩ :: events) after := by
  have hstep := Run.step request now entropy h hallowed
  rw [hr] at hstep
  exact hstep

/-! ### Disciplines -/

/-- The record is another one whose username, name or status has been edited. -/
def EditOf (seen user : User) : Prop :=
  user = { seen with username := user.username, name := user.name, status := user.status }

/-- Updates are edits of records that the service has shown before. -/
def EditsSeen : Discipline := fun events _ request =>
  ∀ user actor, request = .updateUser user actor →
    ∃ event ∈ events, ∃ seen ∈ event.records, EditOf seen user

/-- Updates are edits of records as they are stored. -/
def EditsStored : Discipline := fun _ store request =>
  ∀ user actor, request = .updateUser user actor → ∃ stored ∈ store.users, EditOf stored user

end Identity.Authentication

import PartsCatalog.Access.Sessions
import PartsCatalog.Password.Verification
import PartsCatalog.Settings.Basic

/-!
# Access

Who may use the program.  With a password, those who log in are given a session, and its token
admits them until it expires or they log out; without one, everyone is admitted.
-/

namespace PartsCatalog

/-- Who may use the program. -/
structure Access where
  /-- The hash of the password; everyone is admitted if there is none. -/
  password : Option Password.HashString
  sessions : Sessions

/-- What a login gives. -/
inductive Login where
  | session (token : SessionToken)
  /-- There is no password, so no session is needed. -/
  | publicAccess
deriving DecidableEq

namespace Access

/-! ## Setting up -/

/-- The sessions of a lifetime that is proper: positive, and at most one year. -/
def checkLifetime (lifetime : Duration) : Except Fault Unit :=
  if lifetime.nanoseconds ≤ 0 then .error .sessionSpanNotPositive
  else if (Duration.ofHours Limits.sessionHoursMost).nanoseconds < lifetime.nanoseconds then
    .error .sessionSpanTooLong
  else .ok ()

/-- The password hash that a text gives; an empty text gives none. -/
def readPassword : Option String → Except Fault (Option Password.HashString)
  | none => .ok none
  | some hash => if hash.isEmpty then .ok none else (Password.checkFormat hash).map some

/-- Access with a password hash, or for everyone if there is none. -/
def new (hash : Option String) (lifetime : Duration) : Except Fault Access := do
  let password ← readPassword hash
  checkLifetime lifetime
  return { password, sessions := .new lifetime }

/-- Access as the settings say. -/
def ofSettings (s : Settings) : Except Fault Access :=
  let hours := if s.sessionHours = 0 then Limits.sessionHoursDefault else s.sessionHours
  new s.passwordHash? (.ofHours hours)

/-- Access for everyone. -/
def forEveryone : Access := { password := none, sessions := .usual }

instance : Inhabited Access := ⟨forEveryone⟩

/-- Whether everyone is admitted. -/
def isPublic (a : Access) : Bool := a.password.isNone

/-! ## Coming and going -/

/-- Whether a password is the right one; an empty one never is. -/
def accepts (hash : Password.HashString) (password : String) : Bool :=
  !password.isEmpty && hash.verifies password

/-- Logs in at an instant.  The token is the one to be given out if a session starts. -/
def login (a : Access) (password : String) (now : Instant) (token : SessionToken) :
    Except Fault (Access × Login) :=
  match a.password with
  | none => .ok (a, .publicAccess)
  | some hash =>
    if accepts hash password then
      (a.sessions.issue token now).map fun sessions => ({ a with sessions }, .session token)
    else .error .wrongPassword

/-- Whether a token admits at an instant. -/
def admits (a : Access) (token : SessionToken) (now : Instant) : Bool :=
  a.isPublic || a.sessions.isValid token now

/-- The access after a token was shown: an expired session is forgotten. -/
def shown (a : Access) (token : SessionToken) (now : Instant) : Access :=
  if a.isPublic then a else { a with sessions := a.sessions.lookedUp token now }

/-- Whether a token admits at an instant, and the access afterwards. -/
def authorize (a : Access) (token : SessionToken) (now : Instant) : Access × Bool :=
  (a.shown token now, a.admits token now)

/-- Ends a session, if there is one. -/
def logout (a : Access) (token : SessionToken) : Access :=
  { a with sessions := a.sessions.revoke token }

/-- Forgets all sessions that have expired, and says how many. -/
def purge (a : Access) (now : Instant) : Access × Nat :=
  ({ a with sessions := a.sessions.purge now }, a.sessions.countExpired now)

end Access

end PartsCatalog

import PartsCatalog.Access.Token
import PartsCatalog.Fault
import PartsCatalog.FirstOccurrence

/-!
# Sessions

The tokens that were given out and when each of them expires.  A session is valid before that
instant; one that is found to have expired is forgotten.
-/

namespace PartsCatalog

/-- A token with the instant at which it expires. -/
structure Session where
  token : SessionToken
  expiry : Instant
deriving DecidableEq

/-- The sessions that are remembered, and how long a new one lasts. -/
structure Sessions where
  lifetime : Duration
  /-- Every token stands once. -/
  entries : List Session
deriving DecidableEq

namespace Sessions

/-- No sessions yet. -/
def new (lifetime : Duration) : Sessions := { lifetime, entries := [] }

/-- No sessions yet, of the usual length. -/
def usual : Sessions := new (.ofHours Limits.sessionHoursDefault)

instance : Inhabited Sessions := ⟨usual⟩

/-- How many sessions are remembered. -/
def size (s : Sessions) : Nat := s.entries.length

/-- Whether no session is remembered. -/
def isEmpty (s : Sessions) : Bool := s.entries.isEmpty

/-- When a token expires. -/
def expiry? (s : Sessions) (token : SessionToken) : Option Instant :=
  (s.entries.find? (·.token == token)).map (·.expiry)

/-- Whether a token is remembered. -/
def remembers (s : Sessions) (token : SessionToken) : Bool := (s.expiry? token).isSome

/-- The sessions with a new one from `now` on. -/
def issue (s : Sessions) (token : SessionToken) (now : Instant) : Except Fault Sessions :=
  match now.after? s.lifetime with
  | none => .error (.expiryOutOfRange s.lifetime)
  | some expiry =>
    let session : Session := { token, expiry }
    .ok { s with
      entries := updateOrAppend Session.token token (fun _ => session) session s.entries }

/-- The sessions without a token. -/
def revoke (s : Sessions) (token : SessionToken) : Sessions :=
  { s with entries := s.entries.filter (·.token != token) }

/-- Whether a token is valid at an instant. -/
def isValid (s : Sessions) (token : SessionToken) (now : Instant) : Bool :=
  (s.expiry? token).any now.before

/-- The sessions after a token was looked up: an expired one is gone. -/
def lookedUp (s : Sessions) (token : SessionToken) (now : Instant) : Sessions :=
  if s.isValid token now then s else s.revoke token

/-- The sessions that have not expired. -/
def purge (s : Sessions) (now : Instant) : Sessions :=
  { s with entries := s.entries.filter fun session => now.before session.expiry }

/-- How many sessions have expired. -/
def countExpired (s : Sessions) (now : Instant) : Nat :=
  s.entries.countP fun session => !now.before session.expiry

end Sessions

end PartsCatalog

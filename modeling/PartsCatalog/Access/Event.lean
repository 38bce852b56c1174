import PartsCatalog.Access.Basic

/-!
# Events

What happens to the access over time.  Every event bears its own instant, and nothing says that they
come in order.  An event that fails changes nothing.
-/

namespace PartsCatalog.Access

/-- One thing that happens. -/
inductive Event where
  /-- Someone logs in; the token is the one to be given out if a session starts. -/
  | login (password : String) (now : Instant) (token : SessionToken)
  | authorize (token : SessionToken) (now : Instant)
  | logout (token : SessionToken)
  | purge (now : Instant)
deriving DecidableEq

/-- What an event answers. -/
inductive Answer where
  | loggedIn (login : Login)
  | admitted (isAdmitted : Bool)
  | done
  | purged (count : Nat)
deriving DecidableEq

/-- The access after an event, and the answer. -/
def handle (a : Access) : Event → Except Fault (Access × Answer)
  | .login password now token => Prod.map id .loggedIn <$> a.login password now token
  | .authorize token now => .ok (Prod.map id .admitted (a.authorize token now))
  | .logout token => .ok (a.logout token, .done)
  | .purge now => .ok (Prod.map id .purged (a.purge now))

/-- The access after an event, whether it fails or not, and what it answers. -/
def step (a : Access) (event : Event) : Access × Except Fault Answer :=
  match a.handle event with
  | .ok (a, answer) => (a, .ok answer)
  | .error fault => (a, .error fault)

/-- The access after events one after another. -/
def run (a : Access) (events : List Event) : Access :=
  events.foldl (fun a event => (a.step event).1) a

end PartsCatalog.Access

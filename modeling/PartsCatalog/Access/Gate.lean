import PartsCatalog.Access.Basic
import PartsCatalog.Access.Cookie

/-!
# The gate

Which requests are let through: those for the login page and for fixed files, and all others with
the token of a valid session.
-/

namespace PartsCatalog.Gate

/-- What becomes of a request. -/
inductive Decision where
  | allow
  | requireLogin
deriving DecidableEq

/-- Whether a path needs no session. -/
def isOpen (path : String) : Bool := path == "/login" || path.startsWith "/static/"

/-- Decides on a request at an instant, and answers the access afterwards. -/
def judge (a : Access) (path : String) (cookies : Option String) (now : Instant) :
    Access × Decision :=
  if a.isPublic || isOpen path then (a, .allow)
  else
    match cookies.bind Cookie.token? with
    | none => (a, .requireLogin)
    | some token =>
      let (a, admitted) := a.authorize token now
      (a, if admitted then .allow else .requireLogin)

end PartsCatalog.Gate

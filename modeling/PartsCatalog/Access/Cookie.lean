import PartsCatalog.Access.Token
import PartsCatalog.Clock
import PartsCatalog.Text.Blank
import PartsCatalog.Text.Split

/-!
# The session cookie

How a session token travels: it is set by a cookie and comes back among the cookies of a request.
The first cookie of that name counts.
-/

namespace PartsCatalog.Cookie

/-- The name of the cookie. -/
def name : String := "session"

/-! ## Reading -/

/-- The name and the value of a cookie, without the blanks around them. -/
def readPair? (pair : String) : Option (String × String) :=
  match (Text.trim pair).toList.span (· != '=') with
  | (name, '=' :: value) =>
    some (Text.trim (String.ofList name), Text.trim (String.ofList value))
  | _ => none

/-- The cookies of a request, in order. -/
def readHeader (header : String) : List (String × String) :=
  (Text.split ';' header).filterMap readPair?

/-- The token among the cookies of a request.  A cookie without a value holds none. -/
def token? (header : String) : Option SessionToken :=
  (((readHeader header).lookup name).filter (!·.isEmpty)).map .mk

/-! ## Writing -/

/-- What stands behind the value of the cookie. -/
def attributes (seconds : Int) : String := s!"; Path=/; HttpOnly; SameSite=Lax; Max-Age={seconds}"

/-- Sets the cookie for a span of time. -/
def set (token : SessionToken) (lifetime : Duration) : String :=
  name ++ "=" ++ token.text ++ attributes (max lifetime.seconds 0)

/-- Removes the cookie. -/
def clear : String := name ++ "=" ++ attributes 0

end PartsCatalog.Cookie

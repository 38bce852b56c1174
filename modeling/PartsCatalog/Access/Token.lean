import PartsCatalog.Text.Base64

/-!
# Session tokens

A token is what a person shows to be recognised: thirty-two random bytes in the alphabet for
addresses.  It is not shown in messages.
-/

namespace PartsCatalog

/-- A session token. -/
structure SessionToken where
  text : String
deriving DecidableEq

namespace SessionToken

/-- The token of random bytes. -/
def ofBytes (random : List UInt8) : SessionToken :=
  ⟨String.ofList (Text.Base64.encode Text.Base64.urlSafe random)⟩

/-- A token as messages show it. -/
def masked (_ : SessionToken) : String := "SessionToken(***)"

end SessionToken

end PartsCatalog

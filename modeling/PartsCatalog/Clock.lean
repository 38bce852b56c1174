import PartsCatalog.Text.Numeral

/-!
# Instants and durations

Time in nanoseconds, without leap seconds.  An instant counts from the start of 1970 and lies within
the years that a calendar date can be written for; a sum that leaves them has no result.
-/

namespace PartsCatalog

/-- A span of time, in nanoseconds. -/
structure Duration where
  nanoseconds : Int
deriving DecidableEq

/-- A point in time, in nanoseconds since the start of 1970. -/
structure Instant where
  nanoseconds : Int
deriving DecidableEq

namespace Duration

/-- A span of whole hours. -/
def ofHours (hours : Nat) : Duration := ⟨hours * 3600000000000⟩

/-- The whole seconds of a span, with the fraction dropped. -/
def seconds (d : Duration) : Int := d.nanoseconds.tdiv 1000000000

/-- A span in seconds, in the form of ISO 8601: `PT86400S`, `PT1.5S`, `-PT0.000000001S`, and `P0D`
for none. -/
def text (d : Duration) : String :=
  let magnitude := d.nanoseconds.natAbs
  let sign := if d.nanoseconds < 0 then ['-'] else []
  let places := (Text.paddedDigits 9 (magnitude % 1000000000)).reverse.dropWhile (· == '0')
  if magnitude = 0 then "P0D"
  else
    String.ofList <|
      sign ++ ['P', 'T'] ++ Nat.toDigits 10 (magnitude / 1000000000)
        ++ (if places.isEmpty then [] else '.' :: places.reverse) ++ ['S']

end Duration

namespace Instant

/-- The start of the year -262143. -/
def earliest : Int := -8334601228800000000000

/-- The last nanosecond of the year 262142. -/
def latest : Int := 8210266876799999999999

/-- The instant a span after another, if it can be represented. -/
def after? (start : Instant) (span : Duration) : Option Instant :=
  let sum := start.nanoseconds + span.nanoseconds
  if earliest ≤ sum ∧ sum ≤ latest then some ⟨sum⟩ else none

/-- Whether one instant comes before another. -/
def before (a b : Instant) : Bool := a.nanoseconds < b.nanoseconds

end Instant

end PartsCatalog

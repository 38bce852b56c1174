import PartsCatalog.Fault
import PartsCatalog.Quantity

/-!
# Ranges of quantities

An interval with its ends in it, either of which may be open.
-/

namespace PartsCatalog

/-- The quantities from `least?` to `most?`. -/
structure Bounds where
  least? : Option Binary64
  most? : Option Binary64

namespace Bounds

/-- One end of a range as a form field gives it; a blank field leaves it open. -/
def readBound (bound raw : String) : Except Fault (Option Binary64) :=
  if Text.isBlankText raw then .ok none
  else
    match Quantity.parseNumber? raw with
    | some value => .ok (some value)
    | none => .error (.boundUnreadable bound raw)

/-- The range that two form fields give. -/
def ofInput (min max : String) : Except Fault Bounds := do
  let least? ← readBound "用量下限" min
  let most? ← readBound "用量上限" max
  return { least?, most? }

/-- Whether a range bounds anything. -/
def boundsAnything (r : Bounds) : Bool := r.least?.isSome || r.most?.isSome

/-- Whether a number lies in a range. -/
def contains (r : Bounds) (x : Binary64) : Bool :=
  r.least?.all (·.atMost x) && r.most?.all x.atMost

end Bounds

end PartsCatalog

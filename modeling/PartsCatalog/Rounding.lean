/-!
# Rounding a quotient

One rounding rule serves every conversion between number forms: the nearest whole number to a
quotient, with the two halves around it told apart by the rule for ties.
-/

namespace PartsCatalog

/-- Where a quotient goes that lies half-way between two whole numbers. -/
inductive Tie where
  | toEven
  | up
deriving DecidableEq

/-- The whole number nearest to `num / den`. -/
def roundQuotient (tie : Tie) (num den : Nat) : Nat :=
  let floor := num / den
  match compare (2 * (num % den)) den with
  | .lt => floor
  | .gt => floor + 1
  | .eq =>
    match tie with
    | .toEven => floor + floor % 2
    | .up => floor + 1

end PartsCatalog

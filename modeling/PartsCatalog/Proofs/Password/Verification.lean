import PartsCatalog.Password.Verification

/-!
# Laws of password hashes

A hash that was made of a password fits that password (`verifies_of_hash`).  What Argon2 computes
is not opened for it: a tag has the length that was asked for, and the same input has the same tag.
-/

namespace PartsCatalog

namespace Digest

@[simp]
theorem length_lowBytes (count n : Nat) : (lowBytes count n).length = count := by
  induction count generalizing n with
  | zero => rfl
  | succ count ih => rw [lowBytes, List.length_cons, ih]

theorem Blake2b.length_digest {length : Nat} (short : length ≤ 64) (message : List UInt8) :
    (digest length message).length = length := by
  rw [digest, List.length_take, List.length_flatMap]
  simp only [bytes64, length_lowBytes, List.map_const', Vector.length_toList,
    List.sum_replicate_nat]
  omega

end Digest

namespace Password

open Argon2

theorem Argon2.length_tag {length : Nat} (short : length ≤ 64) (s : Settings) (input : Input) :
    (tag s input length).length = length := by
  rw [tag, longDigest, if_pos short, Digest.Blake2b.length_digest short]

/-- The parameters that a new hash is written with are read back. -/
theorem ofHash?_usual {h : HashString}
    (written : h.parameters = [("m", toString usualCost.memory), ("t", toString usualCost.passes),
      ("p", toString usualCost.lanes)]) :
    Parameters.ofHash? h = some .usual := by
  rw [Parameters.ofHash?, written]
  rfl

theorem exists_hash (password : String) (nonempty : password.isEmpty = false)
    (salt : List UInt8) : ∃ h, hash password salt = .ok h := by
  unfold hash
  rw [nonempty]
  exact ⟨_, rfl⟩

/-- The salt has to survive being written. -/
theorem verifies_of_hash {password : String} {salt : List UInt8} {h : HashString}
    (made : hash password salt = .ok h)
    (salted : readSalt? (HashString.hashText salt) = some salt) : h.verifies password := by
  unfold hash at made
  split at made
  · cases made
  · obtain rfl := Except.ok.inj made
    simp only [HashString.verifies, length_tag (show usualLength ≤ 64 by decide)]
    rw [rehash?, ofHash?_usual rfl]
    simp only [variant?, version?, Version.code, Option.bind_some, salted, bind, pure]
    exact beq_self_eq_true _

end Password

end PartsCatalog

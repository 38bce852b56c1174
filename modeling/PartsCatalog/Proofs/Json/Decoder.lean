import Mathlib.Data.List.Nodup
import PartsCatalog.Json.Decoder
import PartsCatalog.Json.Writer
import PartsCatalog.Proofs.Json.Escape
import PartsCatalog.Proofs.Json.Numeral

/-!
# Decoding what was built

The decoders give back what a value was built from: a text (`text_ofText`), a number within its
bounds (`natural_ofNat`), and a record's fields in order (`fields?_ofFields`).
-/

namespace PartsCatalog.Json.Decoder

theorem text_ofText (levels : Nat) (s : String) : text levels (.ofText s) = some s :=
  unescape?_escape s

theorem natural_ofNat {bits n : Nat} (levels : Nat) (bounded : n < Nat.pow 2 bits) :
    natural bits levels (.ofInt n) = some n := by
  have inside : (0 ≤ (n : Int) && (n : Int) ≤ Nat.pow 2 bits - 1) = true := by
    rw [Bool.and_eq_true, decide_eq_true_iff, decide_eq_true_iff]
    omega
  simp only [natural, integer, Value.ofInt, integer?_ofLiteral]
  rw [Option.filter_some, if_pos inside, Option.map_some, Int.toNat_natCast]

/-! ## Records -/

variable {fields : List (String × Value)}

theorem namedMembers?_ofFields (fields : List (String × Value)) :
    namedMembers? (fields.map fun (name, value) => (escape name, value)) = some fields := by
  unfold namedMembers?
  induction fields with
  | nil => rfl
  | cons field fields ih => simp only [List.map_cons, List.mapM_cons, ih, unescape?_escape]; rfl

/-- A member is found under its name where no other has the name. -/
theorem lookup_of_nodup {field : String × Value} (distinct : (fields.map Prod.fst).Nodup)
    (given : field ∈ fields) : fields.lookup field.1 = some field.2 := by
  obtain ⟨before, after, rfl⟩ := List.append_of_mem given
  refine List.lookup_eq_some_iff.mpr ⟨before, after, rfl, fun other earlier => ?_⟩
  rw [List.map_append, List.map_cons] at distinct
  have apart := List.disjoint_of_nodup_append distinct (List.mem_map_of_mem earlier)
  exact bne_iff_ne.mpr fun same => apart (same ▸ List.mem_cons_self)

/-- The fields of a record that was built with distinct names. -/
theorem fields?_ofFields (fields : List (String × Value))
    (distinct : (fields.map Prod.fst).Nodup) :
    fields? (fields.map Prod.fst) (.ofFields fields) =
      some (fields.map fun field => .given field.2) := by
  have once : (fields.map Prod.fst).all
      (fun name => (fields.filter (·.1 == name)).length ≤ 1) = true := by
    rw [List.all_eq_true]
    intro name _
    have counted := List.nodup_iff_count_le_one.mp distinct name
    rw [List.count, List.countP_map, List.countP_eq_length_filter] at counted
    exact decide_eq_true counted
  rw [Value.ofFields, fields?, namedMembers?_ofFields]
  simp only [Option.bind_eq_bind, Option.bind_some, once, if_true, List.map_map]
  refine congrArg some (List.map_congr_left fun field given => ?_)
  simp only [Function.comp_apply, lookup_of_nodup distinct given, Option.elim_some]

end PartsCatalog.Json.Decoder

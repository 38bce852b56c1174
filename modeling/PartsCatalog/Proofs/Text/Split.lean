import Mathlib.Data.List.Basic
import PartsCatalog.Text.Split

/-!
# Laws of splitting

The parts of a text are those of the library's `List.splitOn`: they hold no separator and join to
the text (`intercalate_split`), a text without the separator is one part, and the parts of a text
with the separator in the middle are those of its two sides (`split_append`).  So the parts of
joined texts are the parts of each (`split_intercalate`).
-/

namespace PartsCatalog.Text

variable {separator : Char} {cs part : List Char} {s : String} {segments : List String}

theorem splitChars_eq_splitOn (separator : Char) (cs : List Char) :
    splitChars separator cs = cs.splitOn separator := by
  induction cs with
  | nil => rfl
  | cons c cs ih =>
    rw [splitChars, ih, List.splitOn_cons_eq_if_modifyHead]
    by_cases here : c = separator
    · rw [if_pos here, if_pos (beq_iff_eq.2 here)]
    · rw [if_neg here, if_neg (mt beq_iff_eq.1 here)]
      cases first : cs.splitOn separator with
      | nil => exact absurd first (List.splitOn_ne_nil separator cs)
      | cons part parts => rfl

theorem splitChars_ne_nil (separator : Char) (cs : List Char) : splitChars separator cs ≠ [] := by
  rw [splitChars_eq_splitOn]
  exact List.splitOn_ne_nil separator cs

theorem splitChars_of_not_mem (absent : separator ∉ cs) : splitChars separator cs = [cs] := by
  rw [splitChars_eq_splitOn, List.splitOn_eq_singleton absent]

theorem splitChars_append (separator : Char) (cs ds : List Char) :
    splitChars separator (cs ++ separator :: ds) =
      splitChars separator cs ++ splitChars separator ds := by
  simp only [splitChars_eq_splitOn, List.splitOn_append_cons_self]

theorem intercalate_splitChars (separator : Char) (cs : List Char) :
    [separator].intercalate (splitChars separator cs) = cs := by
  rw [splitChars_eq_splitOn, List.intercalate_splitOn]

theorem not_mem_of_mem_splitChars (isPart : part ∈ splitChars separator cs) : separator ∉ part := by
  induction cs generalizing part with
  | nil =>
    rw [List.mem_singleton.1 isPart]
    exact List.not_mem_nil
  | cons c cs ih =>
    rw [splitChars] at isPart
    by_cases here : c = separator
    · rw [if_pos here] at isPart
      rcases List.mem_cons.1 isPart with rfl | later
      · exact List.not_mem_nil
      · exact ih later
    · rw [if_neg here] at isPart
      cases parts : splitChars separator cs with
      | nil => exact absurd parts (splitChars_ne_nil separator cs)
      | cons first rest =>
        rw [parts] at isPart ih
        rcases List.mem_cons.1 isPart with rfl | later
        · exact List.not_mem_cons_of_ne_of_not_mem (Ne.symm here) (ih List.mem_cons_self)
        · exact ih (List.mem_cons_of_mem first later)

theorem split_ne_nil (separator : Char) (s : String) : split separator s ≠ [] :=
  mt List.map_eq_nil_iff.1 (splitChars_ne_nil separator s.toList)

theorem split_of_not_mem (absent : separator ∉ s.toList) : split separator s = [s] := by
  rw [split, splitChars_of_not_mem absent, List.map_singleton, String.ofList_toList]

theorem split_append (separator : Char) (s t : String) :
    split separator (s ++ String.singleton separator ++ t) =
      split separator s ++ split separator t := by
  rw [split, split, split, ← List.map_append, ← splitChars_append]
  simp

/-- The parts of a text join to the text. -/
theorem intercalate_split (separator : Char) (s : String) :
    (String.singleton separator).intercalate (split separator s) = s := by
  have parts : (split separator s).map String.toList = splitChars separator s.toList := by
    rw [split, List.map_map]
    exact List.map_id'' (fun part => String.toList_ofList) _
  rw [← String.toList_inj, String.toList_intercalate, parts, String.toList_singleton,
    intercalate_splitChars]

theorem not_mem_of_mem_split {part : String} (isPart : part ∈ split separator s) :
    separator ∉ part.toList := by
  obtain ⟨chars, inside, rfl⟩ := List.mem_map.1 isPart
  rw [String.toList_ofList]
  exact not_mem_of_mem_splitChars inside

/-- The parts of joined texts are the parts of each of them. -/
theorem split_intercalate (separator : Char) (some : segments ≠ []) :
    split separator ((String.singleton separator).intercalate segments) =
      segments.flatMap (split separator) := by
  induction segments with
  | nil => exact absurd rfl some
  | cons segment segments ih =>
    cases segments with
    | nil => simp
    | cons next rest =>
      rw [String.intercalate_cons_of_ne_nil (List.cons_ne_nil next rest), split_append,
        ih (List.cons_ne_nil next rest), List.flatMap_cons, List.flatMap_cons, List.flatMap_cons]

/-- Parts without the separator are the parts of what they join to. -/
theorem split_intercalate_of_not_mem (some : segments ≠ [])
    (single : ∀ segment ∈ segments, separator ∉ segment.toList) :
    split separator ((String.singleton separator).intercalate segments) = segments := by
  rw [split_intercalate separator some,
    List.flatMap_congr fun segment inside => split_of_not_mem (single segment inside),
    List.flatMap_singleton']

end PartsCatalog.Text

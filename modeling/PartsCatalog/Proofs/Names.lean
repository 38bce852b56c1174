import PartsCatalog.Proofs.FirstOccurrence
import PartsCatalog.Proofs.Inventory.Naming

/-!
# Lists of names

Names that are different and not empty, with a primary one among them or none (`ProperNames`), are
what both ways of making a list of names lead to: replacing the names of a material
(`properNames_collectNames`) and reading its rows (`properNames_collect`).  Proper names are kept by
either (`collectNames_of_proper`), and marking them is undone by reading them
(`collect_mark_of_proper`).
-/

namespace PartsCatalog

/-! ## Proper names -/

/-- Different names, none of them empty, and a primary one among them unless there is none. -/
structure ProperNames (names : List String) (primaryName : String) : Prop where
  distinct : names.Nodup
  nonempty : "" ∉ names
  primary : primaryName ≠ "" → primaryName ∈ names

variable {names : List String} {primaryName : String}

theorem mem_filter_nonempty {name : String} :
    name ∈ names.filter (!·.isEmpty) ↔ name ∈ names ∧ name ≠ "" := by
  rw [List.mem_filter, Bool.not_eq_true', String.isEmpty_eq_false_iff]

namespace ProperNames

theorem filter_nonempty (proper : ProperNames names primaryName) :
    names.filter (!·.isEmpty) = names := by
  rw [List.filter_eq_self]
  intro name member
  rw [Bool.not_eq_true', String.isEmpty_eq_false_iff]
  rintro rfl
  exact proper.nonempty member

/-- One more name keeps names proper, whether it becomes the primary one or not. -/
theorem append (proper : ProperNames names primaryName) {name primary : String}
    (named : name ≠ "") (marked : primary = primaryName ∨ primary = name) :
    ProperNames (appendNew names name) primary := by
  refine ⟨nodup_appendNew proper.distinct name, fun member => ?_, fun some => mem_appendNew.2 ?_⟩
  · exact (mem_appendNew.1 member).elim proper.nonempty (Ne.symm named)
  · rcases marked with rfl | rfl
    · exact .inl (proper.primary some)
    · exact .inr rfl

theorem addTo {known : List String × String} (proper : ProperNames known.1 known.2)
    (row : MarkedName) : ProperNames (row.addTo known).1 (row.addTo known).2 := by
  by_cases empty : row.name = ""
  · rwa [MarkedName.addTo, if_pos (String.isEmpty_iff.2 empty)]
  · rw [MarkedName.addTo, if_neg (mt String.isEmpty_iff.1 empty)]
    apply proper.append empty
    dsimp only
    split
    · exact .inr rfl
    · exact .inl rfl

end ProperNames

theorem properNames_nil : ProperNames [] "" :=
  ⟨List.nodup_nil, List.not_mem_nil, fun differs => absurd rfl differs⟩

theorem properNames_collectNames (primaryName : String) (names : List String) :
    ProperNames (Material.collectNames primaryName names) primaryName := by
  have collected : ProperNames (firstOccurrences (names.filter (!·.isEmpty))) "" := by
    refine ⟨nodup_firstOccurrences _, fun member => ?_, fun differs => absurd rfl differs⟩
    exact (mem_filter_nonempty.1 (mem_firstOccurrences.1 member)).2 rfl
  by_cases unmarked : primaryName = ""
  · subst unmarked
    exact collected
  · rw [Material.collectNames, if_neg (mt String.isEmpty_iff.1 unmarked)]
    exact collected.append unmarked (.inr rfl)

theorem collectNames_of_proper (proper : ProperNames names primaryName) :
    Material.collectNames primaryName names = names := by
  rw [Material.collectNames, proper.filter_nonempty, firstOccurrences_of_nodup proper.distinct]
  split
  · rfl
  · next marked => exact appendNew_of_mem (proper.primary (mt String.isEmpty_iff.2 marked))

namespace MarkedName

theorem properNames_collect (rows : List MarkedName) :
    ProperNames (collect rows).1 (collect rows).2 := by
  exact List.foldlRecOn (motive := fun known : List String × String =>
    ProperNames known.1 known.2) rows _ properNames_nil fun _ proper row _ => proper.addTo row

/-- Reading undoes marking. -/
theorem collect_mark_of_proper (proper : ProperNames names primaryName) :
    collect (mark primaryName names) = (names, primaryName) := by
  have all : (collect (mark primaryName names)).1 = names := by
    rw [fst_collect, map_name_mark, proper.filter_nonempty,
      firstOccurrences_of_nodup proper.distinct]
  have named : ∀ row ∈ mark primaryName names, row.name ≠ "" := by
    intro row member empty
    have inside : row.name ∈ (mark primaryName names).map (·.name) := List.mem_map_of_mem member
    rw [map_name_mark, empty] at inside
    exact proper.nonempty inside
  have primary := snd_foldl_addTo ([], "") named
  rw [if_pos rfl] at primary
  refine Prod.ext all (primary.trans ?_)
  cases found : (mark primaryName names).find? (·.isPrimary) with
  | some row =>
    obtain ⟨name, -, rfl⟩ := List.mem_map.1 (List.mem_of_find?_eq_some found)
    have marked := List.find?_some found
    exact eq_of_beq marked
  | none =>
    by_contra marked
    have member := proper.primary (Ne.symm marked)
    have unmarked := List.find?_eq_none.1 found _ (List.mem_map_of_mem member)
    simp at unmarked

end MarkedName

end PartsCatalog

import Mathlib.Data.List.Find
import PartsCatalog.Proofs.Catalog.Answers
import PartsCatalog.Proofs.Inventory.Reachable

/-!
# Names in the inventory

The names that are kept of a material passed the check for names when they came in, whichever change
brought them (`namesChecked_run_empty`).  So none of them is empty, and the two rules for the name
to show first agree: the marks of the kept names decide as the collected names do
(`shownName_materialView`).
-/

namespace PartsCatalog

namespace MarkedName

variable {names : List MarkedName}

@[simp] theorem map_name_mark (primaryName : String) (names : List String) :
    (mark primaryName names).map (·.name) = names := by
  rw [mark, List.map_map]
  exact List.map_id names

/-! ## The name to show first -/

/-- The collected names start with the first name. -/
theorem head?_foldl_addTo (known : List String × String)
    (proper : ∀ row ∈ names, row.name ≠ "") :
    (names.foldl (fun known name => name.addTo known) known).1.head? =
      (known.1.head?).or (names.head?.map (·.name)) := by
  induction names generalizing known with
  | nil => simp
  | cons row rows ih =>
    have named : row.name ≠ "" := proper row List.mem_cons_self
    rw [List.foldl_cons, ih _ fun row' member => proper row' (List.mem_cons_of_mem row member)]
    obtain ⟨collected, primary⟩ := known
    cases collected with
    | nil => simp [addTo, named]
    | cons first rest =>
      by_cases present : row.name = first ∨ row.name ∈ rest <;> simp [addTo, named, present]

/-- The collected primary name is the first marked one, unless there was one before. -/
theorem snd_foldl_addTo (known : List String × String)
    (proper : ∀ row ∈ names, row.name ≠ "") :
    (names.foldl (fun known name => name.addTo known) known).2 =
      if known.2 = "" then ((names.find? (·.isPrimary)).map (·.name)).getD "" else known.2 := by
  have found : (names.find? fun row => row.isPrimary && !row.name.isEmpty) =
      names.find? (·.isPrimary) := by
    refine List.find?_congr fun row member => ?_
    simp [proper row member]
  rw [snd_foldl, found]

end MarkedName

namespace Inventory

variable {inv inv' : Inventory} {id : EntityId}

/-! ## The invariant -/

/-- The names that are kept of every material pass the check for names. -/
def NamesChecked (inv : Inventory) : Prop :=
  ∀ id names, inv.names.get? id = some names → FieldCheck.names (names.map (·.name)) = .ok ()

theorem NamesChecked.of_effect {change : Change} {outcome : Outcome} (checked : inv.NamesChecked)
    (effect : Effect inv change outcome inv') : inv'.NamesChecked := by
  cases effect with
  | addMaterial proper measured =>
    exact Table.forall_get?_insert (by rwa [MarkedName.map_name_mark]) checked
  | renameMaterial found proper =>
    obtain ⟨proper, rfl⟩ := Material.setNames_eq_ok proper
    exact Table.forall_get?_insert (by rwa [MarkedName.map_name_mark]) checked
  | removeMaterial present => exact Table.forall_get?_erase checked
  | @addProduct p =>
    obtain ⟨links, parts⟩ := exists_putParts_eq inv.nextId p.materials (inv.advance.putProduct
      inv.nextId { name := p.name, description := p.description })
    rw [parts]
    exact checked
  -- no other change touches a name
  | addUnit | renameUnit | removeUnit | changeUnit | describeMaterial | reviseProduct | setPart
  | removePart | removeProduct | addFile | choosePicture | removeFile => exact checked

theorem namesChecked_run_empty (changes : List Change) : (empty.run changes).NamesChecked := by
  have checked : empty.NamesChecked := by
    intro id names found
    cases found
  exact run_invariant NamesChecked.of_effect checked changes

/-! ## Shown names -/

theorem NamesChecked.ne_empty (checked : inv.NamesChecked) :
    ∀ row ∈ inv.storedNames id, row.name ≠ "" := by
  intro row member
  cases found : inv.names.get? id with
  | none =>
    rw [storedNames, found] at member
    cases member
  | some names =>
    rw [storedNames, found] at member
    exact FieldCheck.ne_empty_of_names (checked id names found) (List.mem_map_of_mem member)

/-- A material shows the same name first, whether the marks of its kept names or its collected
names are asked. -/
theorem NamesChecked.shownName_materialView (checked : inv.NamesChecked)
    (record : StoredMaterial) : (inv.materialView id record).shownName = inv.shownName id := by
  have proper : ∀ row ∈ inv.storedNames id, row.name ≠ "" := checked.ne_empty
  have primary := MarkedName.snd_foldl_addTo ([], "") proper
  have first := MarkedName.head?_foldl_addTo ([], "") proper
  rw [if_pos rfl] at primary
  rw [List.head?_nil, Option.none_or] at first
  simp only [Material.shownName, Material.hasPrimaryName, materialView, MarkedName.collect,
    Inventory.shownName, MarkedName.shown, primary]
  cases marked : (inv.storedNames id).find? (·.isPrimary) with
  | some row =>
    have named : row.name ≠ "" := proper row (List.mem_of_find?_eq_some marked)
    simp [named]
  | none =>
    rw [List.headD_eq_head?_getD, first]
    cases (inv.storedNames id).head? <;> simp

end Inventory

end PartsCatalog

import PartsCatalog.Proofs.Catalog.Parts
import PartsCatalog.Proofs.Requirement.Stock

/-!
# Reports on the catalog

A report on a product that is there never fails for what somebody enters as the stock
(`forms_never_fail`): the fields of the form become a stock that can be calculated with, and no
quantity that the inventory keeps is an error.
-/

namespace PartsCatalog.Inventory

/-- **A form never makes a report fail**, whatever its fields hold and whatever changes came before.
The report lists every material of the product once.  The stock has an amount for each material with
a field, and for no other; it is what the last field of the material holds if that is a number,
finite and not below zero, and zero otherwise. -/
theorem forms_never_fail (changes : List Change) (productId : EntityId) (count : Nat)
    (inputs : List (EntityId × String)) :
    let inv := empty.run changes
    let stock := Stock.ofInputs inputs
    (productId ∈ inv.products.ids → 1 ≤ count →
      ∃ p report, inv.product productId = .ok p ∧ inv.report productId count stock = .ok report ∧
        report.count = count ∧
        (report.calculable.map (·.materialId) ++ report.nonCalculable.map (·.id)).Perm
          (p.materials.map (·.id))) ∧
    (∀ id, id ∈ stock.ids ↔ id ∈ inputs.map Prod.fst) ∧
    (∀ before id raw after, inputs = before ++ (id, raw) :: after → id ∉ after.map Prod.fst →
      stock.get? id = some (Stock.readAmount raw) ∧ Stock.Reads raw (Stock.readAmount raw)) ∧
    ∀ id amount, stock.get? id = some amount →
      amount.isFinite ∧ Binary64.zero.atMost amount := by
  intro inv stock
  refine ⟨fun present positive => ?_, fun id => Stock.mem_ids_ofInputs, ?_, ?_⟩
  · obtain ⟨p, read, -⟩ := (valid_empty.run changes).exists_product present
    have valid (id : EntityId) : Stock.isValidAmount (stock.of id) :=
      (Stock.proper_of_ofInputs inputs id).isValidAmount
    have reported := Report.ofMaterials_eq_ok p.id p.materials positive valid
    refine ⟨p, _, read, ?_, rfl, Report.listed_perm valid reported⟩
    rw [report, read, ok_bind]
    exact reported
  · rintro before id raw after rfl last
    exact ⟨Stock.get?_ofInputs_of_last last, Stock.readAmount_reads raw⟩
  · exact Stock.proper_of_get?_ofInputs

/-- A stock of the bench's materials, with a second thought about the steel and without a sensible
amount of oil. -/
def benchForm : List (EntityId × String) :=
  [(2, "1e999"), (3, "-inf"), (2, " 7,5 "), (3, "enough")]

theorem benchForm_never_fails :
    4 ∈ (empty.run bench).products.ids ∧ 1 ≤ 3 ∧
      (∃ report, (empty.run bench).report 4 3 (Stock.ofInputs benchForm) = .ok report) ∧
      (Stock.ofInputs benchForm).get? 2 = some (Stock.readAmount " 7,5 ") ∧
      (Stock.readAmount " 7,5 ").fixed 1 = "7.5" := by
  have present : (4 : EntityId) ∈ (empty.run bench).products.ids := by decide
  obtain ⟨reports, -, last, -⟩ := forms_never_fail bench 4 3 benchForm
  obtain ⟨p, report, -, reported, -⟩ := reports present (by decide)
  obtain ⟨steel, -⟩ := last [(2, "1e999"), (3, "-inf")] 2 " 7,5 " [(3, "enough")] rfl (by decide)
  exact ⟨present, by decide, ⟨report, reported⟩, steel, by decide +kernel⟩

end PartsCatalog.Inventory

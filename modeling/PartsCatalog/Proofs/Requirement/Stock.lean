import PartsCatalog.Proofs.Binary64.Order
import PartsCatalog.Proofs.Quantity
import PartsCatalog.Proofs.Requirement.Report
import PartsCatalog.Proofs.Table

/-!
# Stock from forms

Whatever people enter, a form gives a stock that can be calculated with: the last field of a
material counts, and it gives the number that it holds if this is finite and not below zero, and
zero otherwise (`readAmount_reads`).  With such a stock a report never fails (`ofMaterials_eq_ok`),
and it lists every material of the product once (`listed_perm`).
-/

namespace PartsCatalog

open Binary64

namespace Stock

variable {inputs before after : List (EntityId × String)} {id : EntityId} {raw : String}

/-- An amount that can be in stock. -/
def Proper (x : Binary64) : Prop := x.isFinite ∧ zero.atMost x

/-- What a field of a form gives as the amount in stock. -/
inductive Reads (raw : String) : Binary64 → Prop
  /-- A number that can be in stock is the amount. -/
  | amount {x : Binary64} (number : Quantity.parseNumber? raw = some x) (proper : Proper x) :
    Reads raw x
  /-- Without such a number there is nothing in stock. -/
  | nothing (improper : ∀ x, Quantity.parseNumber? raw = some x → ¬ Proper x) : Reads raw zero

theorem Reads.proper {x : Binary64} (reads : Reads raw x) : Proper x := by
  cases reads with
  | amount _ proper => exact proper
  | nothing => exact ⟨rfl, rfl⟩

theorem readAmount_reads (raw : String) : Reads raw (readAmount raw) := by
  unfold readAmount
  cases kept : (Quantity.parseNumber? raw).filter zero.atMost with
  | none =>
    refine .nothing fun x number proper => ?_
    exact Option.filter_eq_none_iff.1 kept x number proper.2
  | some x =>
    obtain ⟨number, enough⟩ := Option.filter_eq_some_iff.1 kept
    exact .amount number ⟨isFinite_of_ofText? number, enough⟩

theorem Proper.isValidAmount {x : Binary64} (proper : Proper x) : isValidAmount x := by
  rw [Stock.isValidAmount, proper.1, not_less_of_atMost proper.2]
  rfl

/-- The materials of a stock from a form are those that have a field. -/
theorem mem_ids_ofInputs : id ∈ (ofInputs inputs).ids ↔ id ∈ inputs.map Prod.fst := by
  rw [ofInputs, Table.mem_ids_ofPairs, List.map_map]
  rfl

theorem get?_ofInputs_of_last (last : id ∉ after.map Prod.fst) :
    (ofInputs (before ++ (id, raw) :: after)).get? id = some (readAmount raw) := by
  rw [ofInputs, List.map_append, List.map_cons]
  apply Table.get?_ofPairs_of_last
  rw [List.map_map]
  exact last

theorem proper_of_get?_ofInputs :
    ∀ id x, (ofInputs inputs).get? id = some x → Proper x := by
  apply Table.forall_get?_ofPairs (P := fun _ => Proper)
  intro pair member
  obtain ⟨input, -, rfl⟩ := List.mem_map.1 member
  exact (readAmount_reads input.2).proper

theorem proper_of_ofInputs (inputs : List (EntityId × String)) (id : EntityId) :
    Proper ((ofInputs inputs).of id) := by
  unfold Stock.of
  cases found : (ofInputs inputs).get? id with
  | none => exact ⟨rfl, rfl⟩
  | some x => exact proper_of_get?_ofInputs id x found

end Stock

/-! ## Taking lists apart -/

section Lists

variable {α β γ : Type} {f : α → Option β} {xs : List α}

theorem map_filterMap_eq {g : β → γ} {h : α → γ}
    (same : ∀ x ∈ xs, ∀ y, f x = some y → g y = h x) :
    (xs.filterMap f).map g = (xs.filter fun x => (f x).isSome).map h := by
  induction xs with
  | nil => rfl
  | cons x xs ih =>
    obtain ⟨first, others⟩ := List.forall_mem_cons.1 same
    cases found : f x with
    | none =>
      rw [List.filterMap_cons_none found, ih others, List.filter_cons_of_neg (by simp [found])]
    | some y =>
      rw [List.filterMap_cons_some found, List.filter_cons_of_pos (by simp [found]), List.map_cons,
        List.map_cons, ih others, first y found]

theorem filter_isSome_append_isNone_perm (f : α → Option β) (xs : List α) :
    ((xs.filter fun x => (f x).isSome) ++ xs.filter fun x => (f x).isNone).Perm xs := by
  simpa using List.filter_append_perm (fun x => (f x).isSome) xs

/-- Selected elements stand beside what they were selected for. -/
theorem forall₂_filterMap {R : α → β → Prop} {p : α → Bool} (selects : ∀ x, (f x).isSome = p x)
    (related : ∀ x y, f x = some y → R x y) (xs : List α) :
    List.Forall₂ R (xs.filter p) (xs.filterMap f) := by
  induction xs with
  | nil => exact .nil
  | cons x xs ih =>
    cases found : f x with
    | none =>
      have unselected : ¬ p x := by simp [← selects, found]
      rwa [List.filter_cons_of_neg unselected, List.filterMap_cons_none found]
    | some y =>
      have selected : p x := by simp [← selects, found]
      rw [List.filter_cons_of_pos selected, List.filterMap_cons_some found]
      exact .cons (related x y found) ih

end Lists

namespace Report

variable {count : Nat} {stock : Stock} {m : Material} {perUnit : Binary64}

/-- The requirement of a material of which the stock is valid. -/
def assess (count : Nat) (stock : Stock) (m : Material) (perUnit : Binary64) :
    Option Requirement :=
  (Figures.compute? perUnit count (stock.of m.id)).map fun figures =>
    { materialId := m.id
      materialName := m.shownName
      unitName := m.unit.name
      perUnitInput := m.shownQuantity
      perUnit
      stock := stock.of m.id
      figures }

theorem requirement?_eq_ok (valid : Stock.isValidAmount (stock.of m.id)) :
    m.requirement? perUnit count stock = .ok (assess count stock m perUnit) := by
  unfold Material.requirement?
  rw [if_pos valid]
  rfl

/-- The materials with a number, each with its requirement. -/
def assessed (count : Nat) (stock : Stock) (materials : List Material) :
    List (Material × Option Requirement) :=
  (numericMaterials materials).map fun pair => (pair.1, assess count stock pair.1 pair.2)

theorem mem_numericMaterials {materials : List Material} {pair : Material × Binary64} :
    pair ∈ numericMaterials materials ↔ pair.1 ∈ materials ∧ pair.1.amount? = some pair.2 := by
  obtain ⟨m, value⟩ := pair
  simp only [numericMaterials, List.mem_filterMap, Option.map_eq_some_iff, Prod.mk.injEq]
  constructor
  · rintro ⟨m', member, value', numbered, rfl, rfl⟩
    exact ⟨member, numbered⟩
  · rintro ⟨member, numbered⟩
    exact ⟨m, member, value, numbered, rfl, rfl⟩

theorem mapM_requirement? {materials : List Material}
    (valid : ∀ m ∈ materials, m.amount?.isSome → Stock.isValidAmount (stock.of m.id)) :
    ((numericMaterials materials).mapM fun (m, perUnit) => do
      return (m, ← m.requirement? perUnit count stock)) = .ok (assessed count stock materials) := by
  refine mapM_eq_ok fun pair member => ?_
  obtain ⟨inside, numbered⟩ := mem_numericMaterials.1 member
  change (pair.1.requirement? pair.2 count stock >>= fun r => pure (pair.1, r)) = _
  rw [requirement?_eq_ok (valid pair.1 inside (by rw [numbered]; rfl))]
  rfl

theorem map_id_assessed (materials : List Material) :
    (assessed count stock materials).map (·.1.id) =
      (materials.filter (·.amount?.isSome)).map (·.id) := by
  rw [assessed, List.map_map, numericMaterials, map_filterMap_eq (h := Material.id)]
  · simp only [Option.isSome_map]
  · intro m _ pair numbered
    obtain ⟨value, -, rfl⟩ := Option.map_eq_some_iff.1 numbered
    rfl

theorem map_materialId_assessed (materials : List Material) :
    ((assessed count stock materials).filterMap (·.2)).map (·.materialId) =
      ((assessed count stock materials).filter (·.2.isSome)).map (·.1.id) := by
  refine map_filterMap_eq fun entry member r required => ?_
  obtain ⟨pair, -, rfl⟩ := List.mem_map.1 member
  obtain ⟨figures, -, rfl⟩ := Option.map_eq_some_iff.1 required
  rfl

/-- With a valid stock of every material that has a number there is a report. -/
theorem ofMaterials_eq_ok_of_valid (productId : EntityId) {materials : List Material}
    (positive : 1 ≤ count)
    (valid : ∀ m ∈ materials, m.amount?.isSome → Stock.isValidAmount (stock.of m.id)) :
    ofMaterials productId materials count stock = .ok {
      productId
      count
      calculable := (assessed count stock materials).filterMap (·.2)
      nonCalculable := materials.filter (·.amount?.isNone)
        ++ ((assessed count stock materials).filter (·.2.isNone)).map (·.1) } := by
  unfold ofMaterials
  rw [if_neg (Nat.ne_of_gt positive), mapM_requirement? valid]
  rfl

/-- With a valid stock there is a report. -/
theorem ofMaterials_eq_ok (productId : EntityId) (materials : List Material)
    (positive : 1 ≤ count) (valid : ∀ id, Stock.isValidAmount (stock.of id)) :
    ofMaterials productId materials count stock = .ok {
      productId
      count
      calculable := (assessed count stock materials).filterMap (·.2)
      nonCalculable := materials.filter (·.amount?.isNone)
        ++ ((assessed count stock materials).filter (·.2.isNone)).map (·.1) } :=
  ofMaterials_eq_ok_of_valid productId positive fun m _ _ => valid m.id

/-- Every material is listed once: with its requirement, or among those that cannot be
calculated. -/
theorem listed_perm (valid : ∀ id, Stock.isValidAmount (stock.of id)) {productId : EntityId}
    {materials : List Material} {report : Report}
    (reported : ofMaterials productId materials count stock = .ok report) :
    (report.calculable.map (·.materialId) ++ report.nonCalculable.map (·.id)).Perm
      (materials.map (·.id)) := by
  have positive : 1 ≤ count := (of_ofMaterials reported).1
  rw [ofMaterials_eq_ok productId materials positive valid] at reported
  obtain rfl := Except.ok.inj reported
  have numbered : (((assessed count stock materials).filter (·.2.isSome)).map (·.1.id) ++
      ((assessed count stock materials).filter (·.2.isNone)).map (·.1.id)).Perm
        ((materials.filter (·.amount?.isSome)).map (·.id)) := by
    rw [← map_id_assessed, ← List.map_append]
    exact (filter_isSome_append_isNone_perm _ _).map _
  have all := (filter_isSome_append_isNone_perm Material.amount? materials).map Material.id
  rw [List.map_append] at all
  rw [map_materialId_assessed, List.map_append, List.map_map]
  refine List.Perm.trans ?_ ((numbered.append_right _).trans all)
  rw [List.append_assoc]
  exact List.perm_append_comm.append_left _

end Report

end PartsCatalog

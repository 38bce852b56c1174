import PartsCatalog.Proofs.Requirement.Stock

/-!
# Places in a report

A report fails for the first material whose number meets a stock that is none.  Otherwise every
material has one place in it, at which it stands as often as it comes: with its figures, or among
those without a number, or behind these if its total is past all numbers
(`report_places_every_material`).  That is decided by the binary64 total alone: what can be
calculated as a decimal is far below that limit (`isSome_compute?`).
-/

namespace PartsCatalog

open Binary64

/-! ## Places -/

/-- A place that a material can have in a report. -/
inductive Place where
  | calculated
  | withoutNumber
  | pastNumbers
deriving DecidableEq

/-- The place of a material in a report on so many pieces. -/
def Material.place (count : Nat) (m : Material) : Place :=
  match m.amount? with
  | none => .withoutNumber
  | some perUnit =>
    if (perUnit.mul (.ofNat count)).isFinite then .calculated else .pastNumbers

/-- The positions of the materials with one place, in ascending order. -/
def Place.positions (place : Place) (count : Nat) (materials : List Material) :
    List (Fin materials.length) :=
  (List.finRange materials.length).filter fun i => (materials.get i).place count = place

/-- What a report says of a material. -/
structure Requirement.Describes (r : Requirement) (m : Material) (count : Nat) (stock : Stock) :
    Prop where
  materialId : r.materialId = m.id
  materialName : r.materialName = m.shownName
  unitName : r.unitName = m.unit.name
  perUnitInput : r.perUnitInput = m.shownQuantity
  perUnit : m.amount? = some r.perUnit
  stock : r.stock = stock.of m.id
  figures : Figures.compute? r.perUnit count r.stock = some r.figures

/-- A material has a number, and its stock is none: it is not finite or below zero. -/
def Stock.Faulty (stock : Stock) (m : Material) (fault : Fault) : Prop :=
  m.amount?.isSome ∧ (¬ (stock.of m.id).isFinite ∨ (stock.of m.id).less .zero) ∧
    fault = .stockInvalid m.id (stock.of m.id)

/-- The three places share out a list. -/
theorem Place.filter_perm {α : Type} (place : α → Place) (xs : List α) :
    (xs.filter (place · = .calculated) ++
      (xs.filter (place · = .withoutNumber) ++ xs.filter (place · = .pastNumbers))).Perm xs := by
  induction xs with
  | nil => exact .nil
  | cons x xs ih =>
    cases placed : place x with
    | calculated => simpa [placed] using ih
    | withoutNumber => simpa [placed] using List.perm_middle.trans (ih.cons x)
    | pastNumbers =>
      rw [← List.append_assoc] at ih ⊢
      simpa [placed] using List.perm_middle.trans (ih.cons x)

namespace Material

variable {m : Material} {count : Nat} {perUnit : Binary64}

theorem place_of_none (unnumbered : m.amount? = none) : m.place count = .withoutNumber := by
  rw [place, unnumbered]

theorem place_of_some (numbered : m.amount? = some perUnit) :
    m.place count =
      if (perUnit.mul (.ofNat count)).isFinite then .calculated else .pastNumbers := by
  rw [place, numbered]

end Material

/-! ## Totals past all numbers -/

namespace Figures

variable {perUnit stock : Binary64} {count : Nat}

/-- There are decimal figures only where the binary64 total is finite. -/
theorem isFinite_of_ofDecimals? {figures : Figures}
    (computed : ofDecimals? perUnit count stock = some figures) (counted : count < 2 ^ 32) :
    (perUnit.mul (.ofNat count)).isFinite := by
  obtain ⟨unit, -, -, -, converted, -⟩ := ofDecimals?_eq_some computed
  cases perUnit with
  | nan => cases converted
  | infinite negative => cases converted
  | finite negative rank =>
    exact isFinite_mul_ofNat (Decimal.rank_lt_of_ofBinary64? converted) counted (by decide)
      (by decide)

/-- There are figures exactly where the binary64 total is finite. -/
theorem isSome_compute? (counted : count < 2 ^ 32) :
    (compute? perUnit count stock).isSome = (perUnit.mul (.ofNat count)).isFinite := by
  rw [Bool.eq_iff_iff]
  constructor
  · intro some
    obtain ⟨figures, computed⟩ := Option.isSome_iff_exists.1 some
    rcases compute?_eq_some computed with decimals | ⟨-, rounded⟩
    · exact isFinite_of_ofDecimals? decimals counted
    · exact (ofBinary64?_eq_some rounded).1
  · intro isFinite
    rw [compute?, ofBinary64?, if_pos isFinite]
    cases ofDecimals? perUnit count stock <;> rfl

end Figures

namespace Report

variable {count : Nat} {stock : Stock} {m : Material} {materials : List Material}

/-- The requirement of a material, if it has a number and a total. -/
def required? (count : Nat) (stock : Stock) (m : Material) : Option Requirement :=
  m.amount?.bind (assess count stock m)

theorem describes_of_required? {r : Requirement} (required : required? count stock m = some r) :
    r.Describes m count stock := by
  obtain ⟨perUnit, numbered, assessment⟩ := Option.bind_eq_some_iff.1 required
  obtain ⟨figures, computed, rfl⟩ := Option.map_eq_some_iff.1 assessment
  exact ⟨rfl, rfl, rfl, rfl, numbered, rfl, computed⟩

theorem isSome_required? (counted : count < 2 ^ 32) :
    (required? count stock m).isSome = decide (m.place count = .calculated) := by
  cases numbered : m.amount? with
  | none =>
    rw [required?, numbered, Material.place_of_none numbered]
    rfl
  | some perUnit =>
    rw [required?, numbered, Material.place_of_some numbered, Option.bind_some, assess,
      Option.isSome_map, Figures.isSome_compute? counted]
    by_cases isFinite : (perUnit.mul (.ofNat count)).isFinite <;> simp [isFinite]

theorem isNone_amount? : m.amount?.isNone = decide (m.place count = .withoutNumber) := by
  cases numbered : m.amount? with
  | none => simp [Material.place_of_none numbered]
  | some perUnit =>
    rw [Material.place_of_some numbered]
    by_cases isFinite : (perUnit.mul (.ofNat count)).isFinite <;> simp [isFinite]

/-- A material that has a number and no requirement has the third place, as there is no other. -/
theorem isNone_required? (counted : count < 2 ^ 32) :
    (m.amount?.isSome && (required? count stock m).isNone) =
      decide (m.place count = .pastNumbers) := by
  have numbered : m.amount?.isSome = !decide (m.place count = .withoutNumber) := by
    rw [← isNone_amount?, Option.not_isNone]
  have missing : (required? count stock m).isNone = !decide (m.place count = .calculated) := by
    rw [← isSome_required? counted, Option.not_isSome]
  rw [numbered, missing]
  cases m.place count <;> rfl

theorem filterMap_assessed :
    (assessed count stock materials).filterMap (·.2) =
      materials.filterMap (required? count stock) := by
  rw [assessed, List.filterMap_map, numericMaterials, List.filterMap_filterMap]
  congr 1
  funext m
  rw [required?]
  cases m.amount? <;> rfl

theorem map_fst_assessed :
    ((assessed count stock materials).filter (·.2.isNone)).map (·.1) =
      materials.filter fun m => m.amount?.isSome && (required? count stock m).isNone := by
  induction materials with
  | nil => rfl
  | cons m materials ih =>
    rw [assessed, numericMaterials] at ih ⊢
    rw [List.filter_cons, ← ih, required?]
    cases numbered : m.amount? with
    | none => simp [numbered]
    | some perUnit =>
      cases missing : (assess count stock m perUnit).isNone <;> simp [numbered, missing]

/-! ## Positions -/

theorem map_get_positions (place : Place) :
    (place.positions count materials).map materials.get =
      materials.filter fun m => m.place count = place := by
  conv_rhs => rw [← List.map_get_finRange materials, List.filter_map]
  rfl

/-- The requirements stand beside the materials that they describe. -/
theorem forall₂_describes (counted : count < 2 ^ 32) :
    List.Forall₂ (fun i r => Requirement.Describes r (materials.get i) count stock)
      (Place.calculated.positions count materials)
      (materials.filterMap (required? count stock)) := by
  conv in materials.filterMap _ => rw [← List.map_get_finRange materials, List.filterMap_map]
  exact forall₂_filterMap (fun i => isSome_required? counted)
    (fun i r => describes_of_required?) _

/-! ## Faults -/

theorem isValidAmount_eq_false_iff {x : Binary64} :
    Stock.isValidAmount x = false ↔ ¬ x.isFinite ∨ x.less .zero := by
  rw [Stock.isValidAmount]
  cases x.isFinite <;> cases x.less .zero <;> simp

theorem requirement?_eq_error_iff (m : Material) (perUnit : Binary64) (count : Nat)
    (stock : Stock) (fault : Fault) : m.requirement? perUnit count stock = .error fault ↔
      (¬ (stock.of m.id).isFinite ∨ (stock.of m.id).less .zero) ∧
        fault = .stockInvalid m.id (stock.of m.id) := by
  rw [← isValidAmount_eq_false_iff, Material.requirement?]
  cases Stock.isValidAmount (stock.of m.id) <;> simp [eq_comm]

/-- The loop over the materials with a number fails for the first faulty stock. -/
theorem mapM_requirement?_eq_error_iff (materials : List Material) (count : Nat) (stock : Stock)
    (fault : Fault) : ((numericMaterials materials).mapM fun (m, perUnit) => do
        return (m, ← m.requirement? perUnit count stock)) = .error fault ↔
      FirstFault stock.Faulty materials fault := by
  have each : ∀ (pair : Material × Binary64) fault,
      (do return (pair.1, ← pair.1.requirement? pair.2 count stock)) = Except.error fault ↔
        (¬ (stock.of pair.1.id).isFinite ∨ (stock.of pair.1.id).less .zero) ∧
          fault = .stockInvalid pair.1.id (stock.of pair.1.id) := by
    intro pair fault
    rw [← requirement?_eq_error_iff pair.1 pair.2 count stock]
    cases pair.1.requirement? pair.2 count stock <;> simp [bind, Except.bind, pure, Except.pure]
  refine (mapM_eq_error_iff each).trans ?_
  rw [numericMaterials, firstFault_filterMap]
  refine firstFault_congr (List.forall₂_same.2 fun m _ fault => ?_)
  rw [Stock.Faulty, Option.isSome_iff_exists]
  cases m.amount? <;> simp

theorem ofMaterials_eq_error_iff (productId : EntityId) (materials : List Material) (count : Nat)
    (stock : Stock) (fault : Fault) :
    ofMaterials productId materials count stock = .error fault ↔
      count = 0 ∧ fault = .nothingToProduce ∨
        count ≠ 0 ∧ FirstFault stock.Faulty materials fault := by
  rw [← mapM_requirement?_eq_error_iff materials count, ofMaterials]
  by_cases nothing : count = 0
  · rw [if_pos nothing]
    simp [nothing, throw, throwThe, MonadExceptOf.throw, bind, Except.bind, eq_comm]
  · rw [if_neg nothing]
    cases (numericMaterials materials).mapM fun (m, perUnit) => do
        return (m, ← m.requirement? perUnit count stock) <;>
      simp [nothing, bind, Except.bind, pure, Except.pure]

theorem isValidAmount_of_ofMaterials {productId : EntityId} {report : Report}
    (reported : ofMaterials productId materials count stock = .ok report) :
    ∀ m ∈ materials, m.amount?.isSome → Stock.isValidAmount (stock.of m.id) := by
  have nonzero : count ≠ 0 := Nat.ne_of_gt (of_ofMaterials reported).1
  have sound : ∀ m ∈ materials, ∀ fault, ¬ stock.Faulty m fault :=
    sound_of_eq_ok reported fun fault first =>
      (ofMaterials_eq_error_iff ..).2 (.inr ⟨nonzero, first⟩)
  intro m member numbered
  by_contra invalid
  exact sound m member _
    ⟨numbered, isValidAmount_eq_false_iff.1 (Bool.eq_false_iff.2 invalid), rfl⟩

/-- **A report places every material once.**  There is none on no pieces, and otherwise it fails for
the first material that has a number and a faulty stock.  A report that is made puts every position
of the list at one place: the positions of the materials whose total is a number have the figures,
in their order, and the others are listed apart as they are, first those without a number and then
those whose total is past all numbers. -/
theorem report_places_every_material (productId : EntityId) (materials : List Material)
    (count : Nat) (stock : Stock) (counted : count < Nat.pow 2 32) :
    (∀ fault, ofMaterials productId materials count stock = .error fault ↔
      count = 0 ∧ fault = .nothingToProduce ∨
        count ≠ 0 ∧ FirstFault stock.Faulty materials fault) ∧
    (∀ fault, ofMaterials productId materials count stock = .error fault →
      fault.kind = .incorrectValue) ∧
    ((∃ fault, ofMaterials productId materials count stock = .error fault) ↔
      count = 0 ∨ ∃ m ∈ materials, ∃ fault, stock.Faulty m fault) ∧
    ∀ report, ofMaterials productId materials count stock = .ok report →
      report.productId = productId ∧ report.count = count ∧
      (Place.calculated.positions count materials ++
        (Place.withoutNumber.positions count materials ++
          Place.pastNumbers.positions count materials)).Perm (List.finRange materials.length) ∧
      List.Forall₂ (fun i r => Requirement.Describes r (materials.get i) count stock)
        (Place.calculated.positions count materials) report.calculable ∧
      report.nonCalculable = (Place.withoutNumber.positions count materials ++
        Place.pastNumbers.positions count materials).map materials.get := by
  have failing := ofMaterials_eq_error_iff productId materials count stock
  refine ⟨failing, ?_, ?_, ?_⟩
  · intro fault failed
    rcases (failing fault).1 failed with ⟨-, rfl⟩ | ⟨-, before, m, after, -, -, -, -, rfl⟩ <;> rfl
  · simp only [failing, exists_or, exists_and_left, exists_eq, and_true, exists_firstFault_iff]
    by_cases nothing : count = 0 <;> simp [nothing]
  · intro report reported
    have positive := (of_ofMaterials reported).1
    rw [ofMaterials_eq_ok_of_valid productId positive (isValidAmount_of_ofMaterials reported)]
      at reported
    obtain rfl := Except.ok.inj reported
    refine ⟨rfl, rfl, Place.filter_perm _ _, ?_, ?_⟩
    · rw [filterMap_assessed]
      exact forall₂_describes counted
    · rw [map_fst_assessed, List.map_append, map_get_positions, map_get_positions]
      simp only [isNone_required? counted, ← isNone_amount?]

/-- The largest number times two is none, and two and a half times two is one. -/
theorem dust_without_end_is_listed_apart :
    2 < Nat.pow 2 32 ∧ ∃ report,
      ofMaterials 1 [takes 0x7fefffffffffffff, takes 0x4004000000000000] 2
        (holds 0x4024000000000000) = .ok report ∧
      report.nonCalculable = [takes 0x7fefffffffffffff] := by
  have apart : Place.withoutNumber.positions 2
        [takes 0x7fefffffffffffff, takes 0x4004000000000000] ++
      Place.pastNumbers.positions 2 [takes 0x7fefffffffffffff, takes 0x4004000000000000] = [0] := by
    decide +kernel
  obtain ⟨report, reported, -⟩ := exists_of_any (show
      (ofMaterials 1 [takes 0x7fefffffffffffff, takes 0x4004000000000000] 2
        (holds 0x4024000000000000)).toOption.any (fun _ => true) = true by decide +kernel)
  obtain ⟨-, -, -, placed⟩ := report_places_every_material 1
    [takes 0x7fefffffffffffff, takes 0x4004000000000000] 2 (holds 0x4024000000000000) (by decide)
  obtain ⟨-, -, -, -, nonCalculable⟩ := placed report reported
  rw [apart] at nonCalculable
  exact ⟨by decide, report, reported, nonCalculable⟩

end Report

end PartsCatalog

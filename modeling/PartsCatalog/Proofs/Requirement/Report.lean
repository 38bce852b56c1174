import PartsCatalog.Proofs.Attempt
import PartsCatalog.Proofs.Requirement.Exact

/-!
# Reports and their figures

A report tells in two ways whether the stock suffices: by what it lacks, and by how many pieces can
be made of it.  The two agree for every material whose figures are `Clear`, and with them the whole
report (`report_agrees_with_itself`).  Where something is lost on the way, they need not
(`reports_contradict_themselves`).
-/

namespace PartsCatalog

open Binary64

/-- The figures of a material can be relied on to agree: computed as decimals, if the quantity of
one piece is not lost on the way; rounded, if the stock is not just short of the total. -/
def Requirement.Clear (r : Requirement) (count : Nat) : Prop :=
  ((Figures.ofDecimals? r.perUnit count r.stock).isSome →
    ∀ unit ∈ Decimal.ofBinary64? r.perUnit, unit.coefficient ≠ 0) ∧
  ((Figures.ofDecimals? r.perUnit count r.stock).isNone →
    ¬ JustShort r.perUnit count r.stock)

instance (perUnit : Binary64) (count : Nat) (stock : Binary64) :
    Decidable (JustShort perUnit count stock) := inferInstanceAs (Decidable (_ ∧ _))

instance (r : Requirement) (count : Nat) : Decidable (r.Clear count) :=
  inferInstanceAs (Decidable (_ ∧ _))

/-- Some material bounds the production below the count, and yet the stock lacks none of it. -/
def Report.Contradictory (report : Report) : Prop :=
  ∃ r ∈ report.calculable, r.boundsProduction ∧ ¬ r.isLacking ∧ r.figures.canProduce < report.count

instance (report : Report) : Decidable report.Contradictory :=
  inferInstanceAs (Decidable (∃ r ∈ report.calculable, _ ∧ _))

namespace Figures

variable {perUnit stock : Binary64} {count : Nat} {figures : Figures}

/-- Figures are the decimal ones, or the binary64 ones where there are no others. -/
theorem compute?_eq_some (computed : compute? perUnit count stock = some figures) :
    ofDecimals? perUnit count stock = some figures ∨
      ofDecimals? perUnit count stock = none ∧
        ofBinary64? perUnit count stock = some figures := by
  unfold compute? at computed
  cases decimals : ofDecimals? perUnit count stock with
  | some found =>
    rw [decimals] at computed
    exact .inl computed
  | none =>
    rw [decimals] at computed
    exact .inr ⟨rfl, computed⟩

/-- Decimal figures of what is not above zero lack nothing. -/
theorem not_lacking_ofDecimals? (computed : ofDecimals? perUnit count stock = some figures)
    (none : ¬ zero.less perUnit) (valid : Stock.isValidAmount stock) (small : count < 2 ^ 32) :
    ¬ zero.less figures.additional := by
  obtain ⟨unit, available, total, difference, unitIs, stockIs, totalIs, differenceIs, additional,
    -⟩ := ofDecimals?_eq_some computed
  obtain ⟨coefficient, -⟩ := total_exact (Decimal.converted_ofBinary64? unitIs) small totalIs
  have totalNonpos : total.coefficient * 10 ^ available.scale ≤ 0 := by
    rw [coefficient]
    exact Int.mul_nonpos_of_nonpos_of_nonneg
      (Int.mul_nonpos_of_nonpos_of_nonneg (coefficient_nonpos none unitIs) (Int.natCast_nonneg _))
      (Int.pow_nonneg (by decide))
  have stockNonneg : 0 ≤ available.coefficient * 10 ^ total.scale :=
    Int.mul_nonneg (coefficient_stock valid stockIs) (Int.pow_nonneg (by decide))
  rw [additional, Decimal.zero_less_toBinary64_clampBelow, Decimal.isPositive_minus? differenceIs]
  omega

/-- So do binary64 figures. -/
theorem not_lacking_ofBinary64? (computed : ofBinary64? perUnit count stock = some figures)
    (none : ¬ zero.less perUnit) (valid : Stock.isValidAmount stock) (fits : count ≤ 2 ^ 53) :
    ¬ zero.less figures.additional := by
  obtain ⟨isFinite, additional, -⟩ := ofBinary64?_eq_some computed
  obtain ⟨n, represented, exact⟩ := exists_ofNat_eq fits
  obtain ⟨_, b, rfl, -, stockValue⟩ := exists_of_isValidAmount valid
  rw [additional, zero_less_clampBelow]
  rw [represented] at isFinite ⊢
  cases perUnit with
  | nan => cases isFinite
  | infinite negative =>
    rw [mul] at isFinite
    split at isFinite <;> cases isFinite
  | finite negative a =>
    rw [mul, Bool.xor_false] at isFinite ⊢
    obtain ⟨total, rounded, nearest⟩ := exists_of_isFinite isFinite
    rw [rounded, zero_less_sub, stockValue]
    cases negative with
    | true =>
      rw [signed, if_pos rfl]
      omega
    | false =>
      have zero : units a = 0 := Nat.eq_zero_of_not_pos fun pos =>
        none (zero_less_iff.2 (.finite pos))
      rw [zero, Nat.zero_mul, nearestRank_zero unitsPerOne_pos] at nearest
      rw [signed, if_neg Bool.false_ne_true, nearest, units_zero]
      omega

/-- What is not above zero takes nothing from a stock, so the stock does not lack any of it. -/
theorem not_lacking (computed : compute? perUnit count stock = some figures)
    (none : ¬ zero.less perUnit) (valid : Stock.isValidAmount stock) (small : count < 2 ^ 32) :
    ¬ zero.less figures.additional := by
  rcases compute?_eq_some computed with decimals | ⟨-, rounded⟩
  · exact not_lacking_ofDecimals? decimals none valid small
  · exact not_lacking_ofBinary64? rounded none valid (Nat.le_of_lt (Nat.lt_trans small (by decide)))

end Figures

namespace Report

variable {productId : EntityId} {materials : List Material} {count : Nat} {stock : Stock}
  {report : Report}

theorem of_requirement? {m : Material} {perUnit : Binary64} {r : Requirement}
    (required : m.requirement? perUnit count stock = .ok (some r)) :
    Stock.isValidAmount r.stock ∧ Figures.compute? r.perUnit count r.stock = some r.figures := by
  unfold Material.requirement? at required
  by_cases valid : Stock.isValidAmount (stock.of m.id)
  · simp only [valid, if_true, Except.ok.injEq, Option.map_eq_some_iff] at required
    obtain ⟨figures, computed, rfl⟩ := required
    exact ⟨valid, computed⟩
  · simp only [valid] at required
    cases required

/-- What a report lists was computed from a stock that is one. -/
theorem of_ofMaterials (reported : ofMaterials productId materials count stock = .ok report) :
    0 < count ∧ ∀ r ∈ report.calculable, Stock.isValidAmount r.stock ∧
      Figures.compute? r.perUnit count r.stock = some r.figures := by
  unfold ofMaterials at reported
  by_cases nothing : count = 0
  · rw [if_pos nothing] at reported
    cases reported
  rw [if_neg nothing] at reported
  refine ⟨Nat.pos_of_ne_zero nothing, fun r member => ?_⟩
  obtain ⟨assessed, answers, same⟩ := bind_eq_ok.1 reported
  obtain rfl := pure_eq_ok.1 same
  obtain ⟨⟨m, answer⟩, inside, rfl⟩ := List.mem_filterMap.1 member
  obtain ⟨⟨m', perUnit⟩, -, assessment⟩ := exists_of_mem_mapM answers inside
  obtain ⟨answer, required, same⟩ := bind_eq_ok.1 assessment
  obtain rfl : answer = some r := congrArg Prod.snd (pure_eq_ok.1 same)
  exact of_requirement? required

/-- The figures of a material that bounds the production agree, unless something is lost on the
way. -/
theorem agree_of_clear {r : Requirement} (valid : Stock.isValidAmount r.stock)
    (computed : Figures.compute? r.perUnit count r.stock = some r.figures)
    (bounds : r.boundsProduction) (clear : r.Clear count) (nonzero : 0 < count)
    (small : count < 2 ^ 32) : r.isLacking ↔ r.figures.canProduce < count := by
  obtain ⟨kept, apart⟩ := clear
  rcases Figures.compute?_eq_some computed with decimals | ⟨none, rounded⟩
  · obtain ⟨unit, -, -, -, converted, -⟩ := Figures.ofDecimals?_eq_some decimals
    have nonneg := Figures.coefficient_nonneg bounds converted
    have nonzeroUnit := kept (by rw [decimals]; rfl) unit converted
    exact Figures.agree_ofDecimals? decimals converted (by omega) valid small
  · have fits : count ≤ 2 ^ 53 := Nat.le_of_lt (Nat.lt_trans small (by decide))
    exact Figures.agree_ofBinary64? rounded bounds valid nonzero fits (apart (by rw [none]; rfl))

theorem isCovered_iff : report.isCovered ↔ ∀ r ∈ report.calculable, ¬ r.isLacking := by
  rw [isCovered, lacking, List.isEmpty_iff, List.filter_eq_nil_iff]

/-- The capacity suffices for a count where every material that bounds it does. -/
theorem le_capacity?_iff {n : Nat} : (∀ most, report.capacity? = some most → n ≤ most) ↔
    ∀ r ∈ report.calculable, r.boundsProduction → n ≤ r.figures.canProduce := by
  have each : (∀ count ∈ (report.calculable.filter (·.boundsProduction)).map (·.figures.canProduce),
      n ≤ count) ↔ ∀ r ∈ report.calculable, r.boundsProduction → n ≤ r.figures.canProduce := by
    simp only [List.forall_mem_map, List.mem_filter, and_imp]
  rw [← each, capacity?]
  cases least : ((report.calculable.filter (·.boundsProduction)).map (·.figures.canProduce)).min? with
  | none =>
    rw [List.min?_eq_none_iff.1 least]
    exact iff_of_true nofun nofun
  | some most =>
    rw [← List.le_min?_iff least]
    exact ⟨fun all => all most rfl, fun enough _ same => Option.some.inj same ▸ enough⟩

/-- **A report does not contradict itself**, unless something is lost on the way.  For every
material that bounds the production, the stock is lacking exactly where it suffices for fewer pieces
than the count: if the figures are decimal, whenever the quantity of one piece is not rounded to
zero; and if they are binary64 numbers, whenever the stock is not short of the exact total by a
`2⁻⁵³` of it or less.  Where this is so of all of them, the stock covers everything exactly where
the capacity, if there is one, suffices for the count. -/
theorem report_agrees_with_itself (productId : EntityId) (materials : List Material) (count : Nat)
    (stock : Stock) (report : Report)
    (reported : ofMaterials productId materials count stock = .ok report)
    (small : count < Nat.pow 2 32) :
    (∀ r ∈ report.calculable, r.boundsProduction → r.Clear count →
      (r.isLacking ↔ r.figures.canProduce < count)) ∧
    ((∀ r ∈ report.calculable, r.boundsProduction → r.Clear count) →
      (report.isCovered ↔ ∀ most, report.capacity? = some most → count ≤ most)) := by
  obtain ⟨nonzero, computed⟩ := of_ofMaterials reported
  have agree : ∀ r ∈ report.calculable, r.boundsProduction → r.Clear count →
      (r.isLacking ↔ r.figures.canProduce < count) := fun r member bounds clear =>
    agree_of_clear (computed r member).1 (computed r member).2 bounds clear nonzero small
  refine ⟨agree, fun clear => ?_⟩
  rw [isCovered_iff, le_capacity?_iff]
  refine forall₂_congr fun r member => ?_
  by_cases bounds : r.boundsProduction
  · rw [agree r member bounds (clear r member bounds), Nat.not_lt]
    exact ⟨fun enough _ => enough, fun enough => enough bounds⟩
  · -- what one piece takes nothing of is not lacking
    have none := Figures.not_lacking (computed r member).2 bounds (computed r member).1 small
    exact iff_of_true none fun bounds' => absurd bounds' bounds

/-! ## Reports at their limits -/

/-- A computed answer that passes a check is there. -/
theorem exists_of_any {answer : Except Fault Report} {check : Report → Bool}
    (passes : answer.toOption.any check) : ∃ report, answer = .ok report ∧ check report := by
  cases answer with
  | ok report => exact ⟨report, rfl, passes⟩
  | error => cases passes

/-- A material of which one piece takes so much. -/
def takes (perUnit : UInt64) : Material :=
  { Material.new 1 { id := 1, name := "kg" } with
    names := ["Dust"], quantity := some (.numeric (.ofBits perUnit)) }

/-- A stock of so much of it. -/
def holds (amount : UInt64) : Stock := Table.ofPairs [(1, .ofBits amount)]

/-- Two and a half for each of four pieces, of which there are ten. -/
theorem covered_report_agrees : ∃ report,
    ofMaterials 1 [takes 0x4004000000000000] 4 (holds 0x4024000000000000) = .ok report ∧
      4 < Nat.pow 2 32 ∧ (∀ r ∈ report.calculable, r.boundsProduction → r.Clear 4) ∧
      (report.isCovered ↔ ∀ most, report.capacity? = some most → 4 ≤ most) := by
  obtain ⟨report, reported, clear⟩ := exists_of_any (show
      (ofMaterials 1 [takes 0x4004000000000000] 4
        (holds 0x4024000000000000)).toOption.any (fun report =>
          decide (∀ r ∈ report.calculable, r.boundsProduction → r.Clear 4)) = true
        by decide +kernel)
  have clear := of_decide_eq_true clear
  exact ⟨report, reported, by decide, clear,
    (report_agrees_with_itself _ _ _ _ _ reported (by decide)).2 clear⟩

/-- What is lost on the way makes reports contradict themselves: a quantity of `10⁻³⁰` is zero as a
decimal, so that no piece can be made of any stock; and the rounded quotient of a number in which
rounding hides a unit falls below the count that the rounded total does not exceed. -/
theorem reports_contradict_themselves :
    (∃ report, ofMaterials 1 [takes 0x39b4484bfeebc2a0] 1 (holds 0x4014000000000000) = .ok report ∧
      report.Contradictory) ∧
    ∃ report, ofMaterials 1 [takes 0x46f5555555555556] 3 (holds 0x4710000000000000) = .ok report ∧
      report.Contradictory := by
  constructor
  · obtain ⟨report, reported, contradictory⟩ := exists_of_any (show
      (ofMaterials 1 [takes 0x39b4484bfeebc2a0] 1
        (holds 0x4014000000000000)).toOption.any (fun report => decide report.Contradictory) = true
        by decide +kernel)
    exact ⟨report, reported, of_decide_eq_true contradictory⟩
  · obtain ⟨report, reported, contradictory⟩ := exists_of_any (show
      (ofMaterials 1 [takes 0x46f5555555555556] 3
        (holds 0x4710000000000000)).toOption.any (fun report => decide report.Contradictory) = true
        by decide +kernel)
    exact ⟨report, reported, of_decide_eq_true contradictory⟩

end Report

end PartsCatalog

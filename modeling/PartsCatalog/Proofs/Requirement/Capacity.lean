import PartsCatalog.Proofs.Requirement.Partition

/-!
# Capacity and count

How many pieces a stock suffices for is a matter of the stock and of what one piece takes, but the
count that was asked for decides whether this is computed with decimals or with binary64 numbers:
the total may be out of the range of decimals.  That takes a large quantity, and for such ones
either arithmetic comes out at the pieces that the stock covers (`wholePieces_eq_div_or`,
`count_eq_div_or`), apart from the very end of the range and from stocks that are just short of one
more piece.  So the numbers of two reports differ by one at most, and mostly not at all
(`pieces_depend_on_stock`).
-/

namespace PartsCatalog

open Binary64

/-- A stock of which both arithmetics count the same pieces of a large quantity: it is not the end of
the range of decimals, and not just short of one more piece than it covers. -/
def Figures.Plain (perUnit stock : Binary64) : Prop :=
  stock.magnitude ≠ 2 ^ 96 * unitsPerOne ∧
    ¬ JustShort perUnit (stock.magnitude / perUnit.magnitude + 1) stock

/-- Two requirements are of the same material and the same quantity. -/
def Requirement.Matches (r r' : Requirement) : Prop :=
  r.materialId = r'.materialId ∧ r.perUnit = r'.perUnit

/-- The number of pieces is the same with either count: both figures are decimal, or none is, or it
does not matter. -/
def Requirement.Steady (r : Requirement) (count other : Nat) : Prop :=
  (Figures.ofDecimals? r.perUnit count r.stock).isSome =
      (Figures.ofDecimals? r.perUnit other r.stock).isSome ∨
    Figures.Plain r.perUnit r.stock

/-- Two reports calculate the same materials. -/
def Report.CalculatesAs (report report' : Report) : Prop :=
  (∀ r ∈ report.calculable, ∃ r' ∈ report'.calculable, r.Matches r') ∧
    ∀ r' ∈ report'.calculable, ∃ r ∈ report.calculable, r.Matches r'

instance (perUnit stock : Binary64) : Decidable (Figures.Plain perUnit stock) :=
  inferInstanceAs (Decidable (_ ∧ _))

instance (r r' : Requirement) : Decidable (r.Matches r') := inferInstanceAs (Decidable (_ ∧ _))

instance (r : Requirement) (count other : Nat) : Decidable (r.Steady count other) :=
  inferInstanceAs (Decidable (_ ∨ _))

instance (report report' : Report) : Decidable (report.CalculatesAs report') :=
  inferInstanceAs (Decidable ((∀ r ∈ report.calculable, ∃ r' ∈ report'.calculable, _) ∧ _))

theorem Requirement.Matches.boundsProduction_eq {r r' : Requirement} (same : r.Matches r') :
    r.boundsProduction = r'.boundsProduction := congrArg zero.less same.2

namespace Figures

variable {perUnit stock : Binary64} {count other : Nat} {figures figures' : Figures}
  {unit available : Decimal}

/-! ## Large quantities -/

/-- What is out of the range of decimals with a count of 32 bits is large and whole. -/
theorem large_of_times?_eq_none (converted : unit.Converted) (counted : count < 2 ^ 32)
    (out : unit.times? count = none) : unit.scale = 0 ∧ 2 ^ 64 ≤ unit.coefficient.natAbs := by
  by_contra fits
  refine absurd out (Option.ne_none_iff_exists'.2 (Decimal.exists_ofScaled?_eq ?_))
  rw [Int.natAbs_mul, Int.natAbs_natCast, Decimal.coefficientBound_eq]
  have small : unit.coefficient.natAbs * count ≤ 2 ^ 96 - 1 := by
    rcases Nat.eq_zero_or_pos unit.scale with whole | places
    · have digits : unit.coefficient.natAbs < 2 ^ 64 := by omega
      have product := Nat.mul_lt_mul'' digits counted
      omega
    · have product := Nat.mul_lt_mul'' (converted.places (Nat.ne_of_gt places)) counted
      omega
  exact Nat.le_trans small (Nat.le_mul_of_pos_right _ (Nat.pow_pos (by decide)))

/-- Of what is not below zero there are decimal figures, unless the total is out of their range. -/
theorem times?_eq_none_of_out (unitIs : Decimal.ofBinary64? perUnit = some unit)
    (stockIs : Decimal.ofBinary64? stock = some available) (unitNonneg : 0 ≤ unit.coefficient)
    (stockNonneg : 0 ≤ available.coefficient) (counted : count < 2 ^ 32)
    (out : ofDecimals? perUnit count stock = none) : unit.times? count = none := by
  cases answer : unit.times? count with
  | none => rfl
  | some total =>
    obtain ⟨exact, -⟩ := total_exact (Decimal.converted_ofBinary64? unitIs) counted answer
    have totalNonneg : 0 ≤ total.coefficient := by
      rw [exact]
      exact Int.mul_nonneg unitNonneg (Int.natCast_nonneg count)
    obtain ⟨difference, differenceIs⟩ := Decimal.exists_minus?_eq totalNonneg stockNonneg
    simp [ofDecimals?, unitIs, stockIs, answer, differenceIs] at out

/-- Decimals count the pieces of a large quantity that their coefficients cover. -/
theorem wholePieces_of_large (unitConverted : unit.Converted)
    (stockConverted : available.Converted) (positive : 0 < unit.coefficient)
    (nonneg : 0 ≤ available.coefficient) (scale : unit.scale = 0)
    (large : 2 ^ 64 ≤ unit.coefficient.natAbs) :
    wholePieces available unit = available.coefficient.natAbs /
      (unit.coefficient.natAbs * 10 ^ available.scale) := by
  have fits : available.coefficient.natAbs < 2 ^ 96 :=
    Decimal.coefficientBound_eq ▸ available.coefficient_lt
  have den : 2 ^ 64 ≤ unit.coefficient.natAbs * 10 ^ available.scale :=
    Nat.le_trans large (Nat.le_mul_of_pos_right _ (Nat.pow_pos (by decide)))
  have pos : 0 < unit.coefficient.natAbs * 10 ^ available.scale := by omega
  have few : available.coefficient.natAbs / (unit.coefficient.natAbs * 10 ^ available.scale) <
      2 ^ 32 := by
    rw [Nat.div_lt_iff_lt_mul pos]
    omega
  have covered := Nat.div_mul_le_self available.coefficient.natAbs
    (unit.coefficient.natAbs * 10 ^ available.scale)
  have short := (Nat.div_lt_iff_lt_mul pos).1 (Nat.lt_succ_self (available.coefficient.natAbs /
    (unit.coefficient.natAbs * 10 ^ available.scale)))
  have counts {n : Nat} (small : n < 2 ^ 36) : wholePieces available unit < n ↔
      available.coefficient.natAbs < n * (unit.coefficient.natAbs * 10 ^ available.scale) := by
    rw [wholePieces_lt_iff unitConverted stockConverted positive nonneg small, scale, Nat.pow_zero,
      Nat.mul_one]
  refine Nat.le_antisymm (Nat.le_of_lt_succ ((counts (by omega)).2 short)) (Nat.le_of_not_lt ?_)
  rw [counts (by omega), Nat.not_lt]
  exact covered

/-- A large quantity is no less than its decimal. -/
theorem le_magnitude_of_large (stands : unit.StandsFor perUnit.magnitude) (scale : unit.scale = 0)
    (large : 2 ^ 64 ≤ unit.coefficient.natAbs) :
    unit.coefficient.natAbs * unitsPerOne ≤ perUnit.magnitude := by
  cases stands with
  | small digits =>
    rw [scale] at digits
    omega
  | whole _ same => exact Nat.le_of_eq same.symm
  | last _ digits full =>
    rw [digits, full]
    exact Nat.mul_le_mul_right _ (by omega)

theorem magnitude_le (stands : available.StandsFor stock.magnitude) :
    stock.magnitude ≤ 2 ^ 96 * unitsPerOne := by
  cases stands with
  | small _ few => exact Nat.le_trans (Nat.le_of_lt few) (Nat.mul_le_mul_right _ (by decide))
  | whole _ same inside =>
    rw [same]
    exact Nat.mul_le_mul_right _ (by omega)
  | last _ _ full => exact Nat.le_of_eq full

/-- Six less than the end of the range may make one piece less, of which then nearly all is left when
the range ends. -/
theorem div_end_eq_or {digits : Nat} (large : 2 ^ 64 ≤ digits) :
    (2 ^ 96 - 6) / digits = 2 ^ 96 / digits ∨
      (2 ^ 96 - 6) / digits + 1 = 2 ^ 96 / digits ∧
        (2 ^ 96 / digits + 1) * digits < 2 ^ 53 * ((2 ^ 96 / digits + 1) * digits - 2 ^ 96) := by
  have upper := Nat.div_mul_le_self (2 ^ 96) digits
  have lower := (Nat.div_lt_iff_lt_mul (by omega)).1 (Nat.lt_succ_self ((2 ^ 96 - 6) / digits))
  have least : (2 ^ 96 - 6) / digits ≤ 2 ^ 96 / digits := Nat.div_le_div_right (Nat.sub_le _ _)
  generalize 2 ^ 96 / digits = pieces at upper least ⊢
  generalize (2 ^ 96 - 6) / digits = fewer at lower least ⊢
  rcases Nat.eq_or_lt_of_le least with same | less
  · exact .inl same
  have next := Nat.mul_le_mul_right digits less
  have within : pieces < fewer + 2 := by
    refine Nat.lt_of_mul_lt_mul_right (a := digits) ?_
    rw [Nat.add_mul]
    rw [Nat.succ_mul] at lower
    omega
  rw [Nat.add_one_mul pieces]
  exact .inr (by omega)

/-- Decimals count the pieces of a large quantity that the stock covers.  Only at the end of the
range, where the decimal is smaller than the stock, it may be one less, and then the stock is not
just short of another piece. -/
theorem wholePieces_eq_div_or (unitIs : Decimal.ofBinary64? perUnit = some unit)
    (stockIs : Decimal.ofBinary64? stock = some available) (positive : 0 < unit.coefficient)
    (nonneg : 0 ≤ available.coefficient) (scale : unit.scale = 0)
    (large : 2 ^ 64 ≤ unit.coefficient.natAbs) :
    wholePieces available unit = stock.magnitude / perUnit.magnitude ∨
      stock.magnitude = 2 ^ 96 * unitsPerOne ∧
        wholePieces available unit + 1 = stock.magnitude / perUnit.magnitude ∧
        ¬ JustShort perUnit (stock.magnitude / perUnit.magnitude + 1) stock := by
  have one := unitsPerOne_pos
  have unitStands := Decimal.standsFor_ofBinary64? unitIs
  have reached := le_magnitude_of_large unitStands scale large
  rw [wholePieces_of_large (Decimal.converted_ofBinary64? unitIs)
    (Decimal.converted_ofBinary64? stockIs) positive nonneg scale large]
  cases Decimal.standsFor_ofBinary64? stockIs with
  | small digits few =>
    have nothing : available.coefficient.natAbs <
        unit.coefficient.natAbs * 10 ^ available.scale :=
      Nat.lt_of_lt_of_le digits (Nat.mul_le_mul_right _ (by omega))
    have less : stock.magnitude < perUnit.magnitude :=
      Nat.lt_of_lt_of_le few (Nat.le_trans (Nat.mul_le_mul_right _ (by omega)) reached)
    exact .inl ((Nat.div_eq_of_lt nothing).trans (Nat.div_eq_of_lt less).symm)
  | whole stockScale same inside =>
    rw [stockScale, Nat.pow_zero, Nat.mul_one, same]
    refine .inl ?_
    cases unitStands with
    | small digits =>
      rw [scale] at digits
      omega
    | whole _ unitSame => rw [unitSame, Nat.mul_div_mul_right _ _ one]
    | last _ digits full =>
      rw [full, Nat.mul_div_mul_right _ _ one, Nat.div_eq_of_lt (by omega),
        Nat.div_eq_of_lt (by omega)]
  | last stockScale stockDigits stockFull =>
    rw [stockScale, Nat.pow_zero, Nat.mul_one, stockFull, stockDigits]
    cases unitStands with
    | small digits =>
      rw [scale] at digits
      omega
    | last _ digits full =>
      rw [digits, full, Nat.div_self (by decide), Nat.div_self (Nat.mul_pos (by decide) one)]
      exact .inl rfl
    | whole _ unitSame =>
      rw [unitSame, Nat.mul_div_mul_right _ _ one]
      refine (div_end_eq_or large).imp_right fun ⟨less, lack⟩ => ⟨rfl, less, fun near => ?_⟩
      have small := near.2
      rw [unitSame, stockFull, ← Nat.mul_assoc, ← Nat.sub_mul, ← Nat.mul_assoc] at small
      exact absurd (Nat.le_of_mul_le_mul_right small one) (Nat.not_le.2 lack)

/-! ## Two counts -/

/-- The figures of a quantity that is out of the range of decimals with one count, but not with the
other: the quantity is large, and so the binary64 numbers count as many pieces as the decimals, or
one more. -/
theorem canProduce_of_mixed (decimals : ofDecimals? perUnit count stock = some figures)
    (out : ofDecimals? perUnit other stock = none)
    (rounded : ofBinary64? perUnit other stock = some figures')
    (valid : Stock.isValidAmount stock) (nonzero : 0 < other) (counted : other < 2 ^ 32) :
    figures.canProduce ≤ figures'.canProduce ∧ figures'.canProduce ≤ figures.canProduce + 1 ∧
      (Plain perUnit stock → figures'.canProduce = figures.canProduce) := by
  obtain ⟨unit, available, -, -, unitIs, stockIs, -, -, -, canProduce⟩ :=
    ofDecimals?_eq_some decimals
  obtain ⟨isFinite, -, canProduce'⟩ := ofBinary64?_eq_some rounded
  by_cases positive : zero.less perUnit
  swap
  · have none : ¬ unit.isPositive := fun isPositive =>
      absurd (coefficient_nonpos positive unitIs) (Int.not_le.2 (of_decide_eq_true isPositive))
    rw [if_neg none] at canProduce
    rw [if_neg positive] at canProduce'
    omega
  have unitNonneg := coefficient_nonneg positive unitIs
  have stockNonneg := coefficient_stock valid stockIs
  obtain ⟨scale, large⟩ := large_of_times?_eq_none (Decimal.converted_ofBinary64? unitIs) counted
    (times?_eq_none_of_out unitIs stockIs unitNonneg stockNonneg counted out)
  have unitPos : 0 < unit.coefficient := by omega
  obtain ⟨a, -, rfl, pos, -⟩ := exists_total isFinite positive nonzero
    (Nat.le_of_lt (Nat.lt_trans counted (by decide)))
  replace canProduce := canProduce.trans (if_pos (decide_eq_true unitPos))
  rw [if_pos positive] at canProduce'
  have few : stock.magnitude / (finite false a).magnitude < 2 ^ 52 := by
    have one := unitsPerOne_pos
    have most := magnitude_le (Decimal.standsFor_ofBinary64? stockIs)
    have least : 2 ^ 64 * unitsPerOne ≤ (finite false a).magnitude :=
      Nat.le_trans (Nat.mul_le_mul_right _ large)
        (le_magnitude_of_large (Decimal.standsFor_ofBinary64? unitIs) scale large)
    rw [Nat.div_lt_iff_lt_mul (by omega)]
    omega
  have asDecimals := wholePieces_eq_div_or unitIs stockIs unitPos stockNonneg scale large
  have asBinary64 := count_eq_div_or valid pos few
  rw [← canProduce] at asDecimals
  rw [← canProduce'] at asBinary64
  rcases asDecimals with same | ⟨full, less, clear⟩
  · rcases asBinary64 with same' | ⟨more, short⟩
    · exact ⟨by omega, by omega, fun _ => by omega⟩
    · exact ⟨by omega, by omega, fun plain => absurd short plain.2⟩
  · have same' := asBinary64.resolve_right fun more => clear more.2
    exact ⟨by omega, by omega, fun plain => absurd full plain.1⟩

/-- Decimals count the same pieces whatever count is asked for. -/
theorem canProduce_of_decimals (computed : ofDecimals? perUnit count stock = some figures)
    (computed' : ofDecimals? perUnit other stock = some figures') :
    figures'.canProduce = figures.canProduce := by
  obtain ⟨unit, available, -, -, unitIs, stockIs, -, -, -, canProduce⟩ :=
    ofDecimals?_eq_some computed
  obtain ⟨unit', available', -, -, unitIs', stockIs', -, -, -, canProduce'⟩ :=
    ofDecimals?_eq_some computed'
  obtain rfl := Option.some.inj (unitIs.symm.trans unitIs')
  obtain rfl := Option.some.inj (stockIs.symm.trans stockIs')
  rw [canProduce, canProduce']

/-- So do binary64 numbers. -/
theorem canProduce_of_binary64 (computed : ofBinary64? perUnit count stock = some figures)
    (computed' : ofBinary64? perUnit other stock = some figures') :
    figures'.canProduce = figures.canProduce := by
  rw [(ofBinary64?_eq_some computed).2.2, (ofBinary64?_eq_some computed').2.2]

/-- The figures for two counts have the same number of pieces or nearly, whichever arithmetic each of
them is computed in. -/
theorem canProduce_of_counts (computed : compute? perUnit count stock = some figures)
    (computed' : compute? perUnit other stock = some figures') (valid : Stock.isValidAmount stock)
    (nonzero : 0 < count) (nonzero' : 0 < other) (counted : count < 2 ^ 32)
    (counted' : other < 2 ^ 32) :
    figures.canProduce ≤ figures'.canProduce + 1 ∧ figures'.canProduce ≤ figures.canProduce + 1 ∧
      ((ofDecimals? perUnit count stock).isSome = (ofDecimals? perUnit other stock).isSome ∨
        Plain perUnit stock → figures'.canProduce = figures.canProduce) := by
  rcases compute?_eq_some computed with decimals | ⟨out, rounded⟩ <;>
    rcases compute?_eq_some computed' with decimals' | ⟨out', rounded'⟩
  · have same := canProduce_of_decimals decimals decimals'
    exact ⟨by omega, by omega, fun _ => same⟩
  · obtain ⟨least, most, same⟩ :=
      canProduce_of_mixed decimals out' rounded' valid nonzero' counted'
    exact ⟨by omega, most, fun steady => same (steady.resolve_left (by simp [decimals, out']))⟩
  · obtain ⟨least, most, same⟩ :=
      canProduce_of_mixed decimals' out rounded valid nonzero counted
    exact ⟨most, by omega, fun steady =>
      (same (steady.resolve_left (by simp [decimals', out]))).symm⟩
  · have same := canProduce_of_binary64 rounded rounded'
    exact ⟨by omega, by omega, fun _ => same⟩

end Figures

namespace Report

variable {productId : EntityId} {materials : List Material} {count other : Nat} {stock : Stock}
  {report report' : Report}

/-- The stock of a requirement is that of its material. -/
theorem stock_of_ofMaterials (reported : ofMaterials productId materials count stock = .ok report) :
    ∀ r ∈ report.calculable, r.stock = stock.of r.materialId := by
  rw [ofMaterials_eq_ok_of_valid productId (of_ofMaterials reported).1
    (isValidAmount_of_ofMaterials reported)] at reported
  obtain rfl := Except.ok.inj reported
  intro r member
  dsimp only at member
  rw [filterMap_assessed] at member
  obtain ⟨m, -, required⟩ := List.mem_filterMap.1 member
  have describes := describes_of_required? required
  rw [describes.stock, describes.materialId]

/-- Where every bound on the production has one in the other report that is larger by so much at
most, so has the capacity. -/
theorem capacity?_le (extra : Nat)
    (each : ∀ r ∈ report.calculable, r.boundsProduction → ∃ r' ∈ report'.calculable,
      r'.boundsProduction ∧ r'.figures.canProduce ≤ r.figures.canProduce + extra) :
    ∀ most, report.capacity? = some most →
      ∃ most', report'.capacity? = some most' ∧ most' ≤ most + extra := by
  intro most least
  obtain ⟨r, inside, rfl⟩ := List.mem_map.1 (List.min?_mem least)
  obtain ⟨member, bounds⟩ := List.mem_filter.1 inside
  obtain ⟨r', member', bounds', small⟩ := each r member bounds
  have listed : r'.figures.canProduce ∈
      (report'.calculable.filter (·.boundsProduction)).map (·.figures.canProduce) :=
    List.mem_map_of_mem (List.mem_filter.2 ⟨member', bounds'⟩)
  cases least' : report'.capacity? with
  | none => rw [List.min?_eq_none_iff.1 least'] at listed; cases listed
  | some most' =>
    have below := (List.le_min?_iff least').1 (Nat.le_refl most') _ listed
    exact ⟨most', rfl, Nat.le_trans below small⟩

/-- Capacities that are no larger than each other are the same. -/
theorem capacity?_eq
    (there : ∀ most, report.capacity? = some most →
      ∃ most', report'.capacity? = some most' ∧ most' ≤ most)
    (here : ∀ most', report'.capacity? = some most' →
      ∃ most, report.capacity? = some most ∧ most ≤ most') :
    report'.capacity? = report.capacity? := by
  cases least : report.capacity? with
  | none =>
    refine Option.eq_none_iff_forall_ne_some.2 fun most' least' => ?_
    obtain ⟨most, found, -⟩ := here most' least'
    cases least.symm.trans found
  | some most =>
    obtain ⟨most', least', below⟩ := there most least
    obtain ⟨most'', found, above⟩ := here most' least'
    obtain rfl := Option.some.inj (least.symm.trans found)
    rw [least', Nat.le_antisymm below above]

/-- The figures of one material in two reports. -/
theorem canProduce_of_matches (reported : ofMaterials productId materials count stock = .ok report)
    (reported' : ofMaterials productId materials other stock = .ok report')
    (counted : count < 2 ^ 32) (counted' : other < 2 ^ 32) {r r' : Requirement}
    (member : r ∈ report.calculable) (member' : r' ∈ report'.calculable) (same : r.Matches r') :
    r.figures.canProduce ≤ r'.figures.canProduce + 1 ∧
      r'.figures.canProduce ≤ r.figures.canProduce + 1 ∧
      (r.Steady count other → r'.figures.canProduce = r.figures.canProduce) := by
  obtain ⟨nonzero, computed⟩ := of_ofMaterials reported
  obtain ⟨nonzero', computed'⟩ := of_ofMaterials reported'
  obtain ⟨valid, figures⟩ := computed r member
  have figures' := (computed' r' member').2
  have stocks : r'.stock = r.stock := by
    rw [stock_of_ofMaterials reported r member, stock_of_ofMaterials reported' r' member', same.1]
  rw [stocks, ← same.2] at figures'
  exact Figures.canProduce_of_counts figures figures' valid nonzero nonzero' counted counted'

/-- **What the stock suffices for does not depend on the count that is asked for**, as far as the two
arithmetics agree.  A material that two reports calculate has the same number of pieces in both if
its figures are of one arithmetic, or if its stock is neither `2 ^ 96` nor just short of one more
piece than it covers; in any case the numbers differ by one at most.  The same is true of the
capacities of two reports that calculate the same materials. -/
theorem pieces_depend_on_stock (productId : EntityId) (materials : List Material)
    (count other : Nat) (stock : Stock) (report report' : Report)
    (reported : ofMaterials productId materials count stock = .ok report)
    (reported' : ofMaterials productId materials other stock = .ok report')
    (counted : count < Nat.pow 2 32) (counted' : other < Nat.pow 2 32) :
    (∀ r ∈ report.calculable, ∀ r' ∈ report'.calculable, r.Matches r' →
      r.figures.canProduce ≤ r'.figures.canProduce + 1 ∧
      r'.figures.canProduce ≤ r.figures.canProduce + 1 ∧
      (r.Steady count other → r'.figures.canProduce = r.figures.canProduce)) ∧
    (report.CalculatesAs report' →
      (∀ most, report.capacity? = some most → ∃ most', report'.capacity? = some most' ∧
        most' ≤ most + 1) ∧
      (∀ most', report'.capacity? = some most' → ∃ most, report.capacity? = some most ∧
        most ≤ most' + 1) ∧
      ((∀ r ∈ report.calculable, r.boundsProduction → r.Steady count other) →
        report'.capacity? = report.capacity?)) := by
  have pieces {r r' : Requirement} (member : r ∈ report.calculable)
      (member' : r' ∈ report'.calculable) (same : r.Matches r') :=
    canProduce_of_matches reported reported' counted counted' member member' same
  refine ⟨fun r member r' member' => pieces member member', fun ⟨forth, back⟩ =>
    ⟨?_, ?_, fun steady => ?_⟩⟩
  · refine capacity?_le 1 fun r member bounds => ?_
    obtain ⟨r', member', same⟩ := forth r member
    exact ⟨r', member', same.boundsProduction_eq ▸ bounds, (pieces member member' same).2.1⟩
  · refine capacity?_le 1 fun r' member' bounds => ?_
    obtain ⟨r, member, same⟩ := back r' member'
    exact ⟨r, member, same.boundsProduction_eq ▸ bounds, (pieces member member' same).1⟩
  · refine capacity?_eq (capacity?_le 0 fun r member bounds => ?_)
      (capacity?_le 0 fun r' member' bounds => ?_)
    · obtain ⟨r', member', same⟩ := forth r member
      refine ⟨r', member', same.boundsProduction_eq ▸ bounds, Nat.le_of_eq ?_⟩
      exact (pieces member member' same).2.2 (steady r member bounds)
    · obtain ⟨r, member, same⟩ := back r' member'
      have bounds : r.boundsProduction := same.boundsProduction_eq ▸ bounds
      refine ⟨r, member, bounds, Nat.le_of_eq ?_⟩
      exact ((pieces member member' same).2.2 (steady r member bounds)).symm

/-- A quantity of `2 ^ 95` of which one piece is a decimal and three are not, and a stock for one and
a half. -/
theorem half_a_piece_changes_nothing : ∃ report report',
    ofMaterials 1 [takes 0x45e0000000000000] 1 (holds 0x45e8000000000000) = .ok report ∧
      ofMaterials 1 [takes 0x45e0000000000000] 3 (holds 0x45e8000000000000) = .ok report' ∧
      1 < Nat.pow 2 32 ∧ 3 < Nat.pow 2 32 ∧ report.CalculatesAs report' ∧
      (∀ r ∈ report.calculable, r.boundsProduction → r.Steady 1 3) ∧
      report'.capacity? = report.capacity? := by
  obtain ⟨report, reported, steady⟩ := exists_of_any (show
      (ofMaterials 1 [takes 0x45e0000000000000] 1
        (holds 0x45e8000000000000)).toOption.any (fun report =>
          decide (∀ r ∈ report.calculable, r.boundsProduction → r.Steady 1 3)) = true
        by decide +kernel)
  obtain ⟨report', reported', same⟩ := exists_of_any (show
      (ofMaterials 1 [takes 0x45e0000000000000] 3
        (holds 0x45e8000000000000)).toOption.any (fun report' =>
          (ofMaterials 1 [takes 0x45e0000000000000] 1
            (holds 0x45e8000000000000)).toOption.any fun report =>
              decide (report.CalculatesAs report')) = true
        by decide +kernel)
  rw [reported] at same
  have steady := of_decide_eq_true steady
  have same : report.CalculatesAs report' := of_decide_eq_true same
  obtain ⟨-, capacity⟩ := pieces_depend_on_stock 1 _ 1 3 _ report report' reported reported'
    (by decide) (by decide)
  exact ⟨report, report', reported, reported', by decide, by decide, same, steady,
    (capacity same).2.2 steady⟩

/-- A stock that is just short of a third piece is enough for two if one piece is asked for, and for
three if more are. -/
theorem third_piece_depends_on_count : ∃ report report',
    ofMaterials 1 [takes 0x4400000000000001] 1 (holds 0x4418000000000001) = .ok report ∧
      ofMaterials 1 [takes 0x4400000000000001] 4294967295 (holds 0x4418000000000001) =
        .ok report' ∧
      report.CalculatesAs report' ∧ report.capacity? = some 2 ∧ report'.capacity? = some 3 := by
  obtain ⟨report, reported, two⟩ := exists_of_any (show
      (ofMaterials 1 [takes 0x4400000000000001] 1
        (holds 0x4418000000000001)).toOption.any (fun report =>
          decide (report.capacity? = some 2)) = true
        by decide +kernel)
  obtain ⟨report', reported', both⟩ := exists_of_any (show
      (ofMaterials 1 [takes 0x4400000000000001] 4294967295
        (holds 0x4418000000000001)).toOption.any (fun report' =>
          (ofMaterials 1 [takes 0x4400000000000001] 1
            (holds 0x4418000000000001)).toOption.any fun report =>
              decide (report.CalculatesAs report' ∧ report'.capacity? = some 3)) = true
        by decide +kernel)
  rw [reported] at both
  obtain ⟨same, three⟩ := of_decide_eq_true both
  exact ⟨report, report', reported, reported', same, of_decide_eq_true two, three⟩

end Report

end PartsCatalog

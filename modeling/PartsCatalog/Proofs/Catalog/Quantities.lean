import PartsCatalog.Proofs.Binary64.Text
import PartsCatalog.Proofs.Catalog.Parts

/-!
# Quantities of new products

A new product takes its materials in the quantities that they show.  What was entered in words is
shown in these words, and what shows in two places is entered again as it was; of a number that does
not, two places are left (`new_product_keeps_two_places`).
-/

namespace PartsCatalog

open Binary64 Text

/-! ## Numbers that are shown and entered again -/

namespace Quantity

variable {s : String} {x : Binary64}

/-- A number in plain characters is entered as it is read. -/
theorem ofInput?_of_plain (plain : ∀ c ∈ s.toList, Plain c) (read : ofText? s = some x) :
    ofInput? s = some (.numeric x) := by
  have trimmed : trim s = s := trim_of_trimmed (trimmed_of_plain plain)
  have unchanged : (s.map fun c => if c = ',' then '.' else c) = s := by
    have noComma : ∀ c ∈ s.toList, (if c = ',' then '.' else c) = id c :=
      fun c member => if_neg (plain c member).ne_comma
    rw [← String.toList_inj, String.toList_map, List.map_congr_left noComma, List.map_id]
  have nonempty : s.isEmpty = false := by
    refine Bool.eq_false_iff.2 fun empty => ?_
    rw [String.isEmpty_iff.1 empty] at read
    cases read
  have parsed : parseNumber? s = some x := by
    rw [parseNumber?, trimmed, unchanged, read]
  simp only [ofInput?, trimmed, nonempty, parsed, Bool.false_eq_true, if_false]

/-- Whole numbers of fewer than 64 bits are entered again as they are, but for the sign of zero. -/
theorem ofInput?_toString_truncate (whole : x.isWhole) (short : x.truncate.natAbs < 2 ^ 63) :
    ∃ y, ofInput? (toString x.truncate) = some (.numeric y) ∧ y.same x := by
  obtain ⟨negative, rank, n, rfl, multiple⟩ := exists_of_isWhole whole
  have truncated : (finite negative rank).truncate = signed negative n := by
    rw [truncate, multiple, Nat.mul_div_cancel n unitsPerOne_pos]
  rw [truncated, natAbs_signed] at short
  -- a whole number is written without the sign of a zero
  let written := decide (signed negative n < 0)
  refine ⟨finite written rank, ?_, same_finite fun pos => decide_signed_lt_zero ?_⟩
  · have value : ofUnits written (n * unitsPerOne) 1 = finite written rank := by
      rw [← multiple, ← Nat.mul_one (units rank)]
      exact ofUnits_units_mul Nat.one_pos
    have digits : (Nat.toDigits 10 n).length ≤ 19 :=
      (Nat.length_toDigits_le_iff (by decide) (by decide)).2 (Nat.lt_of_lt_of_le short (by decide))
    have isFinite : (ofUnits written (n * unitsPerOne) 1).isFinite := by
      rw [value]
      rfl
    have read := ofText?_toDigits (Nat.le_trans digits (by decide)) isFinite
    have plain : ∀ c ∈ (toString (signed negative n)).toList, Plain c := fun c => plain_toString_int
    rw [toString_int, natAbs_signed] at plain
    rw [truncated, toString_int, natAbs_signed]
    exact ofInput?_of_plain plain (read.trans (congrArg some value))
  · refine Nat.pos_of_ne_zero fun zero => ?_
    rw [zero, Nat.zero_mul] at multiple
    exact Nat.ne_of_gt (units_pos_iff.2 pos) multiple

/-- A number that is shown is entered again as two places of it. -/
theorem ofInput?_formatNumber (isFinite : x.isFinite) :
    ∃ y, ofInput? (formatNumber x) = some (.numeric y) ∧ y.same (x.toPlaces 2) := by
  unfold formatNumber
  split
  · next whole =>
    obtain ⟨isWhole, short⟩ := Bool.and_eq_true_iff.1 whole
    rw [toPlaces_of_isWhole isWhole]
    exact ofInput?_toString_truncate isWhole (of_decide_eq_true short)
  · have read : ofText? (x.fixed 2) = some (x.toPlaces 2) :=
      ofText?_fixed isFinite (by decide) (by decide)
    exact ⟨_, ofInput?_of_plain (fun _ => plain_fixed isFinite) read,
      same_self_of_isFinite (isFinite_toPlaces isFinite)⟩

end Quantity

/-! ## Materials that show their quantities -/

namespace Quantity

/-- A quantity that can be given: a finite number, or a remark that some text was read as. -/
def Enterable : Quantity → Prop
  | numeric x => x.isFinite
  | text words => ∃ s, ofInput? s = some (text words)

/-- Whether two quantities are the same, or both are missing. -/
def Agree : Option Quantity → Option Quantity → Prop := Option.Rel fun q r => q.same r

end Quantity

namespace Material

/-- The quantity can be given, and its entered form, if there is one, is read as that quantity. -/
structure Consistent (m : Material) : Prop where
  enterable : ∀ q ∈ m.quantity, q.Enterable
  entered : ∀ raw ∈ m.quantityInput, Quantity.Agree (Quantity.ofInput? raw) m.quantity

/-- The quantity of a material; of a number without an entered form, two places. -/
def quantityInPlaces (m : Material) : Option Quantity :=
  match m.quantity, m.quantityInput with
  | some (.numeric x), none => some (.numeric (x.toPlaces 2))
  | quantity, _ => quantity

variable {m : Material}

/-- Nothing is lost of a quantity that was entered, that is a remark, or that has two places. -/
theorem quantityInPlaces_eq_quantity
    (placed : m.quantityInput = none → ∀ x, m.quantity = some (.numeric x) → x.toPlaces 2 = x) :
    m.quantityInPlaces = m.quantity := by
  unfold quantityInPlaces
  split
  · next x given bare => rw [given, placed bare x given]
  · rfl

/-- What a material shows is read as its quantity in two places. -/
theorem Consistent.agree_shownQuantity (consistent : m.Consistent) :
    Quantity.Agree (Quantity.ofInput? m.shownQuantity) m.quantityInPlaces := by
  obtain ⟨enterable, entered⟩ := consistent
  unfold shownQuantity quantityInPlaces
  cases given : m.quantity with
  | none => exact .none
  | some q =>
    rw [given] at enterable entered
    cases input : m.quantityInput with
    | some raw =>
      cases q <;> exact entered raw input
    | none =>
      cases q with
      | numeric x =>
        obtain ⟨y, read, same⟩ := Quantity.ofInput?_formatNumber (enterable _ rfl)
        change Quantity.Agree (Quantity.ofInput? (Quantity.formatNumber x)) _
        rw [read]
        exact .some same
      | text words =>
        obtain ⟨s, read⟩ := enterable _ rfl
        have shown : Quantity.ofInput? words = some (.text words) := by
          rw [Quantity.eq_trim_of_ofInput? read, Quantity.ofInput?_trim, read,
            Quantity.eq_trim_of_ofInput? read]
        change Quantity.Agree (Quantity.ofInput? words) _
        rw [shown]
        exact .some (beq_self_eq_true words)

end Material

namespace Product

variable {unit : MeasureUnit} {id : EntityId} {name : String}

/-- Different materials are set one behind the other. -/
theorem shares_foldl_setMaterial {ms : List Material} :
    ∀ {p : Product}, (p.shares.map Prod.fst ++ ms.map Material.id).Nodup →
      (ms.foldl (fun p m =>
        p.setMaterial ((Material.new m.id unit).enterQuantity m.shownQuantity)) p).shares =
          p.shares ++
            ms.map fun m => ((Material.new m.id unit).enterQuantity m.shownQuantity).share := by
  induction ms with
  | nil => exact fun _ => (List.append_nil _).symm
  | cons m ms ih =>
    intro p distinct
    have fresh : m.id ∉ p.shares.map Prod.fst := fun before =>
      (List.disjoint_of_nodup_append distinct) before (List.mem_map_of_mem List.mem_cons_self)
    have atEnd : (p.setMaterial
        ((Material.new m.id unit).enterQuantity m.shownQuantity)).shares =
          p.shares ++ [((Material.new m.id unit).enterQuantity m.shownQuantity).share] :=
      shares_setMaterial.trans (updateOrAppend_of_not_mem fresh)
    rw [List.foldl_cons, ih, atEnd, List.map_cons, List.append_assoc, List.singleton_append]
    rw [atEnd, List.map_append, List.append_assoc]
    exact distinct

theorem shares_ofShown {ms : List Material} (distinct : (ms.map Material.id).Nodup) :
    (ofShown unit id name ms).shares =
      ms.map fun m => ((Material.new m.id unit).enterQuantity m.shownQuantity).share :=
  shares_foldl_setMaterial distinct

end Product

/-! ## New products -/

namespace Inventory

/-- The materials of a new product are those given, in the quantities that they show. -/
theorem Valid.materials_of_addProduct {inv inv' : Inventory} (valid : inv.Valid) {p : Product}
    (effect : Effect inv (.addProduct p) (.added inv.nextId) inv')
    (distinct : (p.materials.map Material.id).Nodup) :
    ∃ p', inv'.product inv.nextId = .ok p' ∧
      List.Forall₂ (fun m' m => m'.id = m.id ∧ m'.quantity = Quantity.ofInput? m.shownQuantity)
        p'.materials p.materials := by
  -- the unit does not matter
  let unit : MeasureUnit := { id := 0, name := "" }
  obtain ⟨p', read, shares⟩ := valid.product_of_addProduct unit effect
  have same : p'.materials.map Material.share = p.materials.map fun m =>
      ((Material.new m.id unit).enterQuantity m.shownQuantity).share :=
    shares.trans (Product.shares_ofShown distinct)
  refine ⟨p', read, ?_⟩
  rw [← List.forall₂_eq_eq_eq, List.forall₂_map_left_iff, List.forall₂_map_right_iff] at same
  refine same.imp fun m' m share => ?_
  rw [Material.share_enterQuantity, Material.share, Prod.mk.injEq, Prod.mk.injEq] at share
  exact ⟨share.1, share.2.1⟩

/-- **A new product keeps its quantities, numbers in two places.**  A product that is added with
different materials after any run of changes can be read at once.  It has the materials that it was
given, in their order, and their quantities if they were entered or are remarks; of a number that
was not entered, two places are kept, which is all of a whole number (`toPlaces_of_isWhole`) and of
a moderate one that two places are enough for (`toPlaces_of_nearest`). -/
theorem new_product_keeps_two_places (changes : List Change) (p : Product) (outcome : Outcome)
    (inv' : Inventory) :
    let inv := empty.run changes
    inv.step (.addProduct p) = (inv', .ok outcome) → (p.materials.map Material.id).Nodup →
      (∀ m ∈ p.materials, m.Consistent) →
        outcome = .added inv.nextId ∧ ∃ p', inv'.product inv.nextId = .ok p' ∧
          List.Forall₂ (fun m' m => m'.id = m.id ∧ Quantity.Agree m'.quantity m.quantityInPlaces)
            p'.materials p.materials := by
  intro inv succeeded distinct consistent
  have valid : inv.Valid := valid_empty.run changes
  have effect := step_eq_ok_iff.1 succeeded
  obtain rfl := outcome_addProduct effect
  obtain ⟨p', read, materials⟩ := valid.materials_of_addProduct effect distinct
  refine ⟨rfl, p', read, ?_⟩
  rw [List.forall₂_iff_zip] at materials ⊢
  refine ⟨materials.1, fun {m' m} member => ?_⟩
  obtain ⟨sameId, quantity⟩ := materials.2 member
  rw [quantity]
  exact ⟨sameId, (consistent m (List.of_mem_zip member).2).agree_shownQuantity⟩

/-- A goldsmith, who weighs in kilograms. -/
def goldsmith : List Change :=
  [.addUnit "kg", .addMaterial { Material.new 0 { id := 1, name := "kg" } with names := ["Gold"] }]

/-- Gold of a quantity that nobody entered. -/
def gold (quantity : Binary64) : Material :=
  (Material.new 2 { id := 1, name := "kg" }).withQuantity (some (.numeric quantity))

/-- A ring of so much gold. -/
def ring (quantity : Binary64) : Product :=
  { Product.new 0 "Ring" with materials := [gold quantity] }

theorem gold_mem : (2 : EntityId) ∈ (empty.run goldsmith).materials.ids := by decide

theorem nextId_goldsmith : (empty.run goldsmith).nextId = 3 := by decide

theorem consistent_gold {quantity : Binary64} (isFinite : quantity.isFinite) :
    ∀ m ∈ (ring quantity).materials, m.Consistent := by
  refine List.forall_mem_singleton.2 ⟨fun q given => ?_, nofun⟩
  cases given
  exact isFinite

/-- The goldsmith has rings of every quantity. -/
theorem exists_effect_ring (quantity : Binary64) :
    ∃ inv', Effect (empty.run goldsmith) (.addProduct (ring quantity))
      (.added (empty.run goldsmith).nextId) inv' := by
  have proper : checkProductFields (ring quantity).name (ring quantity).description = .ok () :=
    show checkProductFields "Ring" "" = .ok () from rfl
  exact ⟨_, .addProduct proper (List.forall_mem_singleton.2 gold_mem)⟩

/-- Two and a half kilograms are kept. -/
theorem ring_of_two_and_a_half :
    let inv := empty.run goldsmith
    let heavy := ring (.ofBits 0x4004000000000000)
    ∃ inv' p', inv.step (.addProduct heavy) = (inv', .ok (.added 3)) ∧
      (heavy.materials.map Material.id).Nodup ∧ (∀ m ∈ heavy.materials, m.Consistent) ∧
      inv'.product 3 = .ok p' ∧
      List.Forall₂ (fun m' m => m'.id = m.id ∧ Quantity.Agree m'.quantity m.quantityInPlaces)
        p'.materials heavy.materials := by
  intro inv heavy
  obtain ⟨inv', effect⟩ := exists_effect_ring (.ofBits 0x4004000000000000)
  have succeeded := step_eq_ok_iff.2 effect
  have distinct : (heavy.materials.map Material.id).Nodup := List.nodup_singleton _
  have consistent : ∀ m ∈ heavy.materials, m.Consistent := consistent_gold (by decide)
  obtain ⟨-, p', read, kept⟩ :=
    new_product_keeps_two_places goldsmith heavy _ inv' succeeded distinct consistent
  rw [nextId_goldsmith] at succeeded read
  exact ⟨inv', p', succeeded, distinct, consistent, read, kept⟩

/-- A thousandth of a kilogram is not: nothing is left of it in two places. -/
theorem ring_of_a_thousandth :
    let inv := empty.run goldsmith
    let thin := ring (.ofBits 0x3F50624DD2F1A9FC)
    ∃ inv' p', inv.step (.addProduct thin) = (inv', .ok (.added 3)) ∧
      (thin.materials.map Material.id).Nodup ∧ (∀ m ∈ thin.materials, m.Consistent) ∧
      inv'.product 3 = .ok p' ∧
      ¬ List.Forall₂ (fun m' m => m'.id = m.id ∧ Quantity.Agree m'.quantity m.quantity)
        p'.materials thin.materials := by
  intro inv thin
  obtain ⟨inv', effect⟩ := exists_effect_ring (.ofBits 0x3F50624DD2F1A9FC)
  have succeeded := step_eq_ok_iff.2 effect
  have distinct : (thin.materials.map Material.id).Nodup := List.nodup_singleton _
  obtain ⟨p', read, materials⟩ :=
    (valid_empty.run goldsmith).materials_of_addProduct effect distinct
  rw [nextId_goldsmith] at succeeded read
  refine ⟨inv', p', succeeded, distinct, consistent_gold (by decide), read, fun kept => ?_⟩
  have lost : ∀ q ∈ Quantity.ofInput? (gold (.ofBits 0x3F50624DD2F1A9FC)).shownQuantity,
      q.same (.numeric (.ofBits 0x3F50624DD2F1A9FC)) = false := by decide +kernel
  change List.Forall₂ _ _ [gold (.ofBits 0x3F50624DD2F1A9FC)] at materials kept
  generalize p'.materials = ms at materials kept
  cases materials with
  | cons shown _ =>
    cases kept with
    | cons agree _ =>
      obtain ⟨-, agree⟩ := agree
      rw [shown.2] at agree
      generalize Quantity.ofInput? _ = q at lost agree
      cases agree with
      | some same => exact absurd same (by rw [lost _ rfl]; exact Bool.false_ne_true)

end Inventory

end PartsCatalog

import Mathlib.Data.List.Find
import PartsCatalog.Proofs.Binary64.Arithmetic
import PartsCatalog.Proofs.Grouping.Materials
import PartsCatalog.Proofs.Grouping.Parts

/-!
# Quantities of grouped rows

A row states a quantity in two columns, and the entry made of it shows what the columns state
(`StatesQuantity`): the number column if it holds anything, and else the text column.  The text is
shown beside the quantity where it reads as the same quantity, so what is shown can be read again
(`Material.ShowsColumns`).  All four ways to put entries together keep to this
(`entries_show_what_they_compute_with`).
-/

namespace PartsCatalog

/-! ## Columns -/

theorem Quantity.ofDecimal?_eq_some_iff {d : Decimal} {quantity : Quantity} :
    ofDecimal? d = some quantity ↔ d.toBinary64.isFinite ∧ .numeric d.toBinary64 = quantity := by
  simp only [ofDecimal?, Option.map_eq_some_iff, Option.filter_eq_some_iff, Option.some.injEq]
  constructor
  · rintro ⟨_, ⟨rfl, finite⟩, isQuantity⟩
    exact ⟨finite, isQuantity⟩
  · rintro ⟨finite, isQuantity⟩
    exact ⟨_, ⟨rfl, finite⟩, isQuantity⟩

namespace Cell

variable {cell : Cell} {column : String} {quantity : Option Quantity} {x : Binary64}

/-- The quantity that a cell holds: a number as it is, and a text as a form field is read. -/
def held? : Cell → Option Quantity
  | null => none
  | integer value => some (.numeric (.ofInt value))
  | real value => some (.numeric value)
  | decimal value => some (.numeric value.toBinary64)
  | text raw => Quantity.ofInput? raw

/-- An integer in a cell has 64 bits. -/
def InRange : Cell → Prop
  | integer value => EntityId.inRange value
  | _ => True

instance : DecidablePred InRange
  | integer value => inferInstanceAs (Decidable (EntityId.inRange value = true))
  | null | real _ | decimal _ | text _ => inferInstanceAs (Decidable True)

theorem held?_eq (read : cell.toQuantity? column = .ok quantity) : cell.held? = quantity := by
  cases cell with
  | null | integer | text => exact Except.ok.inj read
  | real value =>
    rw [toQuantity?] at read
    split at read
    · exact Except.ok.inj read
    · cases read
  | decimal value =>
    rw [toQuantity?] at read
    split at read
    · next held isNumber =>
      rw [held?, (Quantity.ofDecimal?_eq_some_iff.1 isNumber).2]
      exact Except.ok.inj read
    · cases read

theorem natAbs_of_inRange {value : Int} (inRange : (integer value).InRange) :
    value.natAbs ≤ 2 ^ 63 := by
  have bounds : EntityId.inRange value := inRange
  rw [EntityId.inRange, Bool.and_eq_true, decide_eq_true_eq, decide_eq_true_eq] at bounds
  have least : EntityId.least = -2 ^ 63 := by decide
  have greatest : EntityId.greatest = 2 ^ 63 - 1 := by decide
  omega

theorem isFinite_of_toQuantity? (inRange : cell.InRange)
    (read : cell.toQuantity? column = .ok (some (.numeric x))) : x.isFinite := by
  cases cell with
  | null => cases read
  | integer value =>
    obtain rfl : Binary64.ofInt value = x := by simpa [toQuantity?] using read
    exact Binary64.isFinite_ofInt (natAbs_of_inRange inRange)
  | real value =>
    rw [toQuantity?] at read
    split at read
    · next finite =>
      obtain rfl : value = x := by simpa using read
      exact finite
    · cases read
  | decimal value =>
    rw [toQuantity?] at read
    split at read
    · next held isNumber =>
      obtain ⟨finite, isValue⟩ := Quantity.ofDecimal?_eq_some_iff.1 isNumber
      obtain rfl : value.toBinary64 = x := by simpa [← isValue] using read
      exact finite
    · cases read
  | text raw => exact Quantity.isFinite_of_ofInput? (Except.ok.inj read)

end Cell

/-- A text reads as a quantity: it denotes the same number or the same remark. -/
def Quantity.ReadsFrom (s : String) (quantity : Option Quantity) : Prop :=
  ∃ value entered, quantity = some value ∧ ofInput? s = some entered ∧ entered.same value

theorem Quantity.ne_empty_of_readsFrom {s : String} {quantity : Option Quantity}
    (reads : ReadsFrom s quantity) : s ≠ "" := by
  rintro rfl
  obtain ⟨_, _, -, denoted, -⟩ := reads
  cases denoted

/-- The quantity that the two columns of a row state. -/
structure StatesQuantity (number : Cell) (text : Option String) (quantity : Option Quantity) :
    Prop where
  /-- The number column goes first. -/
  eq : quantity = number.held?.or (text.bind Quantity.ofInput?)
  finite : ∀ x, quantity = some (.numeric x) → x.isFinite

/-- A material shows what the two columns of a row state. -/
structure Material.ShowsColumns (m : Material) (number : Cell) (text : Option String) : Prop extends
    StatesQuantity number text m.quantity where
  /-- The text is shown if it reads as the quantity. -/
  entered : ∀ s, m.quantityInput = some s ↔
    (∃ raw, text = some raw ∧ Text.trim raw = s) ∧ Quantity.ReadsFrom s m.quantity
  trimmed : ∀ s, m.quantityInput = some s → Text.Trimmed s ∧ s ≠ ""
  /-- What is shown can be read again. -/
  rereads : m.quantityInput.isSome → Quantity.ReadsFrom m.shownQuantity m.quantity

variable {number : Cell} {text : Option String} {quantity stated : Option Quantity} {m : Material}

theorem statesQuantity (inRange : number.InRange)
    (read : number.toQuantity? "quantity" = .ok quantity) :
    StatesQuantity number text (statedQuantity number text) where
  eq := by
    rw [statedQuantity, read, Cell.held?_eq read]
    rfl
  finite x isNumber := by
    rw [statedQuantity, read] at isNumber
    rcases Option.or_eq_some_iff.1 isNumber with held | ⟨-, entered⟩
    · have isQuantity : quantity = some (.numeric x) := held
      exact Cell.isFinite_of_toQuantity? inRange (isQuantity ▸ read)
    · obtain ⟨raw, -, denoted⟩ := Option.bind_eq_some_iff.1 entered
      exact Quantity.isFinite_of_ofInput? denoted

theorem enteredText_eq_some_iff {s : String} :
    enteredText quantity text = some s ↔
      (∃ raw, text = some raw ∧ Text.trim raw = s) ∧ Quantity.ReadsFrom s quantity := by
  cases quantity with
  | none => exact iff_of_false nofun fun ⟨_, _, _, isQuantity, _⟩ => nomatch isQuantity
  | some value =>
    cases text with
    | none => exact iff_of_false nofun fun ⟨⟨_, isText, _⟩, _⟩ => nomatch isText
    | some raw =>
      constructor
      · intro shown
        simp only [enteredText] at shown
        split at shown
        · next entered denoted =>
          split at shown
          · next same =>
            obtain rfl := Option.some.inj shown
            exact ⟨⟨raw, rfl, rfl⟩, value, entered, rfl, denoted, same⟩
          · cases shown
        · cases shown
      · rintro ⟨⟨_, ⟨⟩, rfl⟩, _, entered, ⟨⟩, denoted, same⟩
        simp only [enteredText, denoted, same, if_true]

/-- A material with the stated quantity and the entered text of two columns shows the columns. -/
theorem Material.showsColumns (inRange : number.InRange)
    (read : number.toQuantity? "quantity" = .ok quantity)
    (isQuantity : m.quantity = statedQuantity number text)
    (isInput : m.quantityInput = enteredText (statedQuantity number text) text) :
    m.ShowsColumns number text := by
  have entered (s : String) : m.quantityInput = some s ↔
      (∃ raw, text = some raw ∧ Text.trim raw = s) ∧ Quantity.ReadsFrom s m.quantity := by
    rw [isInput, isQuantity]
    exact enteredText_eq_some_iff
  refine { toStatesQuantity := isQuantity ▸ statesQuantity inRange read, entered, trimmed := ?_,
           rereads := ?_ }
  · intro s shown
    obtain ⟨⟨raw, -, rfl⟩, reads⟩ := (entered s).1 shown
    exact ⟨Text.trimmed_trim raw, Quantity.ne_empty_of_readsFrom reads⟩
  · intro shown
    obtain ⟨s, isShown⟩ := Option.isSome_iff_exists.1 shown
    obtain ⟨-, reads⟩ := (entered s).1 isShown
    have isText : m.shownQuantity = s := by
      obtain ⟨value, -, isValue, -⟩ := reads
      rw [shownQuantity, isValue, isShown]
    rwa [isText]

/-- A cell holds an identifier. -/
def Cell.holdsId (column : String) (id : EntityId) (cell : Cell) : Bool :=
  (cell.toId? column).toOption.join == some id

theorem Cell.holdsId_iff {cell : Cell} {column : String} {id : EntityId} :
    cell.holdsId column id ↔ cell.toId? column = .ok (some id) := by
  rw [holdsId, beq_iff_eq, Option.join_eq_some_iff]
  constructor
  · exact eq_ok_of_toOption
  · intro read
    rw [read]
    rfl

/-! ## Materials -/

theorem MaterialRow.exists_quantity {row : MaterialRow} (sound : ∀ fault, ¬ row.Malformed fault) :
    ∃ quantity, row.quantity.toQuantity? "quantity" = .ok quantity :=
  exists_eq_ok fun fault unread => sound fault (.quantity unread)

theorem MaterialRow.any_statedProduct? (row : MaterialRow) (id : EntityId) :
    row.statedProduct?.any (·.id == id) = row.productId.holdsId "product_id" id := by
  rw [statedProduct?, Cell.holdsId]
  cases (row.productId.toId? "product_id").toOption.join with
  | none => rfl
  | some other => simp [Product.new, Product.withQuantity]

/-- A listed material shows the columns of its first row, and each of its products states the
columns of the first row of the two. -/
theorem groupMaterials_shows {rows : List MaterialRow} {ms : List Material}
    (inRange : ∀ row ∈ rows, row.quantity.InRange) (grouped : groupMaterials rows = .ok ms)
    (member : m ∈ ms) :
    (∃ row, rows.find? (·.materialId == m.id) = some row ∧
      m.ShowsColumns row.quantity row.quantityText) ∧
    ∀ p ∈ m.products, p.materials = [] ∧
      ∃ row, (rows.filter (·.materialId == m.id)).find?
          (·.productId.holdsId "product_id" p.id) = some row ∧
        StatesQuantity row.quantity row.quantityText p.quantity := by
  obtain ⟨sound, first, rest, rfl, group⟩ := exists_rows_of_mem_groupMaterials grouped member
  have found : rows.find? (·.materialId == first.materialId) = some first := by
    rw [← List.head?_filter, group, List.head?_cons]
  have inside : first ∈ rows := List.mem_of_find?_eq_some found
  constructor
  · obtain ⟨quantity, read⟩ := MaterialRow.exists_quantity (sound first inside)
    exact ⟨first, found, Material.showsColumns (inRange first inside) read rfl rfl⟩
  · intro p isProduct
    have firstProduct := find?_of_mem_firstOfEach isProduct
    rw [List.find?_filterMap, ← group] at firstProduct
    obtain ⟨row, isRow, states⟩ := Option.bind_eq_some_iff.1 firstProduct
    simp only [MaterialRow.any_statedProduct?] at isRow
    have inside : row ∈ rows := List.mem_of_mem_filter (List.mem_of_find?_eq_some isRow)
    obtain ⟨quantity, read⟩ := MaterialRow.exists_quantity (sound row inside)
    obtain ⟨id, -, rfl⟩ := Option.map_eq_some_iff.1 states
    exact ⟨rfl, row, isRow, statesQuantity (inRange row inside) read⟩

/-- A product in an assembled material states the columns of its first row. -/
theorem assembleMaterial_shows {entry : MaterialEntry} {names : List MarkedName}
    {uses : List UseRow} (inRange : ∀ use ∈ uses, use.quantity.InRange)
    (assembled : entry.assemble names uses = .ok m) :
    m.quantity = none ∧ m.quantityInput = none ∧ ∀ p ∈ m.products, p.materials = [] ∧
      ∃ use, uses.find? (·.productId == p.id) = some use ∧
        StatesQuantity use.quantity use.quantityText p.quantity := by
  have sound := sound_of_eq_ok assembled fun fault =>
    (entry.assemble_eq_error_iff names fault).2
  rw [entry.assemble_eq_ok names sound] at assembled
  obtain rfl := Except.ok.inj assembled
  refine ⟨rfl, rfl, fun p isProduct => ?_⟩
  obtain ⟨use, isFirst, rfl⟩ := List.mem_map.1 isProduct
  have inside : use ∈ uses := mem_of_mem_firstOfEach isFirst
  obtain ⟨quantity, read⟩ := exists_eq_ok (sound use inside)
  exact ⟨rfl, use, find?_of_mem_firstOfEach isFirst, statesQuantity (inRange use inside) read⟩

/-! ## Products -/

/-- A row that is not malformed and holds an identifier of a material states that material, with a
quantity that can be read. -/
theorem ProductRow.statedMaterial?_of_sound {row : ProductRow}
    (sound : ∀ fault, ¬ row.Malformed fault) {id : EntityId}
    (isMaterial : row.materialId.toId? "material_id" = .ok (some id)) :
    (∃ m, row.statedMaterial? = some m ∧ m.id = id ∧ m.products = [] ∧
      m.quantity = row.statedQuantity ∧
      m.quantityInput = enteredText row.statedQuantity row.quantityText) ∧
    ∃ quantity, row.quantity.toQuantity? "quantity" = .ok quantity := by
  cases hasUnit : row.unitId.toId? "unit_id" with
  | error fault => exact absurd (.unitId isMaterial hasUnit) (sound fault)
  | ok unitId =>
    cases unitId with
    | none => exact absurd (.unitMissing isMaterial hasUnit) (sound _)
    | some unitId =>
      cases read : row.quantity.toQuantity? "quantity" with
      | error fault => exact absurd (.quantity isMaterial hasUnit read) (sound fault)
      | ok quantity =>
        rw [statedMaterial?, isMaterial, hasUnit]
        exact ⟨⟨_, rfl, rfl, rfl, rfl, rfl⟩, quantity, rfl⟩

theorem ProductRow.any_statedMaterial? {row : ProductRow}
    (sound : ∀ fault, ¬ row.Malformed fault) (id : EntityId) :
    row.statedMaterial?.any (·.id == id) = row.materialId.holdsId "material_id" id := by
  rw [Cell.holdsId]
  cases isMaterial : row.materialId.toId? "material_id" with
  | error fault => exact absurd (.materialId isMaterial) (sound fault)
  | ok material =>
    cases material with
    | none =>
      rw [ProductRow.statedMaterial?_eq_none isMaterial]
      rfl
    | some other =>
      obtain ⟨⟨m, states, rfl, -⟩, -⟩ := statedMaterial?_of_sound sound isMaterial
      rw [states]
      rfl

/-- A material of a listed product shows the columns of the first row of the two. -/
theorem groupProducts_shows {rows : List ProductRow} {ps : List Product} {p : Product}
    (inRange : ∀ row ∈ rows, row.quantity.InRange) (grouped : groupProducts rows = .ok ps)
    (member : p ∈ ps) :
    p.quantity = none ∧ ∀ m ∈ p.materials, m.products = [] ∧
      ∃ row, (rows.filter (·.productId == p.id)).find?
          (·.materialId.holdsId "material_id" m.id) = some row ∧
        m.ShowsColumns row.quantity row.quantityText := by
  obtain ⟨sound, first, rest, rfl, group⟩ := exists_rows_of_mem_groupProducts grouped member
  refine ⟨rfl, fun m isMaterial => ?_⟩
  have firstMaterial := find?_of_mem_firstOfEach isMaterial
  rw [List.find?_filterMap, ← group] at firstMaterial
  obtain ⟨row, isRow, states⟩ := Option.bind_eq_some_iff.1 firstMaterial
  have inside : row ∈ rows := List.mem_of_mem_filter (List.mem_of_find?_eq_some isRow)
  have holds : (rows.filter (·.productId == first.productId)).find?
      (·.materialId.holdsId "material_id" m.id) = some row := by
    rw [← isRow]
    exact List.find?_congr fun other isOther =>
      (ProductRow.any_statedMaterial? (sound other (List.mem_of_mem_filter isOther)) m.id).symm
  have isId : row.materialId.holdsId "material_id" m.id := by simpa using List.find?_some holds
  obtain ⟨⟨stated, isStated, -, alone, isQuantity, isInput⟩, quantity, read⟩ :=
    ProductRow.statedMaterial?_of_sound (sound row inside) (Cell.holdsId_iff.1 isId)
  obtain rfl : stated = m := Option.some.inj (isStated.symm.trans states)
  exact ⟨alone, row, holds,
    Material.showsColumns (inRange row inside) read isQuantity isInput⟩

/-- A material of an assembled product shows the columns of its first row. -/
theorem assembleProduct_shows {entry : ProductEntry} {parts : List PartRow} {p : Product}
    (inRange : ∀ part ∈ parts, part.quantity.InRange)
    (assembled : entry.assemble parts = .ok p) :
    p.quantity = none ∧ ∀ m ∈ p.materials, m.products = [] ∧
      ∃ part, parts.find? (·.materialId == m.id) = some part ∧
        m.ShowsColumns part.quantity part.quantityText := by
  have sound := sound_of_eq_ok assembled fun fault =>
    (entry.assemble_eq_error_iff parts fault).2
  rw [entry.assemble_eq_ok sound] at assembled
  obtain rfl := Except.ok.inj assembled
  refine ⟨rfl, fun m isMaterial => ?_⟩
  obtain ⟨part, isFirst, rfl⟩ := List.mem_map.1 isMaterial
  have inside : part ∈ parts := mem_of_mem_firstOfEach isFirst
  obtain ⟨quantity, read⟩ := exists_eq_ok (sound part isFirst)
  exact ⟨rfl, part, find?_of_mem_firstOfEach isFirst,
    Material.showsColumns (inRange part inside) read rfl rfl⟩

/-! ## All entries -/

/-- **Entries show what they compute with.**  However an entry is put together, a quantity in it is
the one that the two columns of a row state, the number column before the text column, and is finite
if it is a number.  A material shows the text beside its quantity exactly where the text reads as
this quantity, trimmed and not empty, so what is shown can be read again.  The row is the first of a
listed material, and for an entry inside another one the first that speaks of both.  A product
outside a material has no quantity of its own, and neither has a material that is looked up
alone. -/
theorem entries_show_what_they_compute_with :
    (∀ (rows : List MaterialRow) (ms : List Material),
      (∀ row ∈ rows, row.quantity.InRange) → groupMaterials rows = .ok ms →
      ∀ m ∈ ms,
        (∃ row, rows.find? (·.materialId == m.id) = some row ∧
          m.ShowsColumns row.quantity row.quantityText) ∧
        ∀ p ∈ m.products, p.materials = [] ∧
          ∃ row, (rows.filter (·.materialId == m.id)).find?
              (·.productId.holdsId "product_id" p.id) = some row ∧
            StatesQuantity row.quantity row.quantityText p.quantity) ∧
    (∀ (rows : List ProductRow) (ps : List Product),
      (∀ row ∈ rows, row.quantity.InRange) → groupProducts rows = .ok ps →
      ∀ p ∈ ps, p.quantity = none ∧ ∀ m ∈ p.materials, m.products = [] ∧
        ∃ row, (rows.filter (·.productId == p.id)).find?
            (·.materialId.holdsId "material_id" m.id) = some row ∧
          m.ShowsColumns row.quantity row.quantityText) ∧
    (∀ (entry : MaterialEntry) (names : List MarkedName) (uses : List UseRow) (m : Material),
      (∀ use ∈ uses, use.quantity.InRange) → entry.assemble names uses = .ok m →
      m.quantity = none ∧ m.quantityInput = none ∧ ∀ p ∈ m.products, p.materials = [] ∧
        ∃ use, uses.find? (·.productId == p.id) = some use ∧
          StatesQuantity use.quantity use.quantityText p.quantity) ∧
    ∀ (entry : ProductEntry) (parts : List PartRow) (p : Product),
      (∀ part ∈ parts, part.quantity.InRange) → entry.assemble parts = .ok p →
      p.quantity = none ∧ ∀ m ∈ p.materials, m.products = [] ∧
        ∃ part, parts.find? (·.materialId == m.id) = some part ∧
          m.ShowsColumns part.quantity part.quantityText := by
  refine ⟨?lists, ?productLists, ?single, ?singleProduct⟩
  case lists => exact fun rows ms inRange grouped m member =>
    groupMaterials_shows inRange grouped member
  case productLists => exact fun rows ps inRange grouped p member =>
    groupProducts_shows inRange grouped member
  case single => exact fun entry names uses m inRange assembled =>
    assembleMaterial_shows inRange assembled
  case singleProduct => exact fun entry parts p inRange assembled =>
    assembleProduct_shows inRange assembled

/-- A row that lists gold with the ring, and five kilograms of it. -/
def MaterialRow.fiveOfGold : MaterialRow :=
  (((new 2 { id := 3, name := "kg" }).forProduct 1 "Ring").withQuantity
    (.integer 5)).withQuantityText " 5,0 "

/-- A row that lists the ring with five kilograms of gold. -/
def ProductRow.fiveOfGold : ProductRow := (goldOfRing (.integer 5)).withQuantityText " 5,0 "

/-- Gold, without its uses. -/
def MaterialEntry.gold : MaterialEntry :=
  { materialId := 2, unitId := 3, unitName := "kg", description := none }

/-- The use of gold in the ring, with a text that says something else than the number. -/
def UseRow.fiveInRing : UseRow :=
  { productId := 1, name := "Ring", description := none, quantity := .integer 5
    quantityText := some "6" }

/-- Five kilograms of gold as a part of the ring. -/
def PartRow.fiveOfGold : PartRow := { gold (.integer 5) with quantityText := some " 5,0 " }

/-- Five kilograms are shown as they were entered, and a text that disagrees is passed over. -/
theorem five_kilograms_are_shown :
    (Cell.integer 5).InRange ∧
    (∃ m p, groupMaterials [.fiveOfGold] = .ok [m] ∧ m.products = [p] ∧
      m.ShowsColumns (.integer 5) (some " 5,0 ") ∧ m.shownQuantity = "5,0" ∧
      StatesQuantity (.integer 5) (some " 5,0 ") p.quantity) ∧
    (∃ p m, groupProducts [.fiveOfGold] = .ok [p] ∧ p.materials = [m] ∧
      m.ShowsColumns (.integer 5) (some " 5,0 ") ∧ m.shownQuantity = "5,0") ∧
    (∃ m p, MaterialEntry.gold.assemble [] [.fiveInRing] = .ok m ∧ m.products = [p] ∧
      StatesQuantity (.integer 5) (some "6") p.quantity) ∧
    ∃ p m, ProductEntry.ring.assemble [.fiveOfGold] = .ok p ∧ p.materials = [m] ∧
      m.ShowsColumns (.integer 5) (some " 5,0 ") ∧ m.shownQuantity = "5,0" := by
  have inRange : (Cell.integer 5).InRange := by decide
  obtain ⟨lists, productLists, single, singleProduct⟩ := entries_show_what_they_compute_with
  refine ⟨inRange, ⟨_, _, rfl, rfl, ?_, by decide +kernel, ?_⟩,
    ⟨_, _, rfl, rfl, ?_, by decide +kernel⟩, ⟨_, _, rfl, rfl, ?_⟩,
    ⟨_, _, rfl, rfl, ?_, by decide +kernel⟩⟩
  · obtain ⟨row, first, shows⟩ := (lists [.fiveOfGold] _ (List.forall_mem_singleton.2 inRange) rfl _
      List.mem_cons_self).1
    obtain rfl := List.mem_singleton.1 (List.mem_of_find?_eq_some first)
    exact shows
  · obtain ⟨-, row, first, states⟩ := (lists [.fiveOfGold] _ (List.forall_mem_singleton.2 inRange)
      rfl _ List.mem_cons_self).2 _ List.mem_cons_self
    obtain rfl := List.mem_singleton.1 (List.mem_of_mem_filter (List.mem_of_find?_eq_some first))
    exact states
  · obtain ⟨-, row, first, shows⟩ := (productLists [.fiveOfGold] _
      (List.forall_mem_singleton.2 inRange) rfl _ List.mem_cons_self).2 _ List.mem_cons_self
    obtain rfl := List.mem_singleton.1 (List.mem_of_mem_filter (List.mem_of_find?_eq_some first))
    exact shows
  · obtain ⟨-, use, first, states⟩ := (single .gold [] [.fiveInRing] _
      (List.forall_mem_singleton.2 inRange) rfl).2.2 _ List.mem_cons_self
    obtain rfl := List.mem_singleton.1 (List.mem_of_find?_eq_some first)
    exact states
  · obtain ⟨-, part, first, shows⟩ := (singleProduct .ring [.fiveOfGold] _
      (List.forall_mem_singleton.2 inRange) rfl).2 _ List.mem_cons_self
    obtain rfl := List.mem_singleton.1 (List.mem_of_find?_eq_some first)
    exact shows

end PartsCatalog

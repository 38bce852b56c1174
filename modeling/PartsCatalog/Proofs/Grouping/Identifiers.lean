import PartsCatalog.Proofs.EntityId
import PartsCatalog.Proofs.Grouping.Quantities

/-!
# Identifiers of grouped rows

The database types its cells one by one, so an identifier may come as an integer, as a text or as a
decimal.  A cell says which identifier it denotes by its value alone (`Cell.Denotes`), and reading
it finds that one: what denotes none is a fault, never a number close by.  So rows group alike in
whatever form their identifiers come (`groupMaterials_congr`, `groupProducts_congr`), and one entry
is made of all rows that denote its identifier (`identifiers_are_read_exactly`).
-/

namespace PartsCatalog

/-- A decimal is a whole number where its coefficient is a multiple of its places. -/
theorem Decimal.whole?_eq_some_iff {d : Decimal} {n : Int} :
    d.whole? = some n ↔ d.coefficient = n * 10 ^ d.scale := by
  have power : ((Nat.pow 10 d.scale : Nat) : Int) = 10 ^ d.scale := by
    rw [Nat.pow_eq, Int.natCast_pow]
    rfl
  have positive : (10 : Int) ^ d.scale ≠ 0 := pow_ne_zero _ (by decide)
  rw [whole?, power]
  constructor
  · intro whole
    split at whole
    · next exact =>
      obtain rfl := Option.some.inj whole
      exact (Int.ediv_mul_cancel_of_emod_eq_zero exact).symm
    · cases whole
  · intro exact
    rw [exact, if_pos (Int.mul_emod_left _ _), Int.mul_ediv_cancel _ positive]

/-! ## Cells -/

namespace Cell

/-- A cell denotes an identifier: as an integer, as a text that writes it between blanks, or as a
decimal of its value, with any number of places. -/
inductive Denotes : Cell → EntityId → Prop
  | integer (id : EntityId) : Denotes (.integer id) id
  | text {raw : String} {id : EntityId} (written : EntityId.Written (Text.trim raw) id) :
    Denotes (.text raw) id
  | decimal {value : Decimal} {id : EntityId}
    (exact : value.coefficient = id * 10 ^ value.scale) (inRange : EntityId.inRange id) :
    Denotes (.decimal value) id

/-- What is wrong with a cell that is not empty and denotes no identifier. -/
inductive Misplaced (column : String) : Cell → Fault → Prop
  /-- A text that writes no identifier of 64 bits. -/
  | text {raw : String} (unwritten : ∀ id, ¬ EntityId.Written (Text.trim raw) id) :
    Misplaced column (.text raw) (.cellIdUnreadable column raw)
  /-- A real number, also where it has no fraction. -/
  | real (value : Binary64) : Misplaced column (.real value) (.cellNotAnId column (.real value))
  /-- A decimal with a fraction. -/
  | fraction {value : Decimal} (fraction : ∀ n : Int, value.coefficient ≠ n * 10 ^ value.scale) :
    Misplaced column (.decimal value) (.cellNotAnId column (.decimal value))
  /-- A whole number of more than 64 bits. -/
  | outside {value : Decimal} {n : Int} (exact : value.coefficient = n * 10 ^ value.scale)
    (outside : ¬ EntityId.inRange n) :
    Misplaced column (.decimal value) (.cellIdOutOfRange column value)

variable {cell other : Cell} {column : String} {id : EntityId} {fault : Fault}

theorem Misplaced.kind_eq (misplaced : cell.Misplaced column fault) : fault.kind = .internal := by
  cases misplaced <;> rfl

theorem toId?_eq_some (denotes : cell.Denotes id) : cell.toId? column = .ok (some id) := by
  cases denotes with
  | integer => rfl
  | text written => rw [toId?, EntityId.ofText?_eq_some_iff.2 written]
  | decimal exact inRange =>
    simp only [toId?, Decimal.whole?_eq_some_iff.2 exact, inRange, if_true]

theorem toId?_eq_error (misplaced : cell.Misplaced column fault) :
    cell.toId? column = .error fault := by
  cases misplaced with
  | text unwritten => rw [toId?, EntityId.ofText?_eq_none_iff.2 unwritten]
  | real => rfl
  | @fraction value fraction =>
    have none : value.whole? = none :=
      Option.eq_none_iff_forall_ne_some.2 fun n whole =>
        fraction n (Decimal.whole?_eq_some_iff.1 whole)
    rw [toId?, none]
  | outside exact outside =>
    simp only [toId?, Decimal.whole?_eq_some_iff.2 exact, outside, Bool.false_eq_true, if_false]

/-- A cell is empty, or denotes an identifier, or is misplaced. -/
theorem denotes_or_misplaced (column : String) (cell : Cell) :
    cell = .null ∨ (∃ id, cell.Denotes id) ∨ ∃ fault, cell.Misplaced column fault := by
  cases cell with
  | null => exact .inl rfl
  | integer id => exact .inr (.inl ⟨id, .integer id⟩)
  | real value => exact .inr (.inr ⟨_, .real value⟩)
  | text raw =>
    by_cases written : ∃ id, EntityId.Written (Text.trim raw) id
    · obtain ⟨id, written⟩ := written
      exact .inr (.inl ⟨id, .text written⟩)
    · exact .inr (.inr ⟨_, .text (not_exists.1 written)⟩)
  | decimal value =>
    by_cases whole : ∃ n : Int, value.coefficient = n * 10 ^ value.scale
    · obtain ⟨n, exact⟩ := whole
      by_cases inRange : EntityId.inRange n
      · exact .inr (.inl ⟨n, .decimal exact inRange⟩)
      · exact .inr (.inr ⟨_, .outside exact inRange⟩)
    · exact .inr (.inr ⟨_, .fraction (not_exists.1 whole)⟩)

theorem toId?_eq_none_iff : cell.toId? column = .ok none ↔ cell = .null := by
  constructor
  · intro read
    rcases denotes_or_misplaced column cell with null | ⟨id, denotes⟩ | ⟨fault, misplaced⟩
    · exact null
    · cases (toId?_eq_some denotes).symm.trans read
    · cases (toId?_eq_error misplaced).symm.trans read
  · rintro rfl
    rfl

theorem toId?_eq_some_iff : cell.toId? column = .ok (some id) ↔ cell.Denotes id := by
  refine ⟨fun read => ?_, toId?_eq_some⟩
  rcases denotes_or_misplaced column cell with rfl | ⟨other, denotes⟩ | ⟨fault, misplaced⟩
  · cases read
  · cases (toId?_eq_some denotes).symm.trans read
    exact denotes
  · cases (toId?_eq_error misplaced).symm.trans read

theorem toId?_eq_error_iff : cell.toId? column = .error fault ↔ cell.Misplaced column fault := by
  refine ⟨fun failed => ?_, toId?_eq_error⟩
  rcases denotes_or_misplaced column cell with rfl | ⟨id, denotes⟩ | ⟨other, misplaced⟩
  · cases failed
  · cases (toId?_eq_some denotes).symm.trans failed
  · cases (toId?_eq_error misplaced).symm.trans failed
    exact misplaced

/-- Exactly the cells that are not empty and denote no identifier are faults of the database. -/
theorem exists_internal_iff :
    (∃ fault, cell.toId? column = .error fault ∧ fault.kind = .internal) ↔
      cell ≠ .null ∧ ∀ id, ¬ cell.Denotes id := by
  constructor
  · rintro ⟨fault, failed, -⟩
    refine ⟨?_, fun id denotes => ?_⟩
    · rintro rfl
      cases failed
    · cases (toId?_eq_some denotes).symm.trans failed
  · rintro ⟨present, none⟩
    rcases denotes_or_misplaced column cell with null | ⟨id, denotes⟩ | ⟨fault, misplaced⟩
    · exact absurd null present
    · exact absurd denotes (none id)
    · exact ⟨fault, toId?_eq_error misplaced, misplaced.kind_eq⟩

/-- An identifier has 64 bits, if an integer in a cell has. -/
theorem Denotes.inRange (denotes : cell.Denotes id) (cellInRange : cell.InRange) :
    EntityId.inRange id := by
  cases denotes with
  | integer => exact cellInRange
  | text written => exact written.inRange
  | decimal _ inRange => exact inRange

/-- Two cells say the same where an identifier is expected: they are the same, or denote the same
identifier. -/
inductive SameId : Cell → Cell → Prop
  | refl (cell : Cell) : SameId cell cell
  | denotes {cell other : Cell} {id : EntityId} (denotes : cell.Denotes id)
    (otherDenotes : other.Denotes id) : SameId cell other

theorem SameId.toId?_eq (same : cell.SameId other) (column : String) :
    cell.toId? column = other.toId? column := by
  cases same with
  | refl => rfl
  | denotes denotes otherDenotes => rw [toId?_eq_some denotes, toId?_eq_some otherDenotes]

end Cell

/-! ## Rows in other forms -/

/-- A row with its identifiers in any form. -/
def MaterialRow.Respelled (row row' : MaterialRow) : Prop :=
  ∃ productId, row.productId.SameId productId ∧ row' = { row with productId }

/-- A row with its identifiers in any form. -/
def ProductRow.Respelled (row row' : ProductRow) : Prop :=
  ∃ materialId unitId, row.materialId.SameId materialId ∧ row.unitId.SameId unitId ∧
    row' = { row with materialId, unitId }

theorem MaterialRow.Respelled.addTo_eq {row row' : MaterialRow} (respelled : row.Respelled row')
    (done : List Material) : addTo done row = addTo done row' := by
  obtain ⟨productId, same, rfl⟩ := respelled
  simp only [addTo, product?, same.toId?_eq]
  rfl

theorem ProductRow.Respelled.addTo_eq {row row' : ProductRow} (respelled : row.Respelled row')
    (done : List Product) : addTo done row = addTo done row' := by
  obtain ⟨materialId, unitId, sameMaterial, sameUnit, rfl⟩ := respelled
  simp only [addTo, material?, sameMaterial.toId?_eq, sameUnit.toId?_eq]
  rfl

theorem groupMaterials_congr {rows rows' : List MaterialRow}
    (respelled : List.Forall₂ MaterialRow.Respelled rows rows') :
    groupMaterials rows = groupMaterials rows' :=
  foldlM_congr (respelled.imp fun _ _ respelled => respelled.addTo_eq) []

theorem groupProducts_congr {rows rows' : List ProductRow}
    (respelled : List.Forall₂ ProductRow.Respelled rows rows') :
    groupProducts rows = groupProducts rows' :=
  foldlM_congr (respelled.imp fun _ _ respelled => respelled.addTo_eq) []

/-! ## One entry of every identifier -/

theorem Cell.holdsId_iff_denotes {cell : Cell} {column : String} {id : EntityId} :
    cell.holdsId column id ↔ cell.Denotes id :=
  holdsId_iff.trans toId?_eq_some_iff

/-- The products of a listed material are those that its rows denote, each once. -/
theorem groupMaterials_products {rows : List MaterialRow} {ms : List Material} {m : Material}
    (grouped : groupMaterials rows = .ok ms) (member : m ∈ ms) :
    (m.products.map (·.id)).Nodup ∧ ∀ id, id ∈ m.products.map (·.id) ↔
      ∃ row ∈ rows, row.materialId = m.id ∧ row.productId.Denotes id := by
  obtain ⟨-, first, rest, rfl, group⟩ := exists_rows_of_mem_groupMaterials grouped member
  refine ⟨nodup_map_key_firstOfEach _ _, fun id => ?_⟩
  change id ∈ (firstOfEach Product.id ((first :: rest).filterMap _)).map Product.id ↔ _
  simp only [mem_map_key_firstOfEach_filterMap, ← group, MaterialRow.any_statedProduct?,
    Cell.holdsId_iff_denotes, List.mem_filter, beq_iff_eq, and_assoc]
  rfl

/-- The materials of a listed product are those that its rows denote, each once. -/
theorem groupProducts_materials {rows : List ProductRow} {ps : List Product} {p : Product}
    (grouped : groupProducts rows = .ok ps) (member : p ∈ ps) :
    (p.materials.map (·.id)).Nodup ∧ ∀ id, id ∈ p.materials.map (·.id) ↔
      ∃ row ∈ rows, row.productId = p.id ∧ row.materialId.Denotes id := by
  obtain ⟨sound, first, rest, rfl, group⟩ := exists_rows_of_mem_groupProducts grouped member
  refine ⟨nodup_map_key_firstOfEach _ _, fun id => ?_⟩
  change id ∈ (firstOfEach Material.id ((first :: rest).filterMap _)).map Material.id ↔ _
  rw [mem_map_key_firstOfEach_filterMap, ← group]
  refine exists_congr fun row => ?_
  rw [List.mem_filter, beq_iff_eq, and_assoc]
  refine and_congr_right fun inside => and_congr_right fun _ => ?_
  rw [ProductRow.any_statedMaterial? (sound row inside), Cell.holdsId_iff_denotes]

/-- **Identifiers are read exactly or not at all.**  An empty cell holds none.  Any other cell holds
the one it denotes, an integer as it is, a text in digits with an optional sign and a decimal
without a fraction, each within 64 bits; and what denotes none is an internal fault, for the reason
that is named.  So rows group alike in whatever form their identifiers come: an entry has each
product or material once, and exactly those that one of its rows denotes. -/
theorem identifiers_are_read_exactly :
    (∀ (column : String) (cell : Cell),
      (cell.toId? column = .ok none ↔ cell = .null) ∧
      (∀ id, cell.toId? column = .ok (some id) ↔ cell.Denotes id) ∧
      (∀ fault, cell.toId? column = .error fault ↔ cell.Misplaced column fault) ∧
      ((∃ fault, cell.toId? column = .error fault ∧ fault.kind = .internal) ↔
        cell ≠ .null ∧ ∀ id, ¬ cell.Denotes id) ∧
      ∀ id, cell.InRange → cell.Denotes id → EntityId.inRange id) ∧
    (∀ rows rows', List.Forall₂ MaterialRow.Respelled rows rows' →
      groupMaterials rows = groupMaterials rows') ∧
    (∀ rows rows', List.Forall₂ ProductRow.Respelled rows rows' →
      groupProducts rows = groupProducts rows') ∧
    (∀ rows ms, groupMaterials rows = .ok ms → ∀ m ∈ ms,
      (m.products.map (·.id)).Nodup ∧ ∀ id, id ∈ m.products.map (·.id) ↔
        ∃ row ∈ rows, row.materialId = m.id ∧ row.productId.Denotes id) ∧
    ∀ rows ps, groupProducts rows = .ok ps → ∀ p ∈ ps,
      (p.materials.map (·.id)).Nodup ∧ ∀ id, id ∈ p.materials.map (·.id) ↔
        ∃ row ∈ rows, row.productId = p.id ∧ row.materialId.Denotes id := by
  refine ⟨?cells, ?materialRows, ?productRows, ?products, ?materials⟩
  case cells => exact fun column cell => ⟨Cell.toId?_eq_none_iff, fun id => Cell.toId?_eq_some_iff,
    fun fault => Cell.toId?_eq_error_iff, Cell.exists_internal_iff,
    fun id cellInRange denotes => denotes.inRange cellInRange⟩
  case materialRows => exact fun rows rows' => groupMaterials_congr
  case productRows => exact fun rows rows' => groupProducts_congr
  case products => exact fun rows ms grouped m => groupMaterials_products grouped
  case materials => exact fun rows ps grouped p => groupProducts_materials grouped

/-- Seven, with two places. -/
def Decimal.sevenWithPlaces : Decimal :=
  { coefficient := 700, scale := 2, coefficient_lt := by decide, scale_le := by decide }

/-- A row that lists gold with the ring, whose identifier comes in a cell. -/
def MaterialRow.goldInRing (productId : Cell) : MaterialRow :=
  { new 2 { id := 3, name := "kg" } with productId, productName := some "Ring" }

/-- A row that lists the ring with gold, whose identifier comes in a cell. -/
def ProductRow.ringOfGold (materialId : Cell) : ProductRow :=
  { goldOfRing .null with materialId }

/-- Seven is the same identifier as a text, as a decimal and as an integer. -/
theorem sevens_group_alike :
    (Cell.text " +007 ").Denotes 7 ∧ (Cell.decimal .sevenWithPlaces).Denotes 7 ∧
    EntityId.inRange 7 ∧
    groupMaterials [.goldInRing (.text " +007 "), .goldInRing (.decimal .sevenWithPlaces)] =
      groupMaterials [.goldInRing (.integer 7), .goldInRing (.integer 7)] ∧
    groupProducts [.ringOfGold (.text " +007 "), .ringOfGold (.decimal .sevenWithPlaces)] =
      groupProducts [.ringOfGold (.integer 7), .ringOfGold (.integer 7)] ∧
    (∃ m, groupMaterials [.goldInRing (.integer 7), .goldInRing (.integer 7)] = .ok [m] ∧
      7 ∈ m.products.map (·.id)) ∧
    ∃ p, groupProducts [.ringOfGold (.integer 7), .ringOfGold (.integer 7)] = .ok [p] ∧
      7 ∈ p.materials.map (·.id) := by
  obtain ⟨cells, materialRows, productRows, products, materials⟩ := identifiers_are_read_exactly
  have text : (Cell.text " +007 ").Denotes 7 :=
    .text (EntityId.ofText?_eq_some_iff.1 (by decide))
  have decimal : (Cell.decimal .sevenWithPlaces).Denotes 7 := .decimal (by decide) (by decide)
  have integer : (Cell.integer 7).Denotes 7 := .integer 7
  refine ⟨text, decimal, ?_, ?_, ?_, ⟨_, rfl, ?_⟩, ⟨_, rfl, ?_⟩⟩
  · exact (cells "product_id" (.integer 7)).2.2.2.2 7 (by decide) integer
  · exact materialRows _ _ (.cons ⟨_, .denotes text integer, rfl⟩
      (.cons ⟨_, .denotes decimal integer, rfl⟩ .nil))
  · exact productRows _ _ (.cons ⟨_, .integer 3, .denotes text integer, .refl _, rfl⟩
      (.cons ⟨_, .integer 3, .denotes decimal integer, .refl _, rfl⟩ .nil))
  · exact ((products [.goldInRing (.integer 7), .goldInRing (.integer 7)] _ rfl _
      List.mem_cons_self).2 7).2 ⟨_, List.mem_cons_self, rfl, integer⟩
  · exact ((materials [.ringOfGold (.integer 7), .ringOfGold (.integer 7)] _ rfl _
      List.mem_cons_self).2 7).2 ⟨_, List.mem_cons_self, rfl, integer⟩

end PartsCatalog

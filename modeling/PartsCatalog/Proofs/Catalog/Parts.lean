import PartsCatalog.Proofs.Catalog.Reads

/-!
# Parts of products

The links of the inventory and the list of materials inside a product are two ways to keep the same
thing.  What every change does to the links of a product, `Change.actOn` tells by the operations on
a product alone; looking at identifiers, quantities and entered texts (`Product.shares`), the two
never differ (`changes_act_as_on_products`).
-/

namespace PartsCatalog

/-! ## Shares -/

/-- What a product takes of one material: which one, how much of it and in which words. -/
def Material.share (m : Material) : EntityId × Option Quantity × Option String :=
  (m.id, m.quantity, m.quantityInput)

/-- What a product takes of its materials, in their order. -/
def Product.shares (p : Product) : List (EntityId × Option Quantity × Option String) :=
  p.materials.map Material.share

/-- The share that a link stands for. -/
def Link.share (link : Link) : EntityId × Option Quantity × Option String :=
  (link.materialId, link.quantity, link.quantity.map fun _ => link.input)

/-- A quantity that is entered gives the same share in a material and in a link. -/
theorem Material.share_enterQuantity (m : Material) (raw : String) :
    (m.enterQuantity raw).share =
      (m.id, Quantity.ofInput? raw, (Quantity.ofInput? raw).map fun _ => Text.trim raw) := by
  rw [share, enterQuantity]

theorem Link.share_ofInput (productId materialId : EntityId) (raw : String) :
    (Link.ofInput productId materialId raw).share =
      (materialId, Quantity.ofInput? raw, (Quantity.ofInput? raw).map fun _ => Text.trim raw) := by
  rw [share, ofInput]

/-- What a change does to the product `id` as long as it is there, told on the product itself. -/
def Change.actOn (unit : MeasureUnit) (id : EntityId) (p : Product) : Change → Product
  | .setPart productId materialId raw =>
    if productId = id then p.setMaterial ((Material.new materialId unit).enterQuantity raw) else p
  | .removePart productId materialId =>
    if productId = id then p.removeMaterial materialId else p
  | .removeMaterial materialId => p.removeMaterial materialId
  | _ => p

/-- What an event does to the product `id`: the change acts if it succeeded. -/
def Event.actOn (unit : MeasureUnit) (id : EntityId) (p : Product) : Event → Product
  | ⟨change, .ok _⟩ => change.actOn unit id p
  | ⟨_, .error _⟩ => p

/-- The product that takes the given materials, in the quantities that they show. -/
def Product.ofShown (unit : MeasureUnit) (id : EntityId) (name : String)
    (materials : List Material) : Product :=
  materials.foldl
    (fun p m => p.setMaterial ((Material.new m.id unit).enterQuantity m.shownQuantity))
    (Product.new id name)

namespace Product

variable {p : Product} {m : Material} {id : EntityId}

theorem shares_setMaterial :
    (p.setMaterial m).shares =
      updateOrAppend Prod.fst m.id (fun _ => m.share) m.share p.shares :=
  map_updateOrAppend (fun _ _ => Iff.rfl) fun _ _ _ => rfl

theorem shares_removeMaterial : (p.removeMaterial id).shares = removeFirst Prod.fst id p.shares :=
  map_removeFirst fun _ => rfl

theorem map_fst_shares : p.shares.map Prod.fst = p.materials.map Material.id := by
  rw [shares, List.map_map]
  rfl

end Product

/-! ## Links of a product -/

namespace Inventory

variable {inv inv' : Inventory} {id productId materialId : EntityId} {link : Link}

/-- The shares of a product, read off its links. -/
def sharesOf (inv : Inventory) (id : EntityId) :
    List (EntityId × Option Quantity × Option String) :=
  (inv.partsOf id).map Link.share

theorem shares_productView (record : StoredProduct) :
    (inv.productView id record).shares = inv.sharesOf id := by
  rw [Product.shares, productView, sharesOf, List.map_map]
  refine List.map_congr_left fun link _ => ?_
  rw [Function.comp_apply, Material.share, id_partOf, Link.share]
  rfl

theorem map_fst_sharesOf :
    (inv.sharesOf id).map Prod.fst = (inv.partsOf id).map (·.materialId) := by
  rw [sharesOf, List.map_map]
  rfl

theorem sharesOf_putLink (atProduct : link.productId = id) :
    (inv.putLink link).sharesOf id =
      updateOrAppend Prod.fst link.materialId (fun _ => link.share) link.share
        (inv.sharesOf id) := by
  have kept : (inv.putLink link).partsOf id =
      updateOrAppend Link.ends link.ends (fun _ => link) link (inv.partsOf id) := by
    refine filter_updateOrAppend (beq_iff_eq.2 atProduct) fun other same => ?_
    rw [beq_iff_eq, beq_iff_eq]
    exact ⟨(congrArg Prod.fst same).trans atProduct, atProduct⟩
  rw [sharesOf, kept]
  refine map_updateOrAppend (fun other member => ?_) fun _ _ _ => rfl
  -- links of one product differ in the material
  have sameProduct : other.productId = link.productId :=
    (beq_iff_eq.1 (List.mem_filter.1 member).2).trans atProduct.symm
  rw [Link.ends, Link.ends, sameProduct, Prod.mk.injEq, eq_self, true_and, Link.share]

theorem sharesOf_putLink_of_ne (other : link.productId ≠ id) :
    (inv.putLink link).sharesOf id = inv.sharesOf id := by
  have kept : (inv.putLink link).partsOf id = inv.partsOf id := by
    refine filter_updateOrAppend_of_not (beq_eq_false_iff_ne.2 other) fun link' same => ?_
    rw [beq_eq_false_iff_ne, beq_eq_false_iff_ne, show link'.productId = link.productId from
      congrArg Prod.fst same]
    exact ⟨other, other⟩
  rw [sharesOf, kept, sharesOf]

/-- Where the links that stay are told by the material, so are the shares. -/
theorem sharesOf_of_filter {keep : Link → Bool} (links : inv'.links = inv.links.filter keep)
    (byMaterial : ∀ link ∈ inv.partsOf id, keep link = (link.materialId != materialId)) :
    inv'.sharesOf id = (inv.sharesOf id).filter (·.1 != materialId) := by
  have kept : inv'.partsOf id = (inv.partsOf id).filter (·.materialId != materialId) := by
    rw [partsOf, links, List.filter_filter, ← List.filter_congr byMaterial, partsOf,
      List.filter_filter]
    exact List.filter_congr fun _ _ => Bool.and_comm _ _
  rw [sharesOf, kept, sharesOf, List.filter_map]
  rfl

theorem sharesOf_of_links (links : inv'.links = inv.links) :
    inv'.sharesOf id = inv.sharesOf id := by
  rw [sharesOf, partsOf, links, sharesOf, partsOf]

/-- A link that a form gives sets the share that the product would set. -/
theorem sharesOf_putLink_ofInput {p : Product} {unit : MeasureUnit} {raw : String}
    (same : p.shares = inv.sharesOf id) :
    (inv.putLink (.ofInput id materialId raw)).sharesOf id =
      (p.setMaterial ((Material.new materialId unit).enterQuantity raw)).shares := by
  have kept : (inv.putLink (.ofInput id materialId raw)).sharesOf id = _ := sharesOf_putLink rfl
  rw [kept, Product.shares_setMaterial, same, Link.share_ofInput, Material.share_enterQuantity]
  rfl

/-- The parts of a new product are set one by one, on the links as on the product. -/
theorem sharesOf_putParts {unit : MeasureUnit} {ms : List Material} :
    ∀ {inv : Inventory} {p : Product}, p.shares = inv.sharesOf id →
      (inv.putParts id ms).sharesOf id =
        (ms.foldl (fun p m =>
          p.setMaterial ((Material.new m.id unit).enterQuantity m.shownQuantity)) p).shares := by
  induction ms with
  | nil => exact fun same => same.symm
  | cons m ms ih => exact fun same => ih (sharesOf_putLink_ofInput same).symm

theorem sharesOf_putParts_of_ne {ms : List Material} (other : productId ≠ id) :
    ∀ {inv : Inventory}, (inv.putParts productId ms).sharesOf id = inv.sharesOf id := by
  induction ms with
  | nil => exact rfl
  | cons m ms ih => exact ih.trans (sharesOf_putLink_of_ne other)

/-! ## Steps -/

/-- With distinct materials, removing one from a product is leaving out its share. -/
theorem Valid.shares_removeMaterial (valid : inv.Valid) {p : Product}
    (same : p.shares = inv.sharesOf id) :
    (p.removeMaterial materialId).shares = (inv.sharesOf id).filter (·.1 != materialId) := by
  have distinct : ((inv.sharesOf id).map Prod.fst).Nodup := by
    rw [map_fst_sharesOf]
    exact valid.nodup_partsOf id
  rw [Product.shares_removeMaterial, same, removeFirst_eq_filter distinct]

/-- A change acts on the links of a product as on a product with the same shares. -/
theorem Valid.sharesOf_of_effect (valid : inv.Valid) {change : Change} {outcome : Outcome}
    (effect : Effect inv change outcome inv') {p : Product} (unit : MeasureUnit)
    (present : id ∈ inv.products.ids) (stays : change ≠ .removeProduct id)
    (same : p.shares = inv.sharesOf id) : inv'.sharesOf id = (change.actOn unit id p).shares := by
  cases effect with
  | @setPart productId materialId raw product material =>
    by_cases atProduct : productId = id
    · subst atProduct
      rw [Change.actOn, if_pos rfl]
      exact sharesOf_putLink_ofInput same
    · rw [Change.actOn, if_neg atProduct, same]
      exact sharesOf_putLink_of_ne atProduct
  | @removePart productId materialId product =>
    by_cases atProduct : productId = id
    · subst atProduct
      rw [Change.actOn, if_pos rfl, valid.shares_removeMaterial same]
      refine sharesOf_of_filter rfl fun link member => ?_
      have sameProduct : link.productId = productId := beq_iff_eq.1 (List.mem_filter.1 member).2
      rw [Bool.eq_iff_iff, bne_iff_ne, bne_iff_ne, Link.ends, sameProduct, Ne, Prod.mk.injEq,
        eq_self, true_and]
    · rw [Change.actOn, if_neg atProduct, same, sharesOf, partsOf, Inventory.dropLink,
        List.filter_filter, sharesOf, partsOf]
      congr 1
      refine List.filter_congr fun link _ => ?_
      by_cases here : link.productId = id
      · have other : link.ends ≠ (productId, materialId) := fun ends =>
          atProduct ((congrArg Prod.fst ends).symm.trans here)
        rw [bne_iff_ne.2 other, Bool.and_true]
      · rw [beq_eq_false_iff_ne.2 here, Bool.false_and]
  | removeMaterial present =>
    rw [Change.actOn, valid.shares_removeMaterial same]
    exact sharesOf_of_filter rfl fun _ _ => rfl
  | @removeProduct productId present =>
    have other : productId ≠ id := fun here => stays (here ▸ rfl)
    have whole : (Change.removeProduct productId).actOn unit id p = p := rfl
    rw [whole, same, sharesOf, partsOf, Inventory.dropProduct, List.filter_filter, sharesOf,
      partsOf]
    congr 1
    refine List.filter_congr fun link _ => ?_
    by_cases here : link.productId = id
    · rw [bne_iff_ne.2 fun same => other (same.symm.trans here), Bool.and_true]
    · rw [beq_eq_false_iff_ne.2 here, Bool.false_and]
  | @addProduct added proper materials =>
    have other : inv.nextId ≠ id := by
      rintro rfl
      exact valid.ids.nextId_not_mem (by simp [idsInUse, present])
    exact (sharesOf_putParts_of_ne other).trans same.symm
  -- no other change touches a link
  | addUnit | renameUnit | removeUnit | addMaterial | renameMaterial | changeUnit
  | describeMaterial | reviseProduct | addFile | choosePicture | removeFile =>
    exact (sharesOf_of_links rfl).trans same.symm

/-! ## Answers of changes -/

/-- Taking out a part tells whether the product gets shorter. -/
theorem Valid.takenOut_eq (valid : inv.Valid) {p : Product} (same : p.shares = inv.sharesOf id) :
    inv.links.any (·.ends == (id, materialId)) =
      ((p.removeMaterial materialId).materials.length != p.materials.length) := by
  have lengths (q : Product) : q.materials.length = q.shares.length := List.length_map _ |>.symm
  have member : (∃ link ∈ inv.links, link.ends = (id, materialId)) ↔
      ∃ share ∈ inv.sharesOf id, share.1 = materialId := by
    simp [sharesOf, partsOf, Link.share, Link.ends, and_assoc]
  rw [lengths, lengths, valid.shares_removeMaterial same, same, Bool.eq_iff_iff, List.any_eq_true,
    bne_iff_ne, Ne, List.length_filter_eq_length_iff]
  simpa using member

/-- A product that is not there yet takes nothing. -/
theorem Valid.sharesOf_nextId (valid : inv.Valid) : inv.sharesOf inv.nextId = [] := by
  have none : inv.partsOf inv.nextId = [] := by
    refine List.filter_eq_nil_iff.2 fun link member atNext => ?_
    have present := (valid.linked link member).1
    rw [beq_iff_eq.1 atNext] at present
    exact valid.ids.nextId_not_mem (by simp [idsInUse, present])
  rw [sharesOf, none, List.map_nil]

/-- A new product takes what is shown of the materials that it is given. -/
theorem Valid.sharesOf_addProduct (valid : inv.Valid) {p : Product} (unit : MeasureUnit)
    (effect : Effect inv (.addProduct p) (.added inv.nextId) inv') :
    inv'.sharesOf inv.nextId = (Product.ofShown unit inv.nextId p.name p.materials).shares := by
  cases effect with
  | addProduct proper present => exact sharesOf_putParts valid.sharesOf_nextId.symm

theorem outcome_removePart {outcome : Outcome}
    (effect : Effect inv (.removePart productId materialId) outcome inv') :
    outcome = .takenOut (inv.links.any (·.ends == (productId, materialId))) := by
  cases effect with
  | removePart product => rfl

theorem outcome_addProduct {outcome : Outcome} {p : Product}
    (effect : Effect inv (.addProduct p) outcome inv') : outcome = .added inv.nextId := by
  cases effect with
  | addProduct proper present => rfl

/-! ## Reading products -/

/-- A product that can be read is there, with the shares of its links. -/
theorem Valid.shares_of_product (valid : inv.Valid) {p : Product} (read : inv.product id = .ok p) :
    id ∈ inv.products.ids ∧ p.shares = inv.sharesOf id := by
  have present := (valid.finds_product id).answered.1 ⟨p, read⟩
  obtain ⟨record, found⟩ := Table.mem_ids_iff.1 present
  obtain rfl : inv.productView id record = p :=
    Except.ok.inj ((valid.product_eq_ok found).symm.trans read)
  exact ⟨present, inv.shares_productView record⟩

/-- A product that is there can be read. -/
theorem Valid.exists_product (valid : inv.Valid) (present : id ∈ inv.products.ids) :
    ∃ p, inv.product id = .ok p ∧ p.shares = inv.sharesOf id := by
  obtain ⟨p, read⟩ := (valid.finds_product id).answered.2 present
  exact ⟨p, read, (valid.shares_of_product read).2⟩

/-- Products take materials that are there. -/
theorem Valid.mem_ids_of_product (valid : inv.Valid) {p : Product}
    (read : inv.product id = .ok p) {m : Material} (member : m ∈ p.materials) :
    m.id ∈ inv.materials.ids := by
  have inside : m.id ∈ (inv.partsOf id).map (·.materialId) := by
    rw [← map_fst_sharesOf, ← (valid.shares_of_product read).2, Product.map_fst_shares]
    exact List.mem_map_of_mem member
  obtain ⟨link, partOf, sameId⟩ := List.mem_map.1 inside
  exact sameId ▸ (valid.linked link (List.mem_filter.1 partOf).1).2

/-- A product that a change does not remove can be read after it, with the shares that the change
makes of those before. -/
theorem Valid.product_of_effect (valid : inv.Valid) {change : Change} {outcome : Outcome}
    (effect : Effect inv change outcome inv') {p : Product} (unit : MeasureUnit)
    (stays : change ≠ .removeProduct id) (read : inv.product id = .ok p) :
    ∃ p', inv'.product id = .ok p' ∧ p'.shares = (change.actOn unit id p).shares := by
  obtain ⟨present, same⟩ := valid.shares_of_product read
  have kept : inv'.Holds (.product id) := by
    refine (holds_of_effect effect).2 (.inr ⟨present, fun removed => stays ?_⟩)
    cases change <;> cases removed
    rfl
  obtain ⟨p', read', shares⟩ := (valid.of_effect effect).exists_product kept
  exact ⟨p', read', shares.trans (valid.sharesOf_of_effect effect unit present stays same)⟩

/-- A new product can be read, and takes what is shown of the materials that it is given. -/
theorem Valid.product_of_addProduct (valid : inv.Valid) {p : Product} (unit : MeasureUnit)
    (effect : Effect inv (.addProduct p) (.added inv.nextId) inv') :
    ∃ p', inv'.product inv.nextId = .ok p' ∧
      p'.shares = (Product.ofShown unit inv.nextId p.name p.materials).shares := by
  have added : inv'.Holds (.product inv.nextId) := (holds_of_effect effect).2 (.inl rfl)
  obtain ⟨p', read, shares⟩ := (valid.of_effect effect).exists_product added
  exact ⟨p', read, shares.trans (valid.sharesOf_addProduct unit effect)⟩

/-! ## Runs -/

/-- Over a whole run the shares of a product go along with a product on which every change that
succeeded acts, as long as none removes it. -/
theorem Valid.sharesOf_run (unit : MeasureUnit) :
    ∀ {changes : List Change} {inv : Inventory} {p : Product}, inv.Valid →
      id ∈ inv.products.ids → p.shares = inv.sharesOf id →
      (∀ event ∈ inv.history changes, event.removed? ≠ some (.product id)) →
        (inv.run changes).sharesOf id =
          ((inv.history changes).foldl (Event.actOn unit id) p).shares := by
  intro changes
  induction changes with
  | nil => exact fun _ _ same _ => same.symm
  | cons change changes ih =>
    intro inv p valid present same stays
    obtain ⟨staysNow, staysLater⟩ := List.forall_mem_cons.1 stays
    have kept : (inv.step change).1.Holds (.product id) :=
      (inv.holds_step change (.product id)).2 (.inr ⟨present, staysNow⟩)
    refine ih (valid.step change) kept ?_ staysLater
    rcases inv.step_cases change with ⟨outcome, inv', ended, effect⟩ | ⟨fault, ended⟩
    · have other : change ≠ .removeProduct id := by
        rintro rfl
        exact staysNow (by rw [ended]; rfl)
      change _ = (inv.step change).1.sharesOf id
      rw [ended]
      exact (valid.sharesOf_of_effect effect unit present other same).symm
    · change _ = (inv.step change).1.sharesOf id
      rw [ended]
      exact same

/-! ## Links and lists -/

/-- **Changes act on the links of a product as on its list of materials.**  A change that succeeds
after any run of changes makes of what a product takes what `Change.actOn` makes of it, unless it
removes the product.  Taking out a part tells whether there was anything to take out; no product
takes a material any more that was removed; and a new product takes what is shown of the materials
that it is given, one set after the other. -/
theorem changes_act_as_on_products (changes : List Change) (change : Change) (outcome : Outcome)
    (inv' : Inventory) :
    let inv := empty.run changes
    inv.step change = (inv', .ok outcome) →
      (∀ unit id p, inv.product id = .ok p → change ≠ .removeProduct id →
        ∃ p', inv'.product id = .ok p' ∧ p'.shares = (change.actOn unit id p).shares) ∧
      (∀ productId materialId, change = .removePart productId materialId →
        ∃ p, inv.product productId = .ok p ∧ outcome =
          .takenOut ((p.removeMaterial materialId).materials.length != p.materials.length)) ∧
      (∀ materialId, change = .removeMaterial materialId → ∀ id p', inv'.product id = .ok p' →
        ∀ m ∈ p'.materials, m.id ≠ materialId) ∧
      ∀ q, change = .addProduct q → outcome = .added inv.nextId ∧
        ∀ unit, ∃ p', inv'.product inv.nextId = .ok p' ∧
          p'.shares = (Product.ofShown unit inv.nextId q.name q.materials).shares := by
  intro inv succeeded
  have valid : inv.Valid := valid_empty.run changes
  have effect : Effect inv change outcome inv' := step_eq_ok_iff.1 succeeded
  refine ⟨fun unit id p read stays => valid.product_of_effect effect unit stays read, ?_, ?_, ?_⟩
  · rintro productId materialId rfl
    have present : productId ∈ inv.products.ids := by
      cases effect with
      | removePart product => exact product
    obtain ⟨p, read, same⟩ := valid.exists_product present
    refine ⟨p, read, (outcome_removePart effect).trans ?_⟩
    rw [valid.takenOut_eq same]
  · rintro materialId rfl id p' read m member rfl
    have present := (valid.of_effect effect).mem_ids_of_product read member
    have stayed : inv'.Holds (.material m.id) := present
    have gone := (holds_of_effect effect).1 stayed
    simp [Event.added?, Event.removed?] at gone
  · rintro q rfl
    obtain rfl := outcome_addProduct effect
    exact ⟨rfl, fun unit => valid.product_of_addProduct unit effect⟩

/-- A bench of a steel in kilograms and of oil that is used as needed. -/
def bench : List Change :=
  let kilograms : MeasureUnit := { id := 1, name := "kg" }
  let named (name : String) := { Material.new 0 kilograms with names := [name] }
  let part (id : EntityId) (raw : String) := (Material.new id kilograms).enterQuantity raw
  [.addUnit "kg", .addMaterial (named "Steel"), .addMaterial (named "Oil"),
    .addProduct { Product.new 0 "Bench" with materials := [part 2 "2,5", part 3 "as needed"] }]

theorem bench_takes_other_steel :
    let inv := empty.run bench
    ∃ inv' p p', inv.step (.setPart 4 2 "3") = (inv', .ok .done) ∧ inv.product 4 = .ok p ∧
      inv'.product 4 = .ok p' ∧
        p'.shares = (p.setMaterial
          ((Material.new 2 { id := 1, name := "kg" }).enterQuantity "3")).shares := by
  intro inv
  have present : (4 : EntityId) ∈ inv.products.ids := by decide
  have steel : (2 : EntityId) ∈ inv.materials.ids := by decide
  have effect : Effect inv (.setPart 4 2 "3") .done _ := .setPart present steel
  have succeeded := step_eq_ok_iff.2 effect
  obtain ⟨p, read, -⟩ := (valid_empty.run bench).exists_product present
  obtain ⟨acts, -⟩ := changes_act_as_on_products bench _ _ _ succeeded
  obtain ⟨p', read', shares⟩ := acts { id := 1, name := "kg" } 4 p read (by simp)
  exact ⟨_, p, p', succeeded, read, read', shares⟩

end Inventory

end PartsCatalog

import PartsCatalog.Proofs.Editing.Outcome
import PartsCatalog.Proofs.Names

/-!
# Edits of materials

A material that comes about by edits has proper names and different products, whichever edits they
were and whichever of them failed (`edits_keep_names_and_products`).  Every edit keeps names proper
(`ProperNames.edited`); the products are the first of every identifier among those that were added
(`products_editAll`).  Replacing the names is the one edit that can fail, and its check comes before
it writes anything (`performs_setNames`).
-/

namespace PartsCatalog

namespace Material

variable {m : Material} {primaryName : String} {names : List String}

/-! ## Replacing the names -/

/-- The different names of a form that are not empty, and behind them the primary name, unless it is
empty or one of them. -/
def givenNames (primaryName : String) (names : List String) : List String :=
  let given := (names.filter (· ≠ "")).eraseDups
  if primaryName = "" ∨ primaryName ∈ given then given else given ++ [primaryName]

theorem collectNames_eq (primaryName : String) (names : List String) :
    collectNames primaryName names = givenNames primaryName names := by
  have nonempty : names.filter (!·.isEmpty) = names.filter (· ≠ "") := by
    apply List.filter_congr
    intro name _
    rw [Bool.eq_iff_iff]
    simp
  rw [collectNames, givenNames, firstOccurrences_eq_eraseDups, nonempty]
  by_cases unmarked : primaryName = ""
  · rw [if_pos (String.isEmpty_iff.2 unmarked), if_pos (.inl unmarked)]
  · rw [if_neg (mt String.isEmpty_iff.1 unmarked)]
    by_cases present : primaryName ∈ (names.filter (· ≠ "")).eraseDups
    · rw [appendNew_of_mem present, if_pos (.inr present)]
    · rw [appendNew_of_not_mem present, if_neg (not_or.2 ⟨unmarked, present⟩)]

/-- There are names, each of 2 to 200 characters. -/
def NamesFit (names : List String) : Prop :=
  names ≠ [] ∧ ∀ name ∈ names, 2 ≤ name.length ∧ name.length ≤ 200

theorem names_collectNames_eq_ok :
    FieldCheck.names (collectNames primaryName names) = .ok () ↔
      NamesFit (givenNames primaryName names) := by
  rw [collectNames_eq, FieldCheck.names_eq_ok, NamesFit]
  apply and_congr_right'
  exact forall₂_congr fun _ _ => FieldCheck.nameLength_eq_ok

/-- The check is over before a name is written. -/
theorem performs_setNames :
    Editing.Performs (Edit.perform (.setNames primaryName names)) (·.setNames primaryName names)
      .done m := by
  rw [Editing.Performs]
  cases checked : FieldCheck.names (collectNames primaryName names) with
  | ok _ =>
    simp only [setNames_of_passed checked, Edit.perform, checked]
    rfl
  | error fault =>
    simp only [setNames_eq_error_iff.2 checked, Edit.perform, checked]
    rfl

theorem edit_setNames_of_fit (fit : NamesFit (givenNames primaryName names)) :
    let renamed := { m with names := givenNames primaryName names, primaryName }
    m.edit (.setNames primaryName names) = .ok (renamed, .done) ∧
      m.edited (.setNames primaryName names) = renamed := by
  have passed := setNames_of_passed (m := m) (names_collectNames_eq_ok.2 fit)
  rw [collectNames_eq] at passed
  exact performs_setNames.of_ok passed

theorem edit_setNames_of_unfit (unfit : ¬ NamesFit (givenNames primaryName names)) :
    (∃ fault, m.edit (.setNames primaryName names) = .error fault) ∧
      m.edited (.setNames primaryName names) = m := by
  rw [← names_collectNames_eq_ok] at unfit
  cases checked : FieldCheck.names (collectNames primaryName names) with
  | ok _ => exact absurd checked unfit
  | error fault =>
    obtain ⟨failed, left⟩ := performs_setNames.of_error (setNames_eq_error_iff.2 checked)
    exact ⟨⟨fault, failed⟩, left⟩

/-! ## Names -/

/-- Adding a name changes nothing but the names. -/
theorem addName_eq (name : String) :
    m.addName name =
      { m with names := if name = "" then m.names else appendNew m.names name } := by
  cases m with
  | mk id names primaryName unit description quantity quantityInput products =>
    by_cases empty : name = ""
    · simp [addName, lacksName, empty]
    · by_cases present : name ∈ names <;> simp [addName, lacksName, appendNew, empty, present]

end Material

namespace ProperNames

variable {m : Material}

theorem addName (proper : ProperNames m.names m.primaryName) (name : String) :
    ProperNames (m.addName name).names (m.addName name).primaryName := by
  rw [Material.addName_eq]
  dsimp only
  split
  · exact proper
  · next named => exact proper.append named (.inl rfl)

theorem markPrimary (proper : ProperNames m.names m.primaryName) (name : String) :
    ProperNames (m.markPrimary name).names (m.markPrimary name).primaryName := by
  rw [Material.markPrimary, Material.addName_eq]
  dsimp only
  split
  · next empty => exact ⟨proper.distinct, proper.nonempty, absurd empty⟩
  · next named => exact proper.append named (.inr rfl)

/-- Every edit keeps names proper. -/
theorem edited (proper : ProperNames m.names m.primaryName) (e : Material.Edit) :
    ProperNames (m.edited e).names (m.edited e).primaryName := by
  cases e with
  | addName name => exact proper.addName name
  | markPrimary name => exact proper.markPrimary name
  | setNames primaryName names =>
    by_cases fit : Material.NamesFit (Material.givenNames primaryName names)
    · rw [(Material.edit_setNames_of_fit fit).2, ← Material.collectNames_eq]
      exact properNames_collectNames primaryName names
    · rw [(Material.edit_setNames_of_unfit fit).2]
      exact proper
  | addProduct product =>
    have added : m.edited (.addProduct product) = m.addProduct product := rfl
    rw [added, Material.addProduct_eq]
    exact proper
  | setDescription | setQuantity | enterQuantity => exact proper

theorem editAll (proper : ProperNames m.names m.primaryName) (edits : List Material.Edit) :
    ProperNames (m.editAll edits).names (m.editAll edits).primaryName :=
  List.foldlRecOn (motive := fun m : Material => ProperNames m.names m.primaryName) edits _ proper
    fun _ proper e _ => proper.edited e

end ProperNames

/-! ## Products -/

namespace Material

variable {m : Material}

/-- The product that an edit adds, if it adds one. -/
def Edit.product? : Edit → Option Product
  | .addProduct product => some product
  | _ => none

/-- A product is added unless its identifier is there, and nothing else touches the products. -/
theorem products_edited (e : Edit) :
    (m.edited e).products =
      match e.product? with
      | some p => updateOrAppend Product.id p.id (fun p => p) p m.products
      | none => m.products := by
  cases e with
  | addProduct product =>
    have added : m.edited (.addProduct product) = m.addProduct product := rfl
    rw [added, addProduct_eq]
    rfl
  | setNames primaryName names =>
    by_cases fit : NamesFit (givenNames primaryName names)
    · rw [(edit_setNames_of_fit fit).2]
      rfl
    · rw [(edit_setNames_of_unfit fit).2]
      rfl
  | addName name | markPrimary name =>
    have kept : (m.addName name).products = m.products := by rw [addName_eq]
    exact kept
  | setDescription | setQuantity | enterQuantity => rfl

/-- A material without products gets the first of every identifier among those that are added. -/
theorem products_editAll (empty : m.products = []) (edits : List Edit) :
    (m.editAll edits).products = firstOfEach Product.id (edits.filterMap Edit.product?) := by
  have added : ∀ m : Material, (m.editAll edits).products =
      (edits.filterMap Edit.product?).foldl
        (fun done p => updateOrAppend Product.id p.id (fun p => p) p done) m.products := by
    induction edits with
    | nil => exact fun _ => rfl
    | cons e edits ih =>
      intro m
      have products := products_edited (m := m) e
      rw [editAll, List.foldl_cons, ← editAll, ih, products]
      cases adds : e.product? with
      | none => rw [List.filterMap_cons_none adds]
      | some p => rw [List.filterMap_cons_some adds, List.foldl_cons]
  rw [added, empty, foldl_updateOrAppend_self]

end Material

/-! ## All edits -/

open Material in
/-- **Names and products stay proper**, whichever edits made a material.  Its names are different
and not empty, and its primary name is empty or one of them.  Its products have different
identifiers in the order in which they were first added, and each is the first product of its
identifier that was added.  Replacing the names sets the given ones and the primary name where the
given ones fit; where they do not, it fails, and the material is as it was. -/
theorem edits_keep_names_and_products (id : EntityId) (unit : MeasureUnit) (edits : List Edit) :
    let m := (new id unit).editAll edits
    let added := edits.filterMap Edit.product?
    (m.names.Nodup ∧ "" ∉ m.names ∧ (m.primaryName = "" ∨ m.primaryName ∈ m.names)) ∧
    ((m.products.map Product.id).Nodup ∧
      m.products.map Product.id = (added.map Product.id).eraseDups ∧
      ∀ id', m.products.find? (·.id == id') = added.find? (·.id == id')) ∧
    ∀ primaryName names,
      let given := givenNames primaryName names
      let rename := Edit.setNames primaryName names
      let renamed := { m with names := given, primaryName }
      NamesFit given ∧ m.edit rename = .ok (renamed, .done) ∧ m.edited rename = renamed ∨
        ¬ NamesFit given ∧ (∃ fault, m.edit rename = .error fault) ∧ m.edited rename = m := by
  intro m added
  have proper : ProperNames m.names m.primaryName :=
    properNames_nil.editAll (m := new id unit) edits
  have products : m.products = firstOfEach Product.id added := products_editAll rfl edits
  have ids : m.products.map Product.id = (added.map Product.id).eraseDups := by
    rw [products, map_key_firstOfEach]
  refine ⟨⟨proper.distinct, proper.nonempty, ?_⟩, ⟨?_, ids, fun id' => ?_⟩,
    fun primaryName names => ?_⟩
  · exact Classical.or_iff_not_imp_left.2 proper.primary
  · rw [products]
    exact nodup_map_key_firstOfEach Product.id added
  · rw [products, find?_firstOfEach]
  · by_cases fit : NamesFit (givenNames primaryName names)
    · exact .inl ⟨fit, edit_setNames_of_fit fit⟩
    · exact .inr ⟨fit, edit_setNames_of_unfit fit⟩

end PartsCatalog

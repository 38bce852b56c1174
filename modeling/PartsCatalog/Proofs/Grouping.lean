import Mathlib.Data.List.ReduceOption
import PartsCatalog.Grouping
import PartsCatalog.Proofs.Attempt
import PartsCatalog.Proofs.FirstOccurrence

/-!
# Laws of grouping

The rows of one material pair each of its names with each of its products, and merging them collects
both (`foldl_mergePair`): a name that comes again changes nothing, neither does a product, and it
does not matter which of the two is added first.  What is added unless it is there is the first of
every identifier (`foldl_addProduct_of_nil`, `foldl_addMaterial_of_nil`).  The rows of one entry
after another become one entry after another (`foldlM_blocks`).
-/

namespace PartsCatalog

/-! ## Names -/

/-- All names and the primary one, with a marked name among them. -/
def MarkedName.addTo (name : MarkedName) (known : List String × String) : List String × String :=
  if name.name.isEmpty then known
  else
    (if known.1.contains name.name then known.1 else known.1 ++ [name.name],
      if name.isPrimary && known.2.isEmpty then name.name else known.2)

/-- A name that comes again is there already, and so is a primary name. -/
theorem MarkedName.addTo_addTo (name : MarkedName) (known : List String × String) :
    name.addTo (name.addTo known) = name.addTo known := by
  by_cases empty : name.name.isEmpty
  · simp [addTo, empty]
  · by_cases present : name.name ∈ known.1 <;> by_cases primary : known.2 = "" <;>
      by_cases marked : name.isPrimary <;> simp_all [addTo]

/-- All names and the primary one of a list of marked names. -/
def MarkedName.collect (names : List MarkedName) : List String × String :=
  names.foldl (fun known name => name.addTo known) ([], "")

/-- The names of rows are the first occurrences among those that are not empty. -/
theorem MarkedName.fst_collect (rows : List MarkedName) :
    (collect rows).1 = firstOccurrences ((rows.map (·.name)).filter (!·.isEmpty)) := by
  have collected : ∀ known : List String × String,
      (rows.foldl (fun known row => row.addTo known) known).1 =
        ((rows.map (·.name)).filter (!·.isEmpty)).foldl appendNew known.1 := by
    induction rows with
    | nil => exact fun _ => rfl
    | cons row rows ih =>
      intro known
      rw [List.foldl_cons, ih, List.map_cons]
      by_cases empty : row.name.isEmpty <;> simp [addTo, empty, appendNew]
  exact collected ([], "")

/-- The primary name is the first marked one that is not empty, unless there was one before. -/
theorem MarkedName.snd_foldl (rows : List MarkedName) (known : List String × String) :
    (rows.foldl (fun known row => row.addTo known) known).2 =
      if known.2 = "" then
        ((rows.find? fun row => row.isPrimary && !row.name.isEmpty).map (·.name)).getD ""
      else known.2 := by
  induction rows generalizing known with
  | nil => simp
  | cons row rows ih =>
    rw [List.foldl_cons, ih]
    obtain ⟨collected, primary⟩ := known
    by_cases empty : row.name = "" <;> by_cases marked : row.isPrimary <;>
      by_cases before : primary = "" <;> simp [addTo, empty, marked, before]

namespace Material

variable {m : Material} {name : MarkedName} {p : Product} {ps : List Product}

/-- The material with other names and another primary one. -/
def withNames (m : Material) (known : List String × String) : Material :=
  { m with names := known.1, primaryName := known.2 }

theorem addMarked_eq :
    m.addMarked name = m.withNames (name.addTo (m.names, m.primaryName)) := by
  cases m with
  | mk id names primaryName unit description quantity quantityInput products =>
    by_cases empty : name.name.isEmpty
    · simp [addMarked, withNames, MarkedName.addTo, empty]
    · by_cases present : name.name ∈ names <;> by_cases marked : name.isPrimary <;>
        by_cases primary : primaryName = "" <;>
        simp_all [addMarked, addName, lacksName, hasPrimaryName, withNames, MarkedName.addTo]

/-- Names change nothing but the names, and depend on nothing else. -/
theorem foldl_addMarked (names : List MarkedName) :
    names.foldl addMarked m =
      m.withNames (names.foldl (fun known name => name.addTo known) (m.names, m.primaryName)) := by
  induction names generalizing m with
  | nil => cases m; rfl
  | cons name names ih =>
    rw [List.foldl_cons, ih, addMarked_eq]
    rfl

theorem addMarked_addMarked : (m.addMarked name).addMarked name = m.addMarked name := by
  rw [addMarked_eq, addMarked_eq (m := m)]
  exact congrArg m.withNames (name.addTo_addTo (m.names, m.primaryName))

@[simp] theorem id_addMarked : (m.addMarked name).id = m.id := by rw [addMarked_eq, withNames]

@[simp] theorem products_addMarked : (m.addMarked name).products = m.products := by
  rw [addMarked_eq, withNames]

/-! ## Products -/

theorem addProduct_of_mem (present : p.id ∈ m.products.map Product.id) : m.addProduct p = m := by
  have known : m.lacksProduct p = false := by simpa [lacksProduct] using present
  rw [addProduct, known, if_neg Bool.false_ne_true]

theorem addProduct_of_not_mem (absent : p.id ∉ m.products.map Product.id) :
    m.addProduct p = { m with products := m.products ++ [p] } := by
  have new : m.lacksProduct p := by simpa [lacksProduct] using absent
  rw [addProduct, if_pos new]

/-- Names and products do not get in each other's way. -/
theorem addMarked_addProduct :
    (m.addProduct p).addMarked name = (m.addMarked name).addProduct p := by
  by_cases present : p.id ∈ m.products.map Product.id
  · rw [addProduct_of_mem present, addProduct_of_mem (by rwa [products_addMarked])]
  · rw [addProduct_of_not_mem present, addProduct_of_not_mem (by rwa [products_addMarked]),
      products_addMarked, addMarked_eq, addMarked_eq]
    rfl

theorem addProduct_eq : m.addProduct p =
    { m with products := updateOrAppend Product.id p.id (fun p => p) p m.products } := by
  by_cases present : p.id ∈ m.products.map Product.id
  · rw [addProduct_of_mem present, updateOrAppend_self_of_mem present]
    cases m
    rfl
  · rw [addProduct_of_not_mem present, updateOrAppend_of_not_mem present]

/-- A material without products is given the first product of every identifier. -/
theorem foldl_addProduct_of_nil (none : m.products = []) :
    ps.foldl addProduct m = { m with products := firstOfEach Product.id ps } := by
  have added : ∀ m : Material, ps.foldl addProduct m = { m with
      products := ps.foldl (fun done p => updateOrAppend Product.id p.id (fun p => p) p done)
        m.products } := by
    intro m
    induction ps generalizing m with
    | nil =>
      cases m
      rfl
    | cons p ps ih => rw [List.foldl_cons, ih, addProduct_eq, List.foldl_cons]
  rw [added, none, foldl_updateOrAppend_self]

/-- Different products are all added. -/
theorem foldl_addProduct (none : m.products = []) (distinct : (ps.map Product.id).Nodup) :
    ps.foldl addProduct m = { m with products := ps } := by
  rw [foldl_addProduct_of_nil none, firstOfEach_of_nodup distinct]

theorem foldl_addProduct_of_mem (present : ∀ p ∈ ps, p.id ∈ m.products.map Product.id) :
    ps.foldl addProduct m = m := by
  induction ps with
  | nil => rfl
  | cons p ps ih =>
    rw [List.foldl_cons, addProduct_of_mem (present p List.mem_cons_self)]
    exact ih fun q member => present q (List.mem_cons_of_mem p member)

theorem mem_foldl_addProduct {id : EntityId} :
    id ∈ (ps.foldl addProduct m).products.map Product.id ↔
      id ∈ m.products.map Product.id ∨ id ∈ ps.map Product.id := by
  induction ps generalizing m with
  | nil => simp
  | cons p ps ih =>
    rw [List.foldl_cons, ih, List.map_cons, List.mem_cons]
    by_cases present : p.id ∈ m.products.map Product.id
    · rw [addProduct_of_mem present]
      constructor
      · exact Or.imp_right .inr
      · intro member
        rcases member with old | rfl | new
        · exact .inl old
        · exact .inl present
        · exact .inr new
    · rw [addProduct_of_not_mem present, List.map_append, List.mem_append, List.map_singleton,
        List.mem_singleton, or_assoc]

theorem foldl_addProduct_addMarked :
    (ps.foldl addProduct m).addMarked name = ps.foldl addProduct (m.addMarked name) := by
  induction ps generalizing m with
  | nil => rfl
  | cons p ps ih => rw [List.foldl_cons, ih, addMarked_addProduct, List.foldl_cons]

theorem foldl_addMarked_addProduct (names : List MarkedName) :
    names.foldl addMarked (m.addProduct p) = (names.foldl addMarked m).addProduct p := by
  induction names generalizing m with
  | nil => rfl
  | cons name names ih => rw [List.foldl_cons, addMarked_addProduct, ih, List.foldl_cons]

theorem foldl_addProduct_idem :
    ps.foldl addProduct (ps.foldl addProduct m) = ps.foldl addProduct m :=
  foldl_addProduct_of_mem fun _ member =>
    mem_foldl_addProduct.2 (.inr (List.mem_map_of_mem member))

/-! ## The rows of one material -/

variable {names : List MarkedName} {uses : List (Option Product)}

/-- The material with the name and the product of a row, if the row has one. -/
def mergePair (m : Material) (pair : MarkedName × Option Product) : Material :=
  pair.2.elim (m.addMarked pair.1) (m.addMarked pair.1).addProduct

@[simp] theorem id_addProduct : (m.addProduct p).id = m.id := by
  unfold addProduct
  split <;> rfl

@[simp] theorem id_mergePair (pair : MarkedName × Option Product) :
    (m.mergePair pair).id = m.id := by
  obtain ⟨name, use⟩ := pair
  cases use with
  | none => exact id_addMarked
  | some p => exact id_addProduct.trans id_addMarked

/-- One name is added once, however many products come with it. -/
theorem foldl_mergePair_of_known (known : m.addMarked name = m) :
    (uses.map fun use => (name, use)).foldl mergePair m =
      uses.reduceOption.foldl addProduct m := by
  induction uses generalizing m with
  | nil => rfl
  | cons use uses ih =>
    rw [List.map_cons, List.foldl_cons]
    cases use with
    | none =>
      rw [show m.mergePair (name, none) = m from known, ih known, List.reduceOption_cons_of_none]
    | some p =>
      have same : m.mergePair (name, some p) = m.addProduct p := congrArg (addProduct · p) known
      rw [same, ih (by rw [addMarked_addProduct, known]), List.reduceOption_cons_of_some,
        List.foldl_cons]

theorem foldl_mergePair_name (present : uses ≠ []) :
    (uses.map fun use => (name, use)).foldl mergePair m =
      uses.reduceOption.foldl addProduct (m.addMarked name) := by
  -- the first row adds the name, so the material may as well have it from the start
  have early : (uses.map fun use => (name, use)).foldl mergePair m =
      (uses.map fun use => (name, use)).foldl mergePair (m.addMarked name) := by
    obtain ⟨use, rest, rfl⟩ := List.exists_cons_of_ne_nil present
    rw [List.map_cons, List.foldl_cons, List.foldl_cons, mergePair, mergePair, addMarked_addMarked]
  rw [early, foldl_mergePair_of_known addMarked_addMarked]

/-- Once the products are there, each further name finds them there. -/
theorem foldl_mergePair_of_added (present : uses ≠ []) :
    (names.flatMap fun name => uses.map fun use => (name, use)).foldl mergePair
      (uses.reduceOption.foldl addProduct m) =
        uses.reduceOption.foldl addProduct (names.foldl addMarked m) := by
  induction names generalizing m with
  | nil => rfl
  | cons name names ih =>
    rw [List.flatMap_cons, List.foldl_append, foldl_mergePair_name present,
      foldl_addProduct_addMarked, foldl_addProduct_idem, ih, List.foldl_cons]

/-- Rows that pair every name with every product add what the two lists add. -/
theorem foldl_mergePair (named : names ≠ []) (present : uses ≠ []) :
    (names.flatMap fun name => uses.map fun use => (name, use)).foldl mergePair m =
      uses.reduceOption.foldl addProduct (names.foldl addMarked m) := by
  obtain ⟨name, names, rfl⟩ := List.exists_cons_of_ne_nil named
  rw [List.flatMap_cons, List.foldl_append, foldl_mergePair_name present,
    foldl_mergePair_of_added present, List.foldl_cons]

end Material

/-! ## Products -/

/-- A product as a list shows it: its materials come without descriptions. -/
def Product.asListed (p : Product) : Product :=
  { p with materials := p.materials.map (·.withDescription "") }

namespace Product

variable {p : Product} {m : Material} {ms : List Material}

theorem addMaterial_of_not_mem (absent : m.id ∉ p.materials.map Material.id) :
    p.addMaterial m = { p with materials := p.materials ++ [m] } := by
  have new : p.material? m.id = none := find?_key_eq_none_iff.2 absent
  rw [addMaterial, new, Option.isSome_none, if_neg Bool.false_ne_true]

theorem addMaterial_eq : p.addMaterial m =
    { p with materials := updateOrAppend Material.id m.id (fun m => m) m p.materials } := by
  by_cases present : m.id ∈ p.materials.map Material.id
  · have known : (p.material? m.id).isSome := by
      rw [Option.isSome_iff_ne_none]
      exact mt find?_key_eq_none_iff.1 (not_not.2 present)
    rw [addMaterial, if_pos known, updateOrAppend_self_of_mem present]
    cases p
    rfl
  · rw [addMaterial_of_not_mem present, updateOrAppend_of_not_mem present]

/-- A product without materials is given the first material of every identifier. -/
theorem foldl_addMaterial_of_nil (none : p.materials = []) :
    ms.foldl addMaterial p = { p with materials := firstOfEach Material.id ms } := by
  have added : ∀ p : Product, ms.foldl addMaterial p = { p with
      materials := ms.foldl (fun done m => updateOrAppend Material.id m.id (fun m => m) m done)
        p.materials } := by
    intro p
    induction ms generalizing p with
    | nil =>
      cases p
      rfl
    | cons m ms ih => rw [List.foldl_cons, ih, addMaterial_eq, List.foldl_cons]
  rw [added, none, foldl_updateOrAppend_self]

/-- Different materials are all added. -/
theorem foldl_addMaterial (none : p.materials = []) (distinct : (ms.map Material.id).Nodup) :
    ms.foldl addMaterial p = { p with materials := ms } := by
  rw [foldl_addMaterial_of_nil none, firstOfEach_of_nodup distinct]

/-- A part whose row can be read is added as the material of the row. -/
theorem addTo_of_material {row : PartRow} (read : row.material = .ok m)
    (sameId : m.id = row.materialId) : row.addTo p = .ok (p.addMaterial m) := by
  unfold PartRow.addTo
  cases present : (p.material? row.materialId).isSome with
  | true =>
    rw [addMaterial, sameId, present]
    rfl
  | false =>
    rw [if_neg Bool.false_ne_true, read]
    rfl

@[simp] theorem id_merge (material : Option Material) :
    (ProductRow.merge material p).id = p.id := by
  cases material with
  | none => rfl
  | some m =>
    rw [ProductRow.merge, addMaterial]
    split <;> rfl

theorem foldl_merge (materials : List (Option Material)) :
    materials.foldl (fun p m => ProductRow.merge m p) p =
      materials.reduceOption.foldl addMaterial p := by
  induction materials generalizing p with
  | nil => rfl
  | cons material materials ih =>
    rw [List.foldl_cons, ih]
    cases material with
    | none => rw [List.reduceOption_cons_of_none, ProductRow.merge]
    | some m => rw [List.reduceOption_cons_of_some, List.foldl_cons, ProductRow.merge]

end Product

/-! ## One entry after another -/

section Blocks

variable {α β γ ε κ : Type} {key : α → κ} {k : κ} {done : List α}

/-- Where the rows of every entry append it, all rows append all entries. -/
theorem foldlM_blocks {step : List α → β → Except ε (List α)} {entries : List γ}
    (rows : γ → List β) (item : γ → α)
    (appends : ∀ entry ∈ entries, ∀ done : List α, key (item entry) ∉ done.map key →
      (rows entry).foldlM step done = .ok (done ++ [item entry]))
    (distinct : ((done ++ entries.map item).map key).Nodup) :
    (entries.map rows).flatten.foldlM step done = .ok (done ++ entries.map item) := by
  induction entries generalizing done with
  | nil => simp [pure, Except.pure]
  | cons entry entries ih =>
    have absent : key (item entry) ∉ done.map key := key_not_mem_of_nodup distinct
    rw [List.map_cons, List.flatten_cons, List.foldlM_append,
      appends entry List.mem_cons_self done absent, ok_bind,
      ih (fun other member => appends other (List.mem_cons_of_mem entry member))
        (by simpa using distinct)]
    simp

variable [BEq κ] [LawfulBEq κ]

/-- The rows of a new entry start it at the end of the list and then change it there. -/
theorem foldl_updateOrAppend (change : β → α → α) (start : β → α) {row : β} {rows : List β}
    (absent : k ∉ done.map key) (atKey : key (start row) = k)
    (keeps : ∀ row x, key (change row x) = key x) :
    (row :: rows).foldl (fun done row =>
        updateOrAppend key k (change row) (change row (start row)) done) done =
      done ++ [(row :: rows).foldl (fun x row => change row x) (start row)] := by
  have onward : ∀ x, key x = k → rows.foldl (fun done row =>
      updateOrAppend key k (change row) (change row (start row)) done) (done ++ [x]) =
        done ++ [rows.foldl (fun x row => change row x) x] := by
    induction rows with
    | nil => exact fun _ _ => rfl
    | cons row rows ih =>
      intro x atKey
      rw [List.foldl_cons, updateOrAppend_append_of_not_mem absent,
        updateOrAppend_cons_of_eq atKey, ih _ ((keeps row x).trans atKey), List.foldl_cons]
  rw [List.foldl_cons, updateOrAppend_of_not_mem absent,
    onward _ ((keeps row _).trans atKey), List.foldl_cons]

end Blocks

end PartsCatalog

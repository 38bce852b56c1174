import PartsCatalog.Proofs.Inventory.Effect

/-!
# Changes are all or nothing

An action could end in a fault with part of its work done.  No change does: each of them has read
everything that it can fail on before it writes (`atomicAt_perform`).  Adding a product is the one
change that still calls a fallible action after its first write, and there the earlier look at all
materials is what rules the fault out (`run_forM_setPart`).
-/

namespace PartsCatalog

open PartsCatalog.Action

namespace Inventory

/-- A product that is stored takes all its parts: nothing can fail after the identifier is taken. -/
theorem atomicAt_addProduct (inv : Inventory) (p : Product) : AtomicAt (addProduct p) inv := by
  refine atomicAt_consult_bind fun _ _ => atomicAt_consult_bind fun _ present => ?_
  have present := checkMaterials_eq_ok.1 present
  have stored : inv.nextId ∈ (inv.advance.putProduct inv.nextId
      { name := p.name, description := p.description }).products.ids :=
    Table.mem_ids_insert.2 (.inl rfl)
  apply atomicAt_of_ok (a := inv.nextId)
  exact run_bind_eq_ok.2 ⟨_, _, rfl, run_bind_eq_ok.2 ⟨_, _, rfl,
    run_bind_eq_ok.2 ⟨_, _, run_forM_setPart stored present, rfl⟩⟩⟩

/-- No change leaves anything behind where it fails. -/
theorem atomicAt_perform (inv : Inventory) (change : Change) : AtomicAt change.perform inv := by
  cases change with
  -- what one look-up decides
  | addUnit | removeMaterial | removePart | removeProduct | removeFile =>
    exact AtomicAt.map (atomicAt_consult_bind fun _ _ => atomicAt_of_ok rfl)
  -- what two decide
  | renameUnit | removeUnit | addMaterial | renameMaterial | changeUnit | describeMaterial
  | reviseProduct | setPart | addFile =>
    exact AtomicAt.map <| atomicAt_consult_bind fun _ _ => atomicAt_consult_bind fun _ _ =>
      atomicAt_of_ok rfl
  | choosePicture =>
    exact AtomicAt.map <| atomicAt_consult_bind fun _ _ => atomicAt_consult_bind fun _ _ =>
      atomicAt_consult_bind fun _ _ => atomicAt_consult_bind fun _ _ => atomicAt_of_ok rfl
  | addProduct p => exact AtomicAt.map (atomicAt_addProduct inv p)

/-! ## Steps -/

/-- A step either has the effect of its change or leaves the inventory as it was. -/
theorem step_cases (inv : Inventory) (change : Change) :
    (∃ outcome inv', inv.step change = (inv', .ok outcome) ∧ Effect inv change outcome inv') ∨
      ∃ fault, inv.step change = (inv, .error fault) := by
  unfold step
  cases ended : change.perform.run inv with
  | ok outcome inv' => exact .inl ⟨outcome, inv', rfl, effect_of_run ended⟩
  | error fault inv' =>
    obtain rfl := atomicAt_perform inv change fault inv' ended
    exact .inr ⟨fault, rfl⟩

/-- A step succeeds exactly where its change has an effect, and with this effect. -/
theorem step_eq_ok_iff {inv inv' : Inventory} {change : Change} {outcome : Outcome} :
    inv.step change = (inv', .ok outcome) ↔ Effect inv change outcome inv' := by
  constructor
  · intro succeeded
    rcases inv.step_cases change with ⟨outcome', inv'', ended, effect⟩ | ⟨fault, ended⟩
    · cases ended.symm.trans succeeded
      exact effect
    · exact nomatch congrArg Prod.snd (ended.symm.trans succeeded)
  · intro effect
    rw [step, run_of_effect effect]

section Invariant

variable {inv : Inventory} {invariant : Inventory → Prop}

/-- What every effect keeps is kept by a step. -/
theorem step_invariant
    (preserves : ∀ {inv change outcome inv'}, invariant inv → Effect inv change outcome inv' →
      invariant inv')
    (initial : invariant inv) (change : Change) : invariant (inv.step change).1 := by
  rcases inv.step_cases change with ⟨outcome, inv', ended, effect⟩ | ⟨fault, ended⟩
  · rw [ended]
    exact preserves initial effect
  · rw [ended]
    exact initial

/-- What every effect keeps is kept by a run. -/
theorem run_invariant
    (preserves : ∀ {inv change outcome inv'}, invariant inv → Effect inv change outcome inv' →
      invariant inv')
    (initial : invariant inv) (changes : List Change) : invariant (inv.run changes) := by
  induction changes generalizing inv with
  | nil => exact initial
  | cons change changes ih => exact ih (step_invariant preserves initial change)

end Invariant

/-! ## Links of a stored product -/

theorem mem_ends_putLink {inv : Inventory} {link : Link} {ends : EntityId × EntityId} :
    ends ∈ (inv.putLink link).links.map Link.ends ↔
      ends = link.ends ∨ ends ∈ inv.links.map Link.ends := by
  rw [putLink]
  by_cases present : link.ends ∈ inv.links.map Link.ends
  · rw [map_key_updateOrAppend_of_mem present fun _ _ => rfl]
    refine ⟨.inr, ?_⟩
    rintro (rfl | member)
    · exact present
    · exact member
  · rw [updateOrAppend_of_not_mem present, List.map_append, List.mem_append, or_comm]
    simp

/-- The ends of the links after parts were set: the old ones and those of the parts. -/
theorem mem_ends_putParts {productId : EntityId} {ends : EntityId × EntityId} :
    ∀ {ms : List Material} {inv : Inventory},
      ends ∈ (inv.putParts productId ms).links.map Link.ends ↔
        ends ∈ inv.links.map Link.ends ∨ ∃ m ∈ ms, ends = (productId, m.id)
  | [], inv => by simp [putParts]
  | m :: ms, inv => by
    rw [putParts_cons, mem_ends_putParts, mem_ends_putLink, List.exists_mem_cons_iff, or_assoc,
      or_left_comm]
    rfl

/-- **A change that fails changes nothing**: not the tables, not the links, not the files and not
the identifier given out last.  So a product is added with its record and a link to each of its
materials, whatever the list of materials repeats, or the inventory stays as it was. -/
theorem failed_change_changes_nothing (inv : Inventory) :
    (∀ change fault, (inv.step change).2 = .error fault → (inv.step change).1 = inv) ∧
      ∀ p : Product,
        (∃ fault, inv.step (.addProduct p) = (inv, .error fault)) ∨
          ∃ inv', inv.step (.addProduct p) = (inv', .ok (.added inv.nextId)) ∧
            inv' = (inv.advance.putProduct inv.nextId
              { name := p.name, description := p.description }).putParts inv.nextId p.materials ∧
            ∀ m ∈ p.materials, (inv.nextId, m.id) ∈ inv'.links.map Link.ends := by
  constructor
  · intro change fault failed
    rcases inv.step_cases change with ⟨outcome, inv', ended, -⟩ | ⟨fault, ended⟩
    · rw [ended] at failed
      cases failed
    · rw [ended]
  · intro p
    rcases inv.step_cases (.addProduct p) with ⟨outcome, inv', ended, effect⟩ | failed
    · cases effect
      exact .inr ⟨_, ended, rfl, fun m member => mem_ends_putParts.2 (.inr ⟨m, member, rfl⟩)⟩
    · exact .inl failed

/-- An inventory with one material, which is measured in kilograms. -/
def oneMaterial : Inventory :=
  empty.run [
    .addUnit "kg",
    .addMaterial { Material.new 0 { id := 1, name := "kg" } with names := ["Steel"] }]

/-- A product that takes a known material twice and then one that nobody knows. -/
def cart : Product :=
  let part (id : EntityId) : Material := .new id { id := 1, name := "kg" }
  { Product.new 0 "Cart" with materials := [part 2, part 2, part 999] }

theorem cart_leaves_nothing :
    (oneMaterial.step (.addProduct cart)).2 = .error (.materialMissing 999) ∧
      (oneMaterial.step (.addProduct cart)).1 = oneMaterial := by
  have failed : (oneMaterial.step (.addProduct cart)).2 = .error (.materialMissing 999) := rfl
  exact ⟨failed, (failed_change_changes_nothing oneMaterial).1 (.addProduct cart) _ failed⟩

end Inventory

end PartsCatalog

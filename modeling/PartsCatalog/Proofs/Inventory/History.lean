import PartsCatalog.Proofs.Inventory.Atomicity
import PartsCatalog.Proofs.Since

/-!
# Histories

What is there after a run can be read off the answers given during the run: exactly what a change
added that succeeded, and no later one removed (`holds_run`).  The tables do not come into it, so
this is how an inventory looks to somebody who only makes changes and keeps their answers.
-/

namespace PartsCatalog

/-- What can be added and removed on its own. -/
inductive Entry where
  | unit (id : EntityId)
  | material (id : EntityId)
  | product (id : EntityId)
deriving DecidableEq

/-- A change and what it answered. -/
structure Event where
  change : Change
  answer : Except Fault Outcome

namespace Event

/-- What an event added. -/
def added? : Event → Option Entry
  | ⟨.addUnit _, .ok (.added id)⟩ => some (.unit id)
  | ⟨.addMaterial _, .ok (.added id)⟩ => some (.material id)
  | ⟨.addProduct _, .ok (.added id)⟩ => some (.product id)
  | _ => none

/-- What an event removed. -/
def removed? : Event → Option Entry
  | ⟨.removeUnit id, .ok _⟩ => some (.unit id)
  | ⟨.removeMaterial id, .ok _⟩ => some (.material id)
  | ⟨.removeProduct id, .ok _⟩ => some (.product id)
  | _ => none

end Event

/-- An entry was added and not removed since. -/
def Kept (log : List Event) (entry : Entry) : Prop :=
  ∃ before event after, log = before ++ event :: after ∧ event.added? = some entry ∧
    ∀ later ∈ after, later.removed? ≠ some entry

theorem kept_cons {event : Event} {log : List Event} {entry : Entry} :
    Kept (event :: log) entry ↔
      Kept log entry ∨ event.added? = some entry ∧ ∀ later ∈ log, later.removed? ≠ some entry :=
  since_cons

namespace Inventory

/-- The events of a run. -/
def history (inv : Inventory) : List Change → List Event
  | [] => []
  | change :: changes => ⟨change, (inv.step change).2⟩ :: history (inv.step change).1 changes

theorem run_append (inv : Inventory) (before after : List Change) :
    inv.run (before ++ after) = (inv.run before).run after := List.foldl_append

theorem history_append (inv : Inventory) (before after : List Change) :
    inv.history (before ++ after) = inv.history before ++ (inv.run before).history after := by
  induction before generalizing inv with
  | nil => rfl
  | cons change before ih =>
    rw [List.cons_append, history, ih]
    rfl

/-- An event of a run is the step of one of its changes. -/
theorem exists_split_of_mem_history {inv : Inventory} {changes : List Change} {event : Event}
    (member : event ∈ inv.history changes) :
    ∃ before change after, changes = before ++ change :: after ∧
      event = ⟨change, ((inv.run before).step change).2⟩ := by
  induction changes generalizing inv with
  | nil => cases member
  | cons change changes ih =>
    rcases List.mem_cons.1 member with rfl | later
    · exact ⟨[], change, changes, rfl, rfl⟩
    · obtain ⟨before, change', after, split, same⟩ := ih later
      exact ⟨change :: before, change', after, by rw [split, List.cons_append], same⟩

/-- An entry is there. -/
def Holds (inv : Inventory) : Entry → Prop
  | .unit id => id ∈ inv.units.ids
  | .material id => id ∈ inv.materials.ids
  | .product id => id ∈ inv.products.ids

variable {inv inv' : Inventory} {entry : Entry}

/-! ## Steps -/

theorem holds_congr (units : inv'.units.ids = inv.units.ids)
    (materials : inv'.materials.ids = inv.materials.ids)
    (products : inv'.products.ids = inv.products.ids) : inv'.Holds entry ↔ inv.Holds entry := by
  cases entry with
  | unit id => rw [Holds, Holds, units]
  | material id => rw [Holds, Holds, materials]
  | product id => rw [Holds, Holds, products]

/-- An event without an entry of its own keeps what is there. -/
theorem holds_of_same {event : Event} (same : inv'.Holds entry ↔ inv.Holds entry)
    (added : event.added? = none) (removed : event.removed? = none) :
    inv'.Holds entry ↔
      event.added? = some entry ∨ inv.Holds entry ∧ event.removed? ≠ some entry := by
  simp [same, added, removed]

theorem holds_of_effect {change : Change} {outcome : Outcome}
    (effect : Effect inv change outcome inv') :
    inv'.Holds entry ↔ (Event.mk change (.ok outcome)).added? = some entry ∨
      inv.Holds entry ∧ (Event.mk change (.ok outcome)).removed? ≠ some entry := by
  cases effect with
  | addUnit | addMaterial =>
    cases entry <;>
      simp [Holds, Event.added?, Event.removed?, putUnit, putMaterial, putNames, advance,
        Table.mem_ids_insert, eq_comm]
  | @addProduct p =>
    obtain ⟨links, parts⟩ := exists_putParts_eq inv.nextId p.materials (inv.advance.putProduct
      inv.nextId { name := p.name, description := p.description })
    rw [parts]
    cases entry <;>
      simp [Holds, Event.added?, Event.removed?, putProduct, advance, Table.mem_ids_insert, eq_comm]
  | removeUnit | removeMaterial | removeProduct =>
    cases entry <;>
      simp [Holds, Event.added?, Event.removed?, dropUnit, dropMaterial, dropProduct,
        Table.mem_ids_erase, eq_comm]
  -- what is set in its place stays in its place
  | renameUnit free found =>
    refine holds_of_same (holds_congr ?_ rfl rfl) rfl rfl
    exact Table.ids_insert_of_mem (Table.mem_ids_of_get? found)
  | changeUnit measured found | describeMaterial short found =>
    refine holds_of_same (holds_congr rfl ?_ rfl) rfl rfl
    exact Table.ids_insert_of_mem (Table.mem_ids_of_get? found)
  | reviseProduct proper present =>
    refine holds_of_same (holds_congr rfl rfl ?_) rfl rfl
    exact Table.ids_insert_of_mem present
  | renameMaterial | setPart | removePart | addFile | choosePicture | removeFile =>
    exact holds_of_same (holds_congr rfl rfl rfl) rfl rfl

theorem holds_step (inv : Inventory) (change : Change) (entry : Entry) :
    (inv.step change).1.Holds entry ↔
      (Event.mk change (inv.step change).2).added? = some entry ∨
        inv.Holds entry ∧ (Event.mk change (inv.step change).2).removed? ≠ some entry := by
  rcases inv.step_cases change with ⟨outcome, inv', ended, effect⟩ | ⟨fault, ended⟩
  · rw [ended]
    exact holds_of_effect effect
  · rw [ended]
    refine holds_of_same Iff.rfl ?_ ?_ <;> cases change <;> rfl

/-! ## Runs -/

theorem holds_run (changes : List Change) (inv : Inventory) (entry : Entry) :
    (inv.run changes).Holds entry ↔
      Kept (inv.history changes) entry ∨
        inv.Holds entry ∧ ∀ event ∈ inv.history changes, event.removed? ≠ some entry := by
  induction changes generalizing inv with
  | nil => simp [run, history, Kept]
  | cons change changes ih =>
    rw [history, kept_cons, List.forall_mem_cons]
    refine (ih (inv.step change).1).trans ?_
    rw [holds_step, or_and_right, ← or_assoc, and_assoc]

/-- From the empty inventory on, what is there is what was added and not removed since. -/
theorem holds_run_empty (changes : List Change) (entry : Entry) :
    (empty.run changes).Holds entry ↔ Kept (empty.history changes) entry := by
  have absent : ¬ empty.Holds entry := by cases entry <;> exact List.not_mem_nil
  rw [holds_run, or_iff_left fun held => absent held.1]

end Inventory

end PartsCatalog
